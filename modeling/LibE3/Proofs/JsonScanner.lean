import LibE3.Lib.JsonTree
import LibE3.Proofs.ScannerReads

/-!
# The tokens of the scanner

At a position where the text goes on with white space, a string, a number or a word, the scanner
stops right behind it. The name of a member is compared byte by byte, and a span cuts out the text
that it was made for.
-/

namespace LibE3

open Faults Json

namespace JsonE3Encoder

variable {fuel : ℕ} {text : Bytes} {pos : ℕ}

/-! ## Positions -/

variable {s : Bytes} {c : UInt8}

theorem lt_of_drop (h : text.drop pos = c :: s) : pos < text.length := by
  by_contra hge
  rw [List.drop_eq_nil_of_le (by omega)] at h
  cases h

theorem getElem_of_drop (h : text.drop pos = c :: s) (hlt : pos < text.length) : text[pos] = c := by
  rw [List.drop_eq_getElem_cons hlt] at h
  exact (List.cons.inj h).1

theorem drop_succ (h : text.drop pos = c :: s) :
    text.drop (pos + 1) = s := by
  rw [← List.drop_drop, h, List.drop_succ_cons, List.drop_zero]

theorem drop_add {t s : Bytes} (h : text.drop pos = t ++ s) : text.drop (pos + t.length) = s := by
  rw [← List.drop_drop, h, List.drop_left]

theorem length_of_drop (h : text.drop pos = s) (hs : s ≠ []) :
    text.length = pos + s.length := by
  have hlen := congrArg List.length h
  rw [List.length_drop] at hlen
  have : s.length ≠ 0 := fun h0 => hs (List.eq_nil_of_length_eq_zero h0)
  omega

theorem read_of_drop (h : text.drop pos = c :: s) :
    read text pos = .ok c := by
  rw [read_of_lt (lt_of_drop h), getElem_of_drop h]

/-! ## White space and strings -/

namespace Reads

theorem skipWs_add {w s : Bytes} (hfuel : text.length < fuel) (hw : Ws w)
    (h : text.drop pos = w ++ s) : skipWs fuel text pos = skipWs fuel text (pos + w.length) := by
  induction w generalizing pos with
  | nil => rfl
  | cons c w ih =>
    have hturn : wsTurn text pos = .ok (.running (pos + 1)) := by
      rw [wsTurn, if_pos (lt_of_drop h), read_of_drop h, ok_bind,
        if_pos (show isJsonWs c = true from hw c List.mem_cons_self)]
      rfl
    have hnext := ih (fun d hd => hw d (List.mem_cons_of_mem c hd)) (drop_succ h)
    rw [skipWs, loop_running (decreases_of_leads (wsTurn_leads text)) hturn (by omega)]
    refine hnext.trans ?_
    rw [List.length_cons, Nat.add_assoc, Nat.add_comm 1]

theorem skipWs_at (hfuel : text.length < fuel) (w : Space) (hc : isWs c = false)
    (h : text.drop pos = w.1 ++ c :: s) :
    skipWs fuel text pos = .ok (pos + w.1.length) ∧ text.drop (pos + w.1.length) = c :: s := by
  have hend := drop_add h
  refine ⟨?_, hend⟩
  rw [skipWs_add hfuel w.2 h]
  refine loop_returned ?_ (by omega)
  rw [wsTurn, if_pos (lt_of_drop hend), read_of_drop hend, ok_bind,
    if_neg (show ¬isJsonWs c = true by rw [show isJsonWs c = false from hc]; decide)]
  rfl

theorem stringBody_running {pos' : ℕ} (hfuel : text.length < fuel)
    (h : stringTurn text pos = .ok (.running pos')) :
    loop (stringTurn text) fuel pos = loop (stringTurn text) fuel pos' :=
  loop_running (decreases_of_leads (stringTurn_leads text)) h (by omega)

theorem stringBody_at {us : List CodeUnit} {raw s : Bytes} (hfuel : text.length < fuel)
    (hraw : Chars us raw) (h : text.drop pos = raw ++ 0x22 :: s) :
    loop (stringTurn text) fuel pos = .ok (some (pos + raw.length + 1)) := by
  induction hraw generalizing pos with
  | nil =>
    refine loop_returned ?_ (by omega)
    rw [stringTurn, if_pos (lt_of_drop h), read_of_drop h, ok_bind, if_neg (by decide), if_pos rfl]
    rfl
  | byte hquote hslash _ _ ih =>
    have hturn : stringTurn text pos = .ok (.running (pos + 1)) := by
      rw [stringTurn, if_pos (lt_of_drop h), read_of_drop h, ok_bind, if_neg hslash,
        if_neg hquote]
      rfl
    rw [stringBody_running hfuel hturn, ih (drop_succ h), List.length_cons]
    congr 2
    omega
  | escape hne _ _ ih =>
    have h₁ := drop_succ h
    have hturn : stringTurn text pos = .ok (.running (pos + 2)) := by
      rw [stringTurn, if_pos (lt_of_drop h), read_of_drop h, ok_bind, if_pos rfl,
        if_neg (lt_of_drop h₁).not_ge, read_of_drop h₁, ok_bind, if_neg hne]
      rfl
    rw [stringBody_running hfuel hturn, ih (drop_succ h₁), List.length_cons, List.length_cons]
    congr 2
    omega
  | @unicode a b c d u us raw _ _ ih =>
    have h₁ := drop_succ h
    have hlen := length_of_drop h (by simp)
    have h₆ : text.drop (pos + 6) = raw ++ 0x22 :: s :=
      drop_add (show text.drop pos = [0x5C, 0x75, a, b, c, d] ++ (raw ++ 0x22 :: s) from h)
    simp only [List.length_append, List.length_cons] at hlen
    have hturn : stringTurn text pos = .ok (.running (pos + 6)) := by
      rw [stringTurn, if_pos (lt_of_drop h), read_of_drop h, ok_bind, if_pos rfl,
        if_neg (lt_of_drop h₁).not_ge, read_of_drop h₁, ok_bind, if_pos rfl, if_neg (by omega)]
      rfl
    rw [stringBody_running hfuel hturn, ih h₆]
    simp only [List.length_cons]
    congr 2
    omega

theorem skipJsonString_at {us : List CodeUnit} {raw s : Bytes} (hfuel : text.length < fuel)
    (hraw : Chars us raw) (h : text.drop pos = 0x22 :: (raw ++ 0x22 :: s)) :
    skipJsonString fuel text pos = .ok (some (pos + (raw.length + 2))) := by
  rw [skipJsonString, if_neg (lt_of_drop h).not_ge, read_of_drop h, ok_bind,
    if_neg (by decide), stringBody_at hfuel hraw (drop_succ h)]
  congr 2
  omega

end Reads

/-! ## Numbers and words -/

/-- What ends a number or a word for the scanner. -/
def Delimiter (c : UInt8) : Prop := c = 0x2C ∨ c = 0x7D ∨ c = 0x5D ∨ isJsonWs c = true

namespace Reads

theorem bareTurn_at (h : text.drop pos = c :: s) :
    Delimiter c ∧ bareTurn text pos = .ok (.returned pos)
      ∨ ¬Delimiter c ∧ bareTurn text pos = .ok (.running (pos + 1)) := by
  rw [bareTurn, if_pos (lt_of_drop h), read_of_drop h, ok_bind]
  split_ifs with hc
  · exact .inl ⟨hc, rfl⟩
  · exact .inr ⟨hc, rfl⟩

theorem bareToken_running (hfuel : text.length < fuel)
    (h : bareTurn text pos = .ok (.running (pos + 1))) :
    loop (bareTurn text) fuel pos = loop (bareTurn text) fuel (pos + 1) :=
  loop_running (decreases_of_leads (bareTurn_leads text)) h (by omega)

theorem bareToken_add {t s : Bytes} (hfuel : text.length < fuel) (ht : ∀ c ∈ t, ¬Delimiter c)
    (h : text.drop pos = t ++ s) :
    loop (bareTurn text) fuel pos = loop (bareTurn text) fuel (pos + t.length) := by
  induction t generalizing pos with
  | nil => rfl
  | cons c t ih =>
    obtain ⟨hc, -⟩ | ⟨-, hturn⟩ := bareTurn_at h
    · exact absurd hc (ht c List.mem_cons_self)
    · rw [bareToken_running hfuel hturn,
        ih (fun d hd => ht d (List.mem_cons_of_mem c hd)) (drop_succ h), List.length_cons,
        Nat.add_assoc, Nat.add_comm 1]

/-- The scanner goes past the end of a number or of a word, unless a delimiter stands there. -/
theorem bareToken_eq_iff {t s : Bytes} (hfuel : text.length < fuel) (ht : ∀ c ∈ t, ¬Delimiter c)
    (h : text.drop pos = t ++ s) :
    loop (bareTurn text) fuel pos = .ok (pos + t.length) ↔ ∀ c ∈ s.head?, Delimiter c := by
  rw [bareToken_add hfuel ht h]
  have hend := drop_add h
  generalize pos + t.length = stop at hend
  rcases s with _ | ⟨c, s⟩
  · refine iff_of_true (loop_returned ?_ (by omega)) (by rintro _ ⟨⟩)
    rw [bareTurn, if_neg fun hlt => absurd (List.drop_eq_nil_iff.mp hend) (by omega)]
    rfl
  · have hhead : (∀ b ∈ (c :: s).head?, Delimiter b) ↔ Delimiter c := by simp
    rw [hhead]
    obtain ⟨hc, hturn⟩ | ⟨hc, hturn⟩ := bareTurn_at hend
    · exact iff_of_true (loop_returned hturn (by omega)) hc
    · rw [bareToken_running hfuel hturn]
      obtain ⟨p, hp, hle⟩ := bareToken_returns hfuel (stop + 1)
      refine iff_of_false (fun heq => ?_) hc
      have := Except.ok.inj (hp.symm.trans heq)
      omega

end Reads

theorem not_delimiter_numeral {n : Numeral} (hn : n.Valid) : ∀ c ∈ n.text, ¬Delimiter c := by
  intro c hc hdelim
  have hbyte := hn.mem_text hc
  simp only [Delimiter, isJsonWs, Bool.or_eq_true, decide_eq_true_eq] at hdelim
  rcases hdelim with rfl | rfl | rfl | ((rfl | rfl) | rfl) | rfl <;> simp [isDigit] at hbyte

/-! ## Names and spans -/

theorem key_matches_iff {key raw s : Bytes} (h : text.drop pos = raw ++ s) :
    (raw.length = key.length ∧ (text.drop pos).take key.length = key) ↔ raw = key := by
  constructor
  · rintro ⟨hlen, htake⟩
    rw [h, ← hlen, List.take_left] at htake
    exact htake
  · rintro rfl
    exact ⟨rfl, by rw [h, List.take_left]⟩

theorem span_of_drop {v s : Bytes} (h : text.drop pos = v ++ s) :
    span text (pos, pos + v.length) = v := by
  rw [span, h, Nat.add_sub_cancel_left, List.take_left]

end JsonE3Encoder

end LibE3
