import LibE3.Proofs.JsonScanner

/-!
# The scanner stops where the value ends

On a well-formed value the scanner stops right behind it: a string ends at its own quote, and an
object or an array at the bracket that closes it, since inside it the brackets of its kind are
balanced. So the search for a member finds the first one whose name is written with the bytes of the
key, unless one of the values it goes past opens more brackets of its own kind at once than an `int`
counts.
-/

namespace LibE3.JsonE3Encoder.Reads

open Faults Json

variable {limit fuel : ℕ} {text : Bytes} {pos depth : ℕ} {b : Bracket}

/-! ## Objects and arrays -/

/-- The loop over an object or an array, from a depth and a position on. -/
def skipContainer (limit fuel : ℕ) (text : Bytes) (b : Bracket) (depth pos : ℕ) :
    Outcome (Option ℕ) :=
  loop (containerTurn limit fuel text b.opening b.closing) fuel (depth, pos)

theorem skipContainer_running (hfuel : text.length < fuel) {depth' pos' : ℕ}
    (h : containerTurn limit fuel text b.opening b.closing (depth, pos)
      = .ok (.running (depth', pos'))) :
    skipContainer limit fuel text b depth pos = skipContainer limit fuel text b depth' pos' :=
  loop_running (decreases_of_leads (containerTurn_leads hfuel)) h (by dsimp only; omega)

/-- A byte that the loop over a container counts neither as a bracket nor as a quote. -/
def Neutral (b : Bracket) (c : UInt8) : Prop := c ≠ 0x22 ∧ c ≠ b.opening ∧ c ≠ b.closing

theorem bracket_ne : b.opening ≠ 0x22 ∧ b.closing ≠ 0x22 ∧ b.closing ≠ b.opening := by
  cases b <;> decide

section

variable {s : Bytes}

theorem containerTurn_neutral {c : UInt8} (hdepth : 0 < depth) (hc : Neutral b c)
    (h : text.drop pos = c :: s) :
    containerTurn limit fuel text b.opening b.closing (depth, pos)
      = .ok (.running (depth, pos + 1)) := by
  rw [containerTurn, if_pos ⟨lt_of_drop h, hdepth⟩, read_of_drop h, ok_bind, if_neg hc.1,
    if_neg hc.2.1, if_neg hc.2.2]
  rfl

theorem containerTurn_string {us : List CodeUnit} {raw : Bytes} (hfuel : text.length < fuel)
    (hdepth : 0 < depth) (hraw : Chars us raw) (h : text.drop pos = 0x22 :: (raw ++ 0x22 :: s)) :
    containerTurn limit fuel text b.opening b.closing (depth, pos)
      = .ok (.running (depth, pos + (raw.length + 2))) := by
  rw [containerTurn, if_pos ⟨lt_of_drop h, hdepth⟩, read_of_drop h, ok_bind, if_pos rfl,
    skipJsonString_at hfuel hraw h]
  rfl

theorem containerTurn_opening (limit fuel : ℕ) (hdepth : 0 < depth)
    (h : text.drop pos = b.opening :: s) :
    containerTurn limit fuel text b.opening b.closing (depth, pos)
      = if depth < limit then .ok (.running (depth + 1, pos + 1)) else .error .overflow := by
  rw [containerTurn, if_pos ⟨lt_of_drop h, hdepth⟩, read_of_drop h, ok_bind,
    if_neg bracket_ne.1, if_pos rfl, increment]
  split_ifs <;> rfl

theorem containerTurn_closing (hdepth : 0 < depth) (h : text.drop pos = b.closing :: s) :
    containerTurn limit fuel text b.opening b.closing (depth, pos)
      = .ok (.running (depth - 1, pos + 1)) := by
  rw [containerTurn, if_pos ⟨lt_of_drop h, hdepth⟩, read_of_drop h, ok_bind,
    if_neg bracket_ne.2.1, if_neg bracket_ne.2.2, if_pos rfl]
  rfl

theorem skipContainer_zero (hfuel : 0 < fuel) :
    skipContainer limit fuel text b 0 pos = .ok (some pos) := by
  refine loop_returned ?_ hfuel
  rw [containerTurn, if_neg (by omega), if_neg (by omega)]
  rfl

end

/-- The loop goes past `t` whatever the depth, unless the depth of `nesting` more brackets is
too much. -/
def Passes (limit fuel : ℕ) (b : Bracket) (t : Bytes) (nesting : ℕ) : Prop :=
  ∀ ⦃text : Bytes⦄ ⦃pos depth : ℕ⦄ ⦃s : Bytes⦄, text.length < fuel → 0 < depth → depth ≤ limit →
    text.drop pos = t ++ s →
      skipContainer limit fuel text b depth pos
        = if depth + nesting ≤ limit then skipContainer limit fuel text b depth (pos + t.length)
          else .error .overflow

variable {t : Bytes}

theorem passes_neutrals (ht : ∀ c ∈ t, Neutral b c) : Passes limit fuel b t 0 := by
  intro text pos depth s hfuel hdepth hlimit h
  rw [if_pos (by omega)]
  induction t generalizing pos with
  | nil => rfl
  | cons c t ih =>
    rw [skipContainer_running hfuel (containerTurn_neutral hdepth (ht c List.mem_cons_self) h),
      ih (fun d hd => ht d (List.mem_cons_of_mem c hd)) (drop_succ h), List.length_cons]
    congr 1
    omega

theorem Passes.append {t u : Bytes} {j k : ℕ} (ht : Passes limit fuel b t j)
    (hu : Passes limit fuel b u k) : Passes limit fuel b (t ++ u) (max j k) := by
  intro text pos depth s hfuel hdepth hlimit h
  rw [List.append_assoc] at h
  rw [ht hfuel hdepth hlimit h, hu hfuel hdepth hlimit (drop_add h), List.length_append,
    Nat.add_assoc]
  by_cases hj : depth + j ≤ limit
  · rw [if_pos hj]
    by_cases hk : depth + k ≤ limit
    · rw [if_pos hk, if_pos (by omega)]
    · rw [if_neg hk, if_neg (by omega)]
  · rw [if_neg hj, if_neg (by omega)]

theorem passes_string {us : List CodeUnit} {raw : Bytes} (hraw : Chars us raw) :
    Passes limit fuel b (0x22 :: (raw ++ [0x22])) 0 := by
  intro text pos depth s hfuel hdepth hlimit h
  rw [if_pos (by omega),
    skipContainer_running hfuel (containerTurn_string hfuel hdepth hraw (by simpa using h))]
  simp

theorem Passes.around_own {k : ℕ} (ht : Passes limit fuel b t k) :
    Passes limit fuel b (b.around t) (k + 1) := by
  intro text pos depth s hfuel hdepth hlimit h
  have hopen : text.drop pos = b.opening :: (t ++ b.closing :: s) := by
    simpa [Bracket.around] using h
  have hturn := containerTurn_opening limit fuel hdepth hopen
  by_cases hroom : depth < limit
  · rw [if_pos hroom] at hturn
    have hinside := drop_succ hopen
    rw [skipContainer_running hfuel hturn, ht hfuel (by omega) (by omega) hinside,
      skipContainer_running hfuel (containerTurn_closing (by omega) (drop_add hinside)),
      Nat.add_sub_cancel, Nat.add_right_comm depth 1 k]
    congr 2
    simp [Bracket.around]
    omega
  · rw [if_neg hroom] at hturn
    rw [if_neg (by omega)]
    exact loop_error hturn (by omega)

theorem Passes.around {k : ℕ} (ht : Passes limit fuel b t k) (b' : Bracket) :
    Passes limit fuel b (b'.around t) (k + if b = b' then 1 else 0) := by
  by_cases hsame : b = b'
  · subst hsame
    rw [if_pos rfl]
    exact ht.around_own
  · rw [if_neg hsame]
    have hneutral : Neutral b b'.opening ∧ Neutral b b'.closing := by
      cases b <;> cases b' <;> simp [Neutral, Bracket.opening, Bracket.closing] at hsame ⊢
    have ho : Passes limit fuel b [b'.opening] 0 := passes_neutrals (by simpa using hneutral.1)
    have hc : Passes limit fuel b [b'.closing] 0 := passes_neutrals (by simpa using hneutral.2)
    simpa [Bracket.around] using ho.append (ht.append hc)

theorem neutral_ws {w : Bytes} (hw : Ws w) : ∀ c ∈ w, Neutral b c := by
  intro c hc
  have hws := hw c hc
  cases b <;>
    (refine ⟨?_, ?_, ?_⟩ <;> rintro rfl <;> simp [isWs, Bracket.opening, Bracket.closing] at hws)

theorem neutral_numeral {n : Numeral} (hn : n.Valid) : ∀ c ∈ n.text, Neutral b c := by
  intro c hc
  have hbyte := hn.mem_text hc
  cases b <;>
    (refine ⟨?_, ?_, ?_⟩ <;> rintro rfl <;>
      simp [isDigit, Bracket.opening, Bracket.closing] at hbyte)

theorem passes_ws (w : Space) : Passes limit fuel b w.1 0 := passes_neutrals (neutral_ws w.2)

theorem passes_byte {c : UInt8} (hc : c = 0x2C ∨ c = 0x3A) : Passes limit fuel b [c] 0 := by
  refine passes_neutrals fun d hd => ?_
  obtain rfl := List.mem_singleton.mp hd
  rcases hc with rfl | rfl <;> cases b <;> simp [Neutral, Bracket.opening, Bracket.closing]

theorem passes_member (w₁ : Space) (name : RawString) (w₂ w₃ : Space) {v : Bytes} {k : ℕ}
    (hv : Passes limit fuel b v k) (w₄ : Space) :
    Passes limit fuel b (memberText w₁.1 name.1 w₂.1 w₃.1 v w₄.1) k := by
  obtain ⟨_, hname⟩ := name.2
  have h := (passes_ws w₁).append ((passes_string hname).append ((passes_ws w₂).append
    ((passes_byte (.inr rfl)).append ((passes_ws w₃).append (hv.append (passes_ws w₄))))))
  simpa [memberText] using h

theorem passes_tree : ∀ {p : Part} (t : Tree p), Passes limit fuel b t.text (t.nesting b)
  | _, .null => by
    refine passes_neutrals ?_
    cases b <;> simp [Tree.text, nullText, Neutral, Bracket.opening, Bracket.closing]
  | _, .bool x => by
    refine passes_neutrals ?_
    cases b <;> cases x <;> simp [Tree.text, boolText, Neutral, Bracket.opening, Bracket.closing]
  | _, .number _ valid => passes_neutrals (neutral_numeral valid)
  | _, .string raw => by
    obtain ⟨_, hraw⟩ := raw.2
    exact passes_string hraw
  | _, .emptyArray w => by
    simpa [Tree.text, Tree.nesting] using (passes_ws w).around .square
  | _, .array es => (passes_tree es).around .square
  | _, .object o => passes_tree o
  | _, .elem w₁ v w₂ => by
    have h := (passes_ws w₁).append ((passes_tree v).append (passes_ws w₂))
    simpa [Tree.text, Tree.nesting] using h
  | _, .elems w₁ v w₂ es => by
    have h := (passes_ws w₁).append ((passes_tree v).append ((passes_ws w₂).append
      ((passes_byte (.inl rfl)).append (passes_tree es))))
    simpa [Tree.text, Tree.nesting] using h
  | _, .member w₁ name w₂ w₃ v w₄ => passes_member w₁ name w₂ w₃ (passes_tree v) w₄
  | _, .members w₁ name w₂ w₃ v w₄ ms => by
    have h := (passes_member w₁ name w₂ w₃ (passes_tree v) w₄).append
      ((passes_byte (.inl rfl)).append (passes_tree ms))
    simpa [Tree.text, Tree.nesting] using h
  | _, .empty w => by
    simpa [Tree.text, Tree.nesting] using (passes_ws w).around .curly
  | _, .braces ms => (passes_tree ms).around .curly

/-! ## Values -/

theorem skipJsonValue_around {t s : Bytes} {k : ℕ} (hfuel : text.length < fuel)
    (hlimit : 0 < limit) (ht : Passes limit fuel b t k) (h : text.drop pos = b.around t ++ s) :
    skipJsonValue limit fuel text pos
      = if k + 1 ≤ limit then .ok (some (pos + (b.around t).length)) else .error .overflow := by
  have hopen : text.drop pos = b.opening :: (t ++ b.closing :: s) := by
    simpa [Bracket.around] using h
  have hinside := drop_succ hopen
  have hloop : skipJsonValue limit fuel text pos = skipContainer limit fuel text b 1 (pos + 1) := by
    rw [skipJsonValue, if_neg (lt_of_drop hopen).not_ge, read_of_drop hopen, ok_bind,
      if_neg bracket_ne.1, skipContainer]
    cases b <;> rfl
  rw [hloop, ht hfuel (by omega) hlimit hinside, Nat.add_comm 1 k]
  congr 1
  rw [skipContainer_running hfuel (containerTurn_closing (by omega) (drop_add hinside)),
    skipContainer_zero (by omega)]
  simp [Bracket.around]
  omega

/-- Letters are no delimiters, and do not tell the scanner that something is enclosed. -/
theorem letter_bytes (ht : ∀ c ∈ t, 0x61 ≤ c ∧ c ≤ 0x7A) :
    (∀ c ∈ t, ¬Delimiter c) ∧ ∀ c ∈ t.head?, c ≠ 0x22 ∧ c ≠ 0x7B ∧ c ≠ 0x5B := by
  constructor
  · intro c hc hdelim
    have hletter := ht c hc
    simp only [Delimiter, isJsonWs, Bool.or_eq_true, decide_eq_true_eq] at hdelim
    rcases hdelim with rfl | rfl | rfl | ((rfl | rfl) | rfl) | rfl <;> simp at hletter
  · intro c hc
    have hletter := ht c (List.mem_of_mem_head? hc)
    refine ⟨?_, ?_, ?_⟩ <;> rintro rfl <;> simp at hletter

/-- A number or a word: it has no delimiter, and starts with none of the bytes that tell the
scanner otherwise. -/
theorem bare_bytes : ∀ {v : Tree .value}, v.isBare = true →
    (∀ c ∈ v.text, ¬Delimiter c) ∧ ∀ c ∈ v.text.head?, c ≠ 0x22 ∧ c ≠ 0x7B ∧ c ≠ 0x5B
  | .null, _ => letter_bytes (by simp [Tree.text, nullText])
  | .bool true, _ => letter_bytes (by simp [Tree.text, boolText])
  | .bool false, _ => letter_bytes (by simp [Tree.text, boolText])
  | .number _ valid, _ => by
    refine ⟨not_delimiter_numeral valid, ?_⟩
    obtain ⟨c, t, ht, hc⟩ := valid.head
    rw [Tree.text, ht]
    rintro _ ⟨⟩
    refine ⟨?_, ?_, ?_⟩ <;> rintro rfl <;> simp [isDigit] at hc

variable {s : Bytes} {v : Tree .value}

theorem skipJsonValue_bare (hv : v.isBare = true) (h : text.drop pos = v.text ++ s) :
    skipJsonValue limit fuel text pos = (loop (bareTurn text) fuel pos).map some := by
  obtain ⟨c, t, ht, -⟩ := v.exists_head
  have hc := (bare_bytes hv).2 c (by rw [ht]; rfl)
  rw [ht] at h
  rw [skipJsonValue, if_neg (lt_of_drop h).not_ge, read_of_drop h, ok_bind, if_neg hc.1,
    if_neg (not_or.mpr hc.2)]
  cases loop (bareTurn text) fuel pos <;> rfl

theorem skipJsonValue_enclosed (hfuel : text.length < fuel) (hlimit : 0 < limit) :
    ∀ {v : Tree .value}, v.isBare = false → text.drop pos = v.text ++ s →
      skipJsonValue limit fuel text pos
        = if v.ownNesting ≤ limit then .ok (some (pos + v.text.length)) else .error .overflow
  | .string raw, _, h => by
    obtain ⟨_, hraw⟩ := raw.2
    have hopen : text.drop pos = 0x22 :: (raw.1 ++ 0x22 :: s) := by simpa [Tree.text] using h
    rw [skipJsonValue, if_neg (lt_of_drop hopen).not_ge, read_of_drop hopen, ok_bind, if_pos rfl,
      skipJsonString_at hfuel hraw hopen, if_pos (by simp [Tree.ownNesting])]
    simp [Tree.text]
  | .emptyArray w, _, h => skipJsonValue_around hfuel hlimit (passes_ws w) h
  | .array es, _, h => skipJsonValue_around hfuel hlimit (passes_tree es) h
  | .object (.empty w), _, h => skipJsonValue_around hfuel hlimit (passes_ws w) h
  | .object (.braces ms), _, h => skipJsonValue_around hfuel hlimit (passes_tree ms) h

/-- The scanner stops right behind a value, if its depth is within the limit and a number or a word
is followed by white space, a comma, a closing bracket or the end of the text. -/
theorem skipJsonValue_eq_iff (hfuel : text.length < fuel) (hlimit : 0 < limit)
    (h : text.drop pos = v.text ++ s) :
    skipJsonValue limit fuel text pos = .ok (some (pos + v.text.length))
      ↔ v.ownNesting ≤ limit ∧ (v.isBare = true → ∀ c ∈ s.head?, Delimiter c) := by
  rcases hv : v.isBare with _ | _
  · rw [skipJsonValue_enclosed hfuel hlimit hv h]
    split_ifs with hdepth <;> simp [hdepth]
  · have hown : v.ownNesting = 0 := by cases v <;> first | rfl | cases hv
    have htoken := bareToken_eq_iff hfuel (bare_bytes hv).1 h
    obtain ⟨p, hp, -⟩ := bareToken_returns hfuel pos
    rw [hp, Except.ok.injEq] at htoken
    rw [skipJsonValue_bare hv h, hown, hp]
    simp [Except.map, htoken]

theorem skipJsonValue_at (hfuel : text.length < fuel) (hlimit : 0 < limit)
    (hs : ∀ c ∈ s.head?, Delimiter c) (h : text.drop pos = v.text ++ s) :
    skipJsonValue limit fuel text pos
      = if v.ownNesting ≤ limit then .ok (some (pos + v.text.length)) else .error .overflow := by
  rcases hv : v.isBare with _ | _
  · exact skipJsonValue_enclosed hfuel hlimit hv h
  · have hown : v.ownNesting = 0 := by cases v <;> first | rfl | cases hv
    rw [if_pos (by omega)]
    exact (skipJsonValue_eq_iff hfuel hlimit h).mpr ⟨by omega, fun _ => hs⟩

/-! ## Members -/

theorem keyMatches_at {raw s : Bytes} (key : Bytes) (h : text.drop pos = raw ++ 0x22 :: s) :
    keyMatches text pos (pos + raw.length) key = .ok (decide (raw = key)) := by
  have hend := lt_of_drop (drop_add h)
  rw [keyMatches_eq key (by omega) (by omega)]
  simp only [Nat.add_sub_cancel_left, key_matches_iff h]

/-- The byte behind a value that white space and a comma or the end of the object follow. -/
theorem delimiter_behind {d : UInt8} (w : Space) (hd : d = 0x2C ∨ d = 0x7D) :
    ∀ c ∈ (w.1 ++ d :: s).head?, Delimiter c := by
  rcases hw : w.1 with _ | ⟨e, t⟩
  · rintro _ ⟨⟩
    rcases hd with rfl | rfl
    · exact .inl rfl
    · exact .inr (.inl rfl)
  · rintro _ ⟨⟩
    exact .inr (.inr (.inr (w.2 e (by rw [hw]; exact List.mem_cons_self))))

theorem nextTurn_at {d : UInt8} (hfuel : text.length < fuel) (w : Space) (hd : d = 0x2C ∨ d = 0x7D)
    (h : text.drop pos = w.1 ++ d :: s) :
    nextTurn fuel text pos
      = if d = 0x2C then .ok (.running (pos + w.1.length + 1)) else .ok (.returned none) := by
  have hdws : isWs d = false := by rcases hd with rfl | rfl <;> rfl
  obtain ⟨hws, hat⟩ := skipWs_at hfuel w hdws h
  rw [nextTurn, hws, ok_bind, if_pos (lt_of_drop hat), read_of_drop hat, ok_bind]
  rfl

theorem valueTurn_at {raw rest s : Bytes} {keyStart : ℕ} (key : Bytes) (hfuel : text.length < fuel)
    (hlimit : 0 < limit) (hraw : text.drop keyStart = raw ++ 0x22 :: rest)
    (hs : ∀ c ∈ s.head?, Delimiter c) (h : text.drop pos = v.text ++ s) :
    valueTurn limit fuel text key keyStart (keyStart + raw.length) pos
      = if v.ownNesting ≤ limit then
          if raw = key then .ok (.returned (some (pos, pos + v.text.length)))
          else nextTurn fuel text (pos + v.text.length)
        else .error .overflow := by
  rw [valueTurn, skipJsonValue_at hfuel hlimit hs h]
  by_cases hdepth : v.ownNesting ≤ limit
  · rw [if_pos hdepth, if_pos hdepth, ok_bind]
    dsimp only
    rw [keyMatches_at key hraw, ok_bind]
    simp only [decide_eq_true_eq]
    rfl
  · rw [if_neg hdepth, if_neg hdepth]
    rfl

/-- A turn of the loop over the members, at a member: the value may be too deep, the name may be
the key, and there may be another member. -/
theorem memberTurn_at {d : UInt8} {w₁ : Space} {name : RawString} {w₂ w₃ : Space} {w₄ : Space}
    {m : Placed} (key : Bytes) (hfuel : text.length < fuel) (hlimit : 0 < limit)
    (hm : Tree.memberAt w₁.1 name.1 w₂.1 w₃.1 v pos = m) (hd : d = 0x2C ∨ d = 0x7D)
    (h : text.drop pos = memberText w₁.1 name.1 w₂.1 w₃.1 v.text w₄.1 ++ d :: s) :
    memberTurn limit fuel text key pos
      = if m.value.ownNesting ≤ limit then
          if m.name = key then .ok (.returned (some m.span))
          else if d = 0x2C then .ok (.running (m.span.2 + w₄.1.length + 1))
          else .ok (.returned none)
        else .error .overflow := by
  obtain ⟨us, hname⟩ := name.2
  obtain ⟨c, t, ht, hc⟩ := v.exists_head
  simp only [memberText, List.append_assoc, List.cons_append] at h
  -- what is left of the text behind each part of the member
  obtain ⟨hws₁, h₁⟩ := skipWs_at hfuel w₁ (by rfl) h
  have hstring := skipJsonString_at hfuel hname h₁
  have hraw := drop_succ h₁
  have h₂ := drop_succ (drop_add hraw)
  have hend : pos + w₁.1.length + (name.1.length + 2) - 1
      = pos + w₁.1.length + 1 + name.1.length := by omega
  rw [show pos + w₁.1.length + 1 + name.1.length + 1 = pos + w₁.1.length + (name.1.length + 2) by
    omega] at h₂
  obtain ⟨hws₂, h₃⟩ := skipWs_at hfuel w₂ (by rfl) h₂
  have h₄ := drop_succ h₃
  rw [ht, List.cons_append] at h₄
  obtain ⟨hws₃, h₅⟩ := skipWs_at hfuel w₃ hc h₄
  rw [← List.cons_append, ← ht] at h₅
  rw [memberTurn, hws₁, ok_bind, if_neg (lt_of_drop h₁).not_ge, read_of_drop h₁, ok_bind,
    if_neg (by decide), if_neg (by decide), hstring, ok_bind]
  dsimp only
  rw [colonTurn, subtract_of_le (by omega), ok_bind, hws₂, ok_bind, if_neg (lt_of_drop h₃).not_ge,
    read_of_drop h₃, ok_bind, if_neg (by decide), hws₃, ok_bind, hend,
    valueTurn_at key hfuel hlimit hraw (delimiter_behind w₄ hd) h₅,
    nextTurn_at hfuel w₄ hd (drop_add h₅)]
  subst hm
  rfl

def found (limit : ℕ) (key : Bytes) (ms : List Placed) : Outcome (Option (ℕ × ℕ)) :=
  if ∀ m ∈ upTo key ms, m.value.ownNesting ≤ limit then
    .ok ((ms.find? fun m => m.name = key).map Placed.span)
  else .error .overflow

theorem found_cons (limit : ℕ) (key : Bytes) (m : Placed) (ms : List Placed) :
    found limit key (m :: ms)
      = if m.value.ownNesting ≤ limit then
          if m.name = key then .ok (some m.span) else found limit key ms
        else .error .overflow := by
  by_cases hkey : m.name = key
  · simp [found, upTo, hkey]
  · by_cases hdepth : m.value.ownNesting ≤ limit <;> simp [found, upTo, hkey, hdepth]

theorem findMember_tree {key s : Bytes} (hfuel : text.length < fuel) (hlimit : 0 < limit) :
    ∀ (ms : Tree .members) {pos : ℕ}, text.drop pos = ms.text ++ 0x7D :: s →
      loop (memberTurn limit fuel text key) fuel pos = found limit key (ms.placed pos)
  | .member w₁ name w₂ w₃ v w₄, pos, h => by
    have hturn := memberTurn_at key hfuel hlimit rfl (.inr rfl) h
    rw [if_neg (show ¬(0x7D : UInt8) = 0x2C by decide)] at hturn
    rw [Tree.placed, found_cons]
    split_ifs at hturn ⊢
    · exact loop_returned hturn (by omega)
    · exact loop_returned hturn (by omega)
    · exact loop_error hturn (by omega)
  | .members w₁ name w₂ w₃ v w₄ ms, pos, h => by
    rw [Tree.text, List.append_assoc, List.cons_append] at h
    have hturn := memberTurn_at key hfuel hlimit rfl (.inl rfl) h
    rw [if_pos (show (0x2C : UInt8) = 0x2C from rfl)] at hturn
    rw [Tree.placed, found_cons]
    split_ifs at hturn ⊢
    · exact loop_returned hturn (by omega)
    · rw [loop_running (decreases_of_leads (memberTurn_leads hfuel)) hturn (by omega)]
      have hnext := drop_succ (drop_add h)
      rw [Tree.add_length_memberText] at hnext
      exact findMember_tree hfuel hlimit ms hnext
    · exact loop_error hturn (by omega)

theorem findTopLevelMemberSpan_tree (key : Bytes) (hfuel : text.length < fuel) (hlimit : 0 < limit) :
    ∀ {o : Tree .object}, text.drop pos = o.text ++ s →
      findTopLevelMemberSpan limit fuel text pos key = found limit key (o.placed pos)
  | .empty w, h => by
    have hopen : text.drop pos = 0x7B :: (w.1 ++ 0x7D :: s) := by
      simpa [Tree.text, Bracket.around, Bracket.opening, Bracket.closing] using h
    obtain ⟨hws, hclose⟩ := skipWs_at hfuel w (by rfl) (drop_succ hopen)
    rw [findTopLevelMemberSpan, if_neg (lt_of_drop hopen).not_ge, read_of_drop hopen, ok_bind,
      if_neg (by decide)]
    refine loop_returned ?_ (by omega)
    rw [memberTurn, hws, ok_bind, if_neg (lt_of_drop hclose).not_ge, read_of_drop hclose, ok_bind,
      if_pos rfl]
    rfl
  | .braces ms, h => by
    have hopen : text.drop pos = 0x7B :: (ms.text ++ 0x7D :: s) := by
      simpa [Tree.text, Bracket.around, Bracket.opening, Bracket.closing] using h
    rw [findTopLevelMemberSpan, if_neg (lt_of_drop hopen).not_ge, read_of_drop hopen, ok_bind,
      if_neg (by decide)]
    exact findMember_tree hfuel hlimit ms (drop_succ hopen)

/-! ## Spans -/

theorem span_memberAt {w₁ name w₂ w₃ w₄ s : Bytes}
    (h : text.drop pos = memberText w₁ name w₂ w₃ v.text w₄ ++ s) :
    span text (Tree.memberAt w₁ name w₂ w₃ v pos).span = v.text := by
  have hvalue : text.drop (Tree.memberAt w₁ name w₂ w₃ v pos).start = v.text ++ (w₄ ++ s) := by
    have hlead : text.drop pos
        = (w₁ ++ 0x22 :: (name ++ 0x22 :: (w₂ ++ 0x3A :: w₃))) ++ (v.text ++ (w₄ ++ s)) := by
      simpa [memberText] using h
    have hlength : pos + (w₁ ++ 0x22 :: (name ++ 0x22 :: (w₂ ++ 0x3A :: w₃))).length
        = (Tree.memberAt w₁ name w₂ w₃ v pos).start := by
      simp only [Tree.memberAt, List.length_append, List.length_cons]
      omega
    rw [← hlength, drop_add hlead]
  exact span_of_drop hvalue

theorem span_members : ∀ (ms : Tree .members) {pos : ℕ} {s : Bytes}, text.drop pos = ms.text ++ s →
    ∀ m ∈ ms.placed pos, span text m.span = m.value.text
  | .member w₁ name w₂ w₃ v w₄, pos, s, h => by
    intro m hm
    obtain rfl := List.mem_singleton.mp hm
    exact span_memberAt h
  | .members w₁ name w₂ w₃ v w₄ ms, pos, s, h => by
    intro m hm
    rw [Tree.text, List.append_assoc, List.cons_append] at h
    rcases List.mem_cons.mp hm with rfl | hm
    · exact span_memberAt h
    · have hnext := drop_succ (drop_add h)
      rw [Tree.add_length_memberText] at hnext
      exact span_members ms hnext m hm

end LibE3.JsonE3Encoder.Reads
