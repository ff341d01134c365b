import LibE3.Encoder.Reads
import Mathlib.Tactic.SplitIfs

/-!
# The scanner reads only bytes of the text, and it ends

Whatever the text and the position, each loop of the scanner is left within as many turns as the
text has bytes, and no access is out of bounds. Only a text of more bytes than an `int` counts can
make the depth of an object or of an array overflow.
-/

namespace LibE3.JsonE3Encoder.Reads

open Faults

variable {limit fuel : ℕ} {text : Bytes} {pos : ℕ}

/-! ## White space, strings, numbers and words -/

/-- A turn of a loop that goes ahead in the text, and returns a position from there on. -/
theorem leads_ahead {pos' : ℕ} (hlt : pos < text.length) (h : pos < pos') :
    Leads (fun pos => Returns (pos ≤ ·)) (fun pos => text.length - pos) pos
      (.ok (.running pos')) :=
  ⟨by dsimp only; omega, fun _ hx => hx.mono fun _ hp => by omega⟩

theorem wsTurn_leads (text : Bytes) (pos : ℕ) :
    Leads (fun pos => Returns (pos ≤ ·)) (fun pos => text.length - pos) pos (wsTurn text pos) := by
  rw [wsTurn]
  by_cases hlt : pos < text.length
  · rw [if_pos hlt, read_of_lt hlt, ok_bind]
    split_ifs
    · exact leads_ahead hlt pos.lt_succ_self
    · exact ⟨pos, rfl, le_rfl⟩
  · rw [if_neg hlt]
    exact ⟨pos, rfl, le_rfl⟩

theorem skipWs_returns (hfuel : text.length < fuel) (pos : ℕ) :
    Returns (pos ≤ ·) (skipWs fuel text pos) :=
  loop_induct (wsTurn_leads text) (by omega)

theorem bareTurn_leads (text : Bytes) (pos : ℕ) :
    Leads (fun pos => Returns (pos ≤ ·)) (fun pos => text.length - pos) pos
      (bareTurn text pos) := by
  rw [bareTurn]
  by_cases hlt : pos < text.length
  · rw [if_pos hlt, read_of_lt hlt, ok_bind]
    split_ifs
    · exact ⟨pos, rfl, le_rfl⟩
    · exact leads_ahead hlt pos.lt_succ_self
  · rw [if_neg hlt]
    exact ⟨pos, rfl, le_rfl⟩

theorem bareToken_returns (hfuel : text.length < fuel) (pos : ℕ) :
    Returns (pos ≤ ·) (loop (bareTurn text) fuel pos) :=
  loop_induct (bareTurn_leads text) (by omega)

/-- A position behind `pos`, if there is one, that is not behind the end of the text. -/
def Behind (text : Bytes) (pos : ℕ) (r : Option ℕ) : Prop := ∀ p ∈ r, pos < p ∧ p ≤ text.length

theorem stringTurn_leads (text : Bytes) (pos : ℕ) :
    Leads (fun pos => Returns (Behind text pos)) (fun pos => text.length - pos) pos
      (stringTurn text pos) := by
  have hnone : Returns (Behind text pos) (.ok none) := ⟨none, rfl, by rintro _ ⟨⟩⟩
  have hahead {pos' : ℕ} (hlt : pos < text.length) (h : pos < pos') :
      Leads (fun pos => Returns (Behind text pos)) (fun pos => text.length - pos) pos
        (.ok (.running pos')) :=
    ⟨by dsimp only; omega, fun _ hx => hx.mono fun _ hr p hp => ⟨h.trans (hr p hp).1, (hr p hp).2⟩⟩
  rw [stringTurn]
  by_cases hlt : pos < text.length
  · rw [if_pos hlt, read_of_lt hlt, ok_bind]
    by_cases hlt₁ : pos + 1 < text.length
    · rw [if_neg hlt₁.not_ge, read_of_lt hlt₁, ok_bind]
      split_ifs
      · exact hnone
      · exact hahead hlt (by omega)
      · exact hahead hlt (by omega)
      · exact ⟨_, rfl, by rintro _ ⟨⟩; omega⟩
      · exact hahead hlt (by omega)
    · rw [if_pos (not_lt.mp hlt₁)]
      split_ifs
      · exact hnone
      · exact ⟨_, rfl, by rintro _ ⟨⟩; omega⟩
      · exact hahead hlt (by omega)
  · rw [if_neg hlt]
    exact hnone

theorem skipJsonString_returns (hfuel : text.length < fuel) (pos : ℕ) :
    Returns (Behind text (pos + 1)) (skipJsonString fuel text pos) := by
  have hnone : Returns (Behind text (pos + 1)) (.ok none) := ⟨none, rfl, by rintro _ ⟨⟩⟩
  rw [skipJsonString]
  by_cases hlt : pos < text.length
  · rw [if_neg hlt.not_ge, read_of_lt hlt, ok_bind]
    split_ifs
    · exact hnone
    · exact loop_induct (stringTurn_leads text) (by omega)
  · rw [if_pos (not_lt.mp hlt)]
    exact hnone

/-! ## Objects, arrays and values -/

/-- How the loop over an object or an array ends from a depth and a position. -/
def Skips (limit : ℕ) (text : Bytes) (s : ℕ × ℕ) : Outcome (Option ℕ) → Prop :=
  Counts limit (s.1 + (text.length - s.2)) fun r => ∀ p ∈ r, s.2 ≤ p

theorem containerTurn_leads {opening closing : UInt8} (hfuel : text.length < fuel) (s : ℕ × ℕ) :
    Leads (Skips limit text) (fun s => text.length - s.2) s
      (containerTurn limit fuel text opening closing s) := by
  obtain ⟨depth, pos⟩ := s
  have hnone : Skips limit text (depth, pos) (.ok none) := .inl ⟨none, rfl, by rintro _ ⟨⟩⟩
  rw [containerTurn]
  by_cases hlt : pos < text.length ∧ 0 < depth
  · rw [if_pos hlt, read_of_lt hlt.1, ok_bind]
    -- the loop goes on from `depth'` and `pos'`, and the depth has no more room than before
    have hnext {depth' pos' : ℕ} (hpos : pos < pos') (hroom : depth' ≤ depth + 1) :
        Leads (Skips limit text) (fun s => text.length - s.2) (depth, pos)
          (.ok (.running (depth', pos'))) :=
      ⟨by dsimp only; omega, fun x hx => hx.mono (by dsimp only; omega)
        fun _ hr p hp => hpos.le.trans (hr p hp)⟩
    split_ifs
    · obtain ⟨r, hr, hbehind⟩ := skipJsonString_returns hfuel pos
      rw [hr, ok_bind]
      rcases r with _ | after
      · exact hnone
      · have := (hbehind after rfl).1
        exact hnext (by omega) (by omega)
    · rw [increment]
      split_ifs
      · exact hnext (by omega) (by omega)
      · exact .inr ⟨rfl, by dsimp only; omega⟩
    · exact hnext (by omega) (by omega)
    · exact hnext (by omega) (by omega)
  · rw [if_neg hlt]
    split_ifs
    · exact hnone
    · exact .inl ⟨_, rfl, by rintro _ ⟨⟩; exact le_rfl⟩

theorem skipJsonValue_counts (limit : ℕ) (hfuel : text.length < fuel) (pos : ℕ) :
    Counts limit text.length (fun r => ∀ p ∈ r, pos ≤ p) (skipJsonValue limit fuel text pos) := by
  rw [skipJsonValue]
  by_cases hlt : pos < text.length
  · have hcontainer (opening closing : UInt8) :
        Counts limit text.length (fun r => ∀ p ∈ r, pos ≤ p)
          (loop (containerTurn limit fuel text opening closing) fuel (1, pos + 1)) := by
      have hskips : Skips limit text (1, pos + 1)
          (loop (containerTurn limit fuel text opening closing) fuel (1, pos + 1)) :=
        loop_induct (containerTurn_leads hfuel) (by dsimp only; omega)
      refine hskips.mono (by dsimp only; omega) fun r hr p hp => ?_
      have := hr p hp
      omega
    rw [if_neg hlt.not_ge, read_of_lt hlt, ok_bind]
    split_ifs
    · refine .inl ((skipJsonString_returns hfuel pos).mono fun r hr p hp => ?_)
      have := (hr p hp).1
      omega
    · exact hcontainer _ _
    · exact hcontainer _ _
    · obtain ⟨p, hp, hle⟩ := bareToken_returns hfuel pos
      rw [hp, ok_bind]
      exact .inl ⟨some p, rfl, by rintro _ ⟨⟩; exact hle⟩
  · rw [if_pos (not_lt.mp hlt)]
    exact .inl ⟨none, rfl, by rintro _ ⟨⟩⟩

/-! ## Members -/

theorem keyMatches_eq {keyStart keyEnd : ℕ} (key : Bytes) (hle : keyStart ≤ keyEnd)
    (hend : keyEnd ≤ text.length) :
    keyMatches text keyStart keyEnd key = .ok (decide (keyEnd - keyStart = key.length
      ∧ (text.drop keyStart).take key.length = key)) := by
  rw [keyMatches, subtract_of_le hle, ok_bind, compare,
    if_neg (show ¬keyStart > text.length by omega)]
  split_ifs with hsize
  · simp only [hsize, true_and]
    rfl
  · simp only [hsize, false_and]
    rfl

def Finds (limit : ℕ) (text : Bytes) : Outcome (Option (ℕ × ℕ)) → Prop :=
  Counts limit text.length fun _ => True

theorem finds_ok (r : Option (ℕ × ℕ)) : Finds limit text (.ok r) := .inl ⟨r, rfl, trivial⟩

section

variable {key : Bytes}

theorem nextTurn_leads {afterValue : ℕ} (hfuel : text.length < fuel) (hpos : pos ≤ afterValue) :
    Leads (fun _ => Finds limit text) (fun pos => text.length - pos) pos
      (nextTurn fuel text afterValue) := by
  obtain ⟨p, hp, hle⟩ := skipWs_returns hfuel afterValue
  rw [nextTurn, hp, ok_bind]
  by_cases hlt : p < text.length
  · rw [if_pos hlt, read_of_lt hlt, ok_bind]
    split_ifs
    · exact ⟨by dsimp only; omega, fun _ hx => hx⟩
    · exact finds_ok none
  · rw [if_neg hlt]
    exact finds_ok none

theorem valueTurn_leads {keyStart keyEnd valueStart : ℕ} (hfuel : text.length < fuel)
    (hkey : keyStart ≤ keyEnd) (hend : keyEnd ≤ text.length) (hpos : pos ≤ valueStart) :
    Leads (fun _ => Finds limit text) (fun pos => text.length - pos) pos
      (valueTurn limit fuel text key keyStart keyEnd valueStart) := by
  rw [valueTurn]
  obtain ⟨r, hr, hle⟩ | ⟨hr, hlimit⟩ := skipJsonValue_counts limit hfuel valueStart
  · rw [hr, ok_bind]
    rcases r with _ | afterValue
    · exact finds_ok none
    · have := hle afterValue rfl
      simp only [keyMatches_eq key hkey hend, ok_bind, decide_eq_true_eq]
      split_ifs
      · exact finds_ok _
      · exact nextTurn_leads hfuel (by omega)
  · rw [hr]
    exact .inr ⟨rfl, hlimit⟩

theorem colonTurn_leads {keyStart afterKey : ℕ} (hfuel : text.length < fuel)
    (hkey : keyStart < afterKey) (hafter : afterKey ≤ text.length) (hpos : pos ≤ afterKey) :
    Leads (fun _ => Finds limit text) (fun pos => text.length - pos) pos
      (colonTurn limit fuel text key keyStart afterKey) := by
  obtain ⟨p, hp, hle⟩ := skipWs_returns hfuel afterKey
  rw [colonTurn, subtract_of_le (by omega), ok_bind, hp, ok_bind]
  by_cases hlt : p < text.length
  · rw [if_neg hlt.not_ge, read_of_lt hlt, ok_bind, ite_not]
    split_ifs
    · obtain ⟨q, hq, hle'⟩ := skipWs_returns hfuel (p + 1)
      rw [hq, ok_bind]
      exact valueTurn_leads hfuel (by omega) (by omega) (by omega)
    · exact finds_ok none
  · rw [if_pos (not_lt.mp hlt)]
    exact finds_ok none

theorem memberTurn_leads (hfuel : text.length < fuel) (pos : ℕ) :
    Leads (fun _ => Finds limit text) (fun pos => text.length - pos) pos
      (memberTurn limit fuel text key pos) := by
  obtain ⟨p, hp, hle⟩ := skipWs_returns hfuel pos
  rw [memberTurn, hp, ok_bind]
  by_cases hlt : p < text.length
  · rw [if_neg hlt.not_ge, read_of_lt hlt, ok_bind]
    split_ifs
    · exact finds_ok none
    · exact finds_ok none
    · obtain ⟨r, hr, hbehind⟩ := skipJsonString_returns hfuel p
      rw [hr, ok_bind]
      rcases r with _ | afterKey
      · exact finds_ok none
      · obtain ⟨hquotes, hafter⟩ := hbehind afterKey rfl
        exact colonTurn_leads hfuel hquotes hafter (by omega)
  · rw [if_pos (not_lt.mp hlt)]
    exact finds_ok none

end

/-- On any text the search ends within the text, unless the text has more bytes than `limit`. -/
theorem findTopLevelMemberSpan_finds (limit : ℕ) (hfuel : text.length < fuel) (pos : ℕ)
    (key : Bytes) : Finds limit text (findTopLevelMemberSpan limit fuel text pos key) := by
  rw [findTopLevelMemberSpan]
  by_cases hlt : pos < text.length
  · rw [if_neg hlt.not_ge, read_of_lt hlt, ok_bind, ite_not]
    split_ifs
    · exact loop_induct (Q := fun _ => Finds limit text) (memberTurn_leads hfuel) (by omega)
    · exact finds_ok none
  · rw [if_pos (not_lt.mp hlt)]
    exact finds_ok none

end LibE3.JsonE3Encoder.Reads
