import Mathlib.Data.List.Count
import Mathlib.Data.List.Nodup
import Mathlib.Data.List.Perm.Basic
import Mathlib.Tactic.Common

/-!
# Numbered items that move from place to place

A counter gives out numbers, some of them to items. Each item is in one place at a time, and a log
has what happened to it. A step of a machine gives a number to an item, or takes one from a place to
another and adds to its log what the move is about (`Change`). Then none is lost, none is in two
places, and the log of each tells where it is (`Sound`).
-/

namespace Ledger

variable {ι ε : Type*}

/-- The counter, the numbers of the items, where each item is, and the log. -/
structure Book (ι ε : Type*) where
  counter : ℕ
  given : List ℕ
  entries : List (ℕ × ι)
  log : List (ℕ × ε)

/-- What a log has of a number. -/
def ofNumber (log : List (ℕ × ε)) (q : ℕ) : List ε := (log.filter (·.1 = q)).map Prod.snd

@[simp] theorem ofNumber_append (log log' : List (ℕ × ε)) (q : ℕ) :
    ofNumber (log ++ log') q = ofNumber log q ++ ofNumber log' q := by
  simp [ofNumber]

theorem ofNumber_map (q : ℕ) (es : List ε) : ofNumber (es.map fun e => (q, e)) q = es := by
  simp [ofNumber, List.filter_map, Function.comp_def]

theorem ofNumber_map_of_ne {q q' : ℕ} (h : q' ≠ q) (es : List ε) :
    ofNumber (es.map fun e => (q, e)) q' = [] := by
  simp [ofNumber, List.filter_map, Function.comp_def, h.symm]

theorem ofNumber_eq_nil {log : List (ℕ × ε)} {q : ℕ} (h : ∀ x ∈ log, x.1 ≠ q) :
    ofNumber log q = [] := by
  simpa [ofNumber, List.filter_eq_nil_iff] using h

section Sound

variable (Tells : List ε → ι → Prop)

/-- Every item is in one place, and the log tells which. -/
structure Sound (b : Book ι ε) : Prop where
  items : (b.entries.map Prod.fst).Perm b.given
  nodup : b.given.Nodup
  given_pos : ∀ q ∈ b.given, 0 < q
  given_le : ∀ q ∈ b.given, q ≤ b.counter
  log_given : ∀ x ∈ b.log, x.1 ∈ b.given
  tells : ∀ e ∈ b.entries, Tells (ofNumber b.log e.1) e.2

/-- What a step does to the places it touches: nothing, an item gets the next number, or an item is
moved. The last two arguments are the numbers it gives out and what it adds to the log. -/
inductive Change (n : ℕ) : List (ℕ × ι) → List (ℕ × ι) → List ℕ → List (ℕ × ε) → Prop
  | none (es : List (ℕ × ι)) : Change n es es [] []
  | give {i : ι} (h : Tells [] i) : Change n [] [(n + 1, i)] [n + 1] []
  | move (q : ℕ) {i j : ι} (es : List ε) (h : ∀ l, Tells l i → Tells (l ++ es) j) :
    Change n [(q, i)] [(q, j)] [] (es.map fun e => (q, e))

variable {Tells}

theorem Sound.perm {b : Book ι ε} (h : Sound Tells b) {entries : List (ℕ × ι)}
    (hperm : entries.Perm b.entries) : Sound Tells { b with entries := entries } :=
  ⟨(hperm.map Prod.fst).trans h.items, h.nodup, h.given_pos, h.given_le, h.log_given,
    fun e he => h.tells e (hperm.mem_iff.mp he)⟩

theorem Sound.skip {b : Book ι ε} (h : Sound Tells b) :
    Sound Tells { b with counter := b.counter + 1 } :=
  ⟨h.items, h.nodup, h.given_pos, fun q hq => Nat.le_succ_of_le (h.given_le q hq), h.log_given,
    h.tells⟩

theorem Sound.give {b : Book ι ε} (h : Sound Tells b) {i : ι} (hi : Tells [] i) :
    Sound Tells
      ⟨b.counter + 1, b.given ++ [b.counter + 1], (b.counter + 1, i) :: b.entries, b.log⟩ := by
  have hnew : b.counter + 1 ∉ b.given := fun hmem => by
    have := h.given_le _ hmem
    omega
  refine ⟨?_, ?_, fun q hq => ?_, fun q hq => ?_, fun x hx => ?_, fun e he => ?_⟩
  · exact ((h.items.cons (b.counter + 1)).trans (List.perm_append_singleton _ _).symm)
  · exact List.nodup_append.mpr ⟨h.nodup, by simp, by
      intro q hq q' hq'
      rw [List.mem_singleton.mp hq']
      rintro rfl
      exact hnew hq⟩
  · rcases List.mem_append.mp hq with hq | hq
    · exact h.given_pos q hq
    · rw [List.mem_singleton.mp hq]
      exact Nat.succ_pos _
  · rcases List.mem_append.mp hq with hq | hq
    · exact Nat.le_succ_of_le (h.given_le q hq)
    · exact Nat.le_of_eq (List.mem_singleton.mp hq)
  · exact List.mem_append_left _ (h.log_given x hx)
  · rcases List.mem_cons.mp he with rfl | he
    · have hnil : ofNumber b.log (b.counter + 1) = [] :=
        ofNumber_eq_nil fun x hx heq => hnew (heq ▸ h.log_given x hx)
      simpa [hnil] using hi
    · exact h.tells e he

theorem Sound.move {b : Book ι ε} (h : Sound Tells b) {q : ℕ} {i j : ι} {rest : List (ℕ × ι)}
    (hentries : b.entries = (q, i) :: rest) {es : List ε}
    (hij : ∀ l, Tells l i → Tells (l ++ es) j) :
    Sound Tells
      ⟨b.counter, b.given, (q, j) :: rest, b.log ++ es.map fun e => (q, e)⟩ := by
  have hitems := h.items
  rw [hentries, List.map_cons] at hitems
  have hq : q ∈ b.given := hitems.mem_iff.mp List.mem_cons_self
  have hrest : ∀ e ∈ rest, e.1 ≠ q := by
    intro e he heq
    have hnodup := hitems.nodup_iff.mpr h.nodup
    rw [List.nodup_cons] at hnodup
    exact hnodup.1 (List.mem_map.mpr ⟨e, he, heq⟩)
  refine ⟨hitems, h.nodup, h.given_pos, h.given_le, fun x hx => ?_, fun e he => ?_⟩
  · rcases List.mem_append.mp hx with hx | hx
    · exact h.log_given x hx
    · obtain ⟨e, -, rfl⟩ := List.mem_map.mp hx
      exact hq
  · rcases List.mem_cons.mp he with rfl | he
    · rw [ofNumber_append, ofNumber_map]
      exact hij _ (h.tells (q, i) (hentries ▸ List.mem_cons_self))
    · rw [ofNumber_append, ofNumber_map_of_ne (hrest e he), List.append_nil]
      exact h.tells e (hentries ▸ List.mem_cons_of_mem _ he)

theorem Sound.change {b b' : Book ι ε} (h : Sound Tells b) (rest : List (ℕ × ι))
    {old new : List (ℕ × ι)} {given : List ℕ} {log : List (ℕ × ε)}
    (hc : Change Tells b.counter old new given log)
    (hold : b.entries.Perm (old ++ rest)) (hnew : b'.entries.Perm (new ++ rest))
    (hcounter : b'.counter = b.counter + given.length) (hgiven : b'.given = b.given ++ given)
    (hlog : b'.log = b.log ++ log) : Sound Tells b' := by
  obtain ⟨counter, given', entries, log'⟩ := b'
  obtain rfl := hcounter
  obtain rfl := hgiven
  obtain rfl := hlog
  have hb := h.perm hold.symm
  cases hc with
  | none es => simpa using hb.perm hnew
  | give hi => simpa using (hb.give hi).perm hnew
  | move q es hij => simpa using (hb.move rfl hij).perm hnew

end Sound

theorem perm_flatMap_set {α β : Type*} (f : α → List β) {l : List α} {n : ℕ} {a : α} (b : α)
    (h : l[n]? = some a) :
    ∃ rest, (l.flatMap f).Perm (f a ++ rest) ∧ ((l.set n b).flatMap f).Perm (f b ++ rest) := by
  obtain ⟨hn, rfl⟩ := List.getElem?_eq_some_iff.mp h
  refine ⟨(l.take n).flatMap f ++ (l.drop (n + 1)).flatMap f, ?_, ?_⟩
  · have hl : l = l.take n ++ l[n] :: l.drop (n + 1) := by simp
    conv_lhs => rw [hl, List.flatMap_append, List.flatMap_cons]
    exact List.perm_append_comm_assoc _ _ _
  · rw [List.set_eq_take_append_cons_drop, if_pos hn, List.flatMap_append, List.flatMap_cons]
    exact List.perm_append_comm_assoc _ _ _

end Ledger
