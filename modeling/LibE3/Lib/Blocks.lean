import Mathlib.Data.List.Count
import Mathlib.Tactic.Common

/-!
# A heap of blocks

The heap hands out its blocks with the numbers 0, 1, 2 and so on, and keeps which were freed, in the
order of the calls. Any allocation may fail. `Tracks` compares a heap with an earlier one: which of
the blocks handed out since then are still held.
-/

structure Heap where
  /-- Whether an allocation fails, by the number of allocations before it. -/
  fails : ℕ → Bool
  next : ℕ := 0
  freed : List ℕ := []
  /-- The number of allocations that failed. -/
  failed : ℕ := 0

namespace Heap

/-- An allocation: the block, or nothing. -/
def alloc (h : Heap) : Option ℕ × Heap :=
  if h.fails (h.next + h.failed) then (none, { h with failed := h.failed + 1 })
  else (some h.next, { h with next := h.next + 1 })

/-- A block is freed; a null pointer is none. -/
def free (h : Heap) : Option ℕ → Heap
  | none => h
  | some block => { h with freed := h.freed ++ [block] }

/-- `n` blocks, one after the other; where an allocation fails, only those before it. -/
def allocUpTo (h : Heap) : ℕ → List ℕ × Heap
  | 0 => ([], h)
  | n + 1 =>
    match h.alloc with
    | (none, h) => ([], h)
    | (some block, h) =>
      let (blocks, h) := h.allocUpTo n
      (block :: blocks, h)

/-- Since `h₀` the blocks that are still held are `held`. -/
structure Tracks (h₀ h : Heap) (held : List ℕ) : Prop where
  next_le : h₀.next ≤ h.next
  count : ∀ i, held.count i + h.freed.count i
    = h₀.freed.count i + if h₀.next ≤ i ∧ i < h.next then 1 else 0

/-- Since `h₀` each block that was handed out was freed exactly once, and nothing else was. -/
def Balanced (h₀ h : Heap) : Prop := h₀.Tracks h []

variable {h₀ h h' : Heap} {held held' : List ℕ}

theorem tracks_refl (h : Heap) : h.Tracks h [] := by
  refine ⟨Nat.le_refl _, fun i => ?_⟩
  rw [if_neg (by omega)]
  simp

theorem Tracks.congr (ht : h₀.Tracks h held) (hcount : ∀ i, held'.count i = held.count i) :
    h₀.Tracks h held' :=
  ⟨ht.next_le, fun i => by rw [hcount]; exact ht.count i⟩

theorem Tracks.alloc {block : ℕ} (ht : h₀.Tracks h held) (ha : h.alloc = (some block, h')) :
    h₀.Tracks h' (block :: held) ∧ h'.failed = h.failed := by
  unfold Heap.alloc at ha
  split_ifs at ha <;> simp only [Prod.mk.injEq, reduceCtorEq, false_and, Option.some.injEq] at ha
  obtain ⟨rfl, rfl⟩ := ha
  refine ⟨⟨Nat.le_succ_of_le ht.next_le, fun i => ?_⟩, rfl⟩
  have hcount := ht.count i
  have hle := ht.next_le
  -- the new block is the first that is not below the old bound
  by_cases hi : i = h.next
  · subst hi
    have hnew : h₀.next ≤ h.next ∧ h.next < h.next + 1 := ⟨hle, Nat.lt_succ_self _⟩
    have hold : ¬ (h₀.next ≤ h.next ∧ h.next < h.next) := by omega
    simp only [hold, if_false] at hcount
    simp only [List.count_cons_self, hnew, and_self, if_true]
    omega
  · have hiff : (h₀.next ≤ i ∧ i < h.next + 1) ↔ (h₀.next ≤ i ∧ i < h.next) := by omega
    simp only [List.count_cons_of_ne (Ne.symm hi), hiff]
    exact hcount

theorem Tracks.alloc_none (ht : h₀.Tracks h held) (ha : h.alloc = (none, h')) :
    h₀.Tracks h' held ∧ h'.failed = h.failed + 1 := by
  unfold Heap.alloc at ha
  split_ifs at ha <;> simp only [Prod.mk.injEq, reduceCtorEq, false_and, true_and] at ha
  subst ha
  exact ⟨⟨ht.next_le, ht.count⟩, rfl⟩

theorem Tracks.allocUpTo {n : ℕ} {blocks : List ℕ} (ht : h₀.Tracks h held)
    (heq : h.allocUpTo n = (blocks, h')) : h₀.Tracks h' (blocks ++ held)
      ∧ (blocks.length = n ∧ h'.failed = h.failed
        ∨ blocks.length < n ∧ h'.failed = h.failed + 1) := by
  induction n generalizing h held blocks with
  | zero =>
    cases heq
    exact ⟨ht, Or.inl ⟨rfl, rfl⟩⟩
  | succ n ih =>
    unfold Heap.allocUpTo at heq
    rcases ha : h.alloc with ⟨_ | block, h₁⟩
    · rw [ha] at heq
      cases heq
      obtain ⟨ht₁, hfailed⟩ := ht.alloc_none ha
      exact ⟨ht₁, Or.inr ⟨Nat.succ_pos n, hfailed⟩⟩
    · rcases hrest : h₁.allocUpTo n with ⟨rest, h₂⟩
      simp only [ha, hrest, Prod.mk.injEq] at heq
      obtain ⟨rfl, rfl⟩ := heq
      obtain ⟨ht₁, hfailed⟩ := ht.alloc ha
      obtain ⟨ht₂, hall⟩ := ih ht₁ hrest
      refine ⟨ht₂.congr fun i => ?_, ?_⟩
      · simp only [List.count_append, List.cons_append, List.count_cons]
        omega
      · rw [List.length_cons]
        omega

/-- The heap after all of `blocks` were freed, in their order. -/
def freeAll (h : Heap) (blocks : List ℕ) : Heap := { h with freed := h.freed ++ blocks }

@[simp] theorem freeAll_nil (h : Heap) : h.freeAll [] = h := by
  simp [freeAll]

@[simp] theorem freeAll_freeAll (h : Heap) (a b : List ℕ) :
    (h.freeAll a).freeAll b = h.freeAll (a ++ b) := by
  simp [freeAll]

theorem free_eq (h : Heap) (p : Option ℕ) : h.free p = h.freeAll p.toList := by
  cases p <;> simp [free, freeAll]

theorem foldl_freeAll {α : Type} (f : Heap → α → Heap) (blocks : α → List ℕ)
    (hf : ∀ h a, f h a = h.freeAll (blocks a)) :
    ∀ (l : List α) (h : Heap), l.foldl f h = h.freeAll (l.flatMap blocks)
  | [], h => by simp
  | a :: l, h => by
    rw [List.foldl_cons, foldl_freeAll f blocks hf l, hf, freeAll_freeAll, List.flatMap_cons]

theorem Tracks.freeAll {blocks : List ℕ} (ht : h₀.Tracks h (held ++ blocks)) :
    h₀.Tracks (h.freeAll blocks) held := by
  refine ⟨ht.next_le, fun i => ?_⟩
  have hcount := ht.count i
  rw [List.count_append] at hcount
  refine Eq.trans ?_ hcount
  show held.count i + (h.freed ++ blocks).count i = _
  rw [List.count_append]
  omega

theorem Tracks.balanced (ht : h₀.Tracks h held) : h₀.Balanced (h.freeAll held) := by
  have hall : h₀.Tracks h ([] ++ held) := ht
  exact hall.freeAll

end Heap
