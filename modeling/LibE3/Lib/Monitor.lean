import Mathlib.Data.Finset.Card

/-!
# A mutex and its condition variable

A thread that waits gives the mutex up and is parked. A notification wakes one parked thread, or all
of them; a thread may also wake without one, and goes on when it has the mutex again.
-/

structure Monitor (τ : Type*) where
  owner : Option τ
  parked : Finset τ
  woken : Finset τ
  disjoint : Disjoint parked woken

namespace Monitor

variable {τ : Type*}

def free : Monitor τ := ⟨none, ∅, ∅, Finset.disjoint_empty_left ∅⟩

def lock (m : Monitor τ) (t : τ) : Option (Monitor τ) :=
  if m.owner.isNone then some { m with owner := some t } else none

def unlock (m : Monitor τ) : Monitor τ := { m with owner := none }

variable [DecidableEq τ]

def wait (m : Monitor τ) (t : τ) : Monitor τ where
  owner := none
  parked := insert t m.parked
  woken := m.woken.erase t
  disjoint := by
    rw [Finset.disjoint_insert_left]
    exact ⟨Finset.notMem_erase t _, m.disjoint.mono_right (Finset.erase_subset t _)⟩

/-- The monitor after a parked thread has woken. -/
def rouse (m : Monitor τ) (t : τ) : Monitor τ where
  owner := m.owner
  parked := m.parked.erase t
  woken := insert t m.woken
  disjoint := by
    rw [Finset.disjoint_insert_right]
    exact ⟨Finset.notMem_erase t _, m.disjoint.mono_left (Finset.erase_subset t _)⟩

def wake (m : Monitor τ) (t : τ) : Option (Monitor τ) :=
  if t ∈ m.parked then some (m.rouse t) else none

/-- A notification of one thread. It reaches nobody only if nobody is parked. -/
def notifyOne (m : Monitor τ) : Option τ → Option (Monitor τ)
  | some t => m.wake t
  | none => if m.parked = ∅ then some m else none

def notifyAll (m : Monitor τ) : Monitor τ :=
  { m with
    parked := ∅
    woken := m.woken ∪ m.parked
    disjoint := Finset.disjoint_empty_left _ }

/-- The monitor after a woken thread has got the mutex. -/
def enter (m : Monitor τ) (t : τ) : Monitor τ where
  owner := some t
  parked := m.parked
  woken := m.woken.erase t
  disjoint := m.disjoint.mono_right (Finset.erase_subset t _)

def resume (m : Monitor τ) (t : τ) : Option (Monitor τ) :=
  if m.owner.isNone ∧ t ∈ m.woken then some (m.enter t) else none

variable {m m' : Monitor τ} {t : τ}

omit [DecidableEq τ] in
theorem lock_eq_some : m.lock t = some m' ↔ m.owner = none ∧ m' = { m with owner := some t } := by
  unfold lock
  split_ifs with h
  · simp only [Option.isNone_iff_eq_none] at h
    simp [h, eq_comm]
  · simp only [Option.isNone_iff_eq_none] at h
    simp [h]

theorem wake_spec (h : m.wake t = some m') : t ∈ m.parked ∧ m'.owner = m.owner
    ∧ m'.parked = m.parked.erase t ∧ m'.woken = insert t m.woken
    ∧ m'.woken.card = m.woken.card + 1 := by
  unfold wake at h
  split_ifs at h with ht
  obtain rfl := Option.some.inj h
  refine ⟨ht, rfl, rfl, rfl, Finset.card_insert_of_notMem ?_⟩
  exact Finset.disjoint_left.mp m.disjoint ht

theorem resume_spec (h : m.resume t = some m') : t ∈ m.woken ∧ m.owner = none
    ∧ m'.owner = some t ∧ m'.parked = m.parked ∧ m'.woken = m.woken.erase t := by
  unfold resume at h
  split_ifs at h with ht
  obtain rfl := Option.some.inj h
  exact ⟨ht.2, Option.isNone_iff_eq_none.mp ht.1, rfl, rfl, rfl⟩

theorem notifyOne_spec {choice : Option τ} (h : m.notifyOne choice = some m') :
    m'.owner = m.owner ∧ m'.parked ⊆ m.parked ∧ m'.woken ∪ m'.parked = m.woken ∪ m.parked
      ∧ (m.parked.Nonempty → m'.woken.card = m.woken.card + 1) := by
  cases choice with
  | none =>
    unfold notifyOne at h
    simp only at h
    split_ifs at h with hempty
    obtain rfl := Option.some.inj h
    exact ⟨rfl, Finset.Subset.refl _, rfl, fun hne => absurd hempty hne.ne_empty⟩
  | some t =>
    obtain ⟨ht, howner, hparked, hwoken, hcard⟩ := wake_spec h
    refine ⟨howner, ?_, ?_, fun _ => hcard⟩
    · rw [hparked]
      exact Finset.erase_subset t _
    · rw [hparked, hwoken, Finset.insert_union, ← Finset.union_insert, Finset.insert_erase ht]

end Monitor
