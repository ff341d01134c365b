import Mathlib.Logic.Function.Basic
import Mathlib.Tactic.Common

/-!
# A ring of tickets

A bounded ring that any number of threads fill and empty. A producer takes the next ticket of the
head, and publishes its item under it some time later; a consumer takes the next ticket of the tail,
and releases its slot some time later. A ticket `i` of the head is for the slot that the ticket
`i - capacity` of the tail releases.
-/

structure TicketRing (α : Type*) where
  capacity : ℕ
  head : ℕ
  tail : ℕ
  /-- What is published under the tickets of the head. -/
  slots : ℕ → Option α
  /-- Which tickets of the tail have released their slots. -/
  released : ℕ → Bool

namespace TicketRing

variable {α : Type*}

def make (capacity : ℕ) : TicketRing α := ⟨capacity, 0, 0, fun _ => none, fun _ => false⟩

/-- The slot of the next ticket of the head is free. -/
def HasRoom (r : TicketRing α) : Prop :=
  r.head < r.capacity ∨ r.released (r.head - r.capacity) = true

instance (r : TicketRing α) : Decidable r.HasRoom := inferInstanceAs (Decidable (_ ∨ _))

/-- The item of the next ticket of the tail is published. -/
def Ready (r : TicketRing α) : Prop := (r.slots r.tail).isSome = true

instance (r : TicketRing α) : Decidable r.Ready := inferInstanceAs (Decidable (_ = _))

def claimHead (r : TicketRing α) : TicketRing α := { r with head := r.head + 1 }

def publish (r : TicketRing α) (pos : ℕ) (item : α) : TicketRing α :=
  { r with slots := Function.update r.slots pos (some item) }

def claimTail (r : TicketRing α) : TicketRing α := { r with tail := r.tail + 1 }

def release (r : TicketRing α) (pos : ℕ) : TicketRing α :=
  { r with released := Function.update r.released pos true }

/-- What the threads do with the ring. -/
inductive Step (r : TicketRing α) : TicketRing α → Prop
  | claimHead (h : r.HasRoom) : Step r r.claimHead
  | publish {pos : ℕ} (item : α) (h : pos < r.head) : Step r (r.publish pos item)
  | claimTail (h : r.Ready) : Step r r.claimTail
  | release {pos : ℕ} (h : pos < r.tail) : Step r (r.release pos)

/-- The first `n` tickets of the head are published, and no others. -/
def Upto (r : TicketRing α) (n : ℕ) : Prop := ∀ i, (r.slots i).isSome = true ↔ i < n

theorem upto_make (capacity : ℕ) : (make capacity : TicketRing α).Upto 0 := by
  intro i
  simp [make]

theorem Upto.publish {r : TicketRing α} {n : ℕ} (h : r.Upto n) (item : α) :
    (r.publish n item).Upto (n + 1) := by
  intro i
  have hi := h i
  unfold TicketRing.publish
  by_cases hin : i = n
  · subst hin
    simp
  · simp only [ne_eq, hin, not_false_eq_true, Function.update_of_ne]
    rw [hi]
    omega

end TicketRing
