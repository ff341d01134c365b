import LibE3.Types
import Mathlib.Tactic.SplitIfs

/-!
# The queues between the threads

`LockFreeQueue` without its waiting: `ring_` is the list of the values it holds, oldest first. The
capacity of the ring is the one that the constructor of `MpmcQueue` computes.
-/

namespace LibE3

/-- The loop of the constructor of `MpmcQueue`: `capacity` doubles until it reaches
`minCapacity`. -/
def doubleUntil (minCapacity : ℕ) : ℕ → ℕ → ℕ
  | 0, capacity => capacity
  | fuel + 1, capacity =>
    if capacity < minCapacity then doubleUntil minCapacity fuel (2 * capacity) else capacity

/-- The capacity of a ring asked for `minCapacity` slots. -/
def ringCapacity (minCapacity : ℕ) : ℕ := doubleUntil minCapacity minCapacity 2

structure LockFreeQueue (α : Type) where
  capacity : ℕ
  ring : List α
  isShutdown : Bool
  deriving DecidableEq, Repr

namespace LockFreeQueue

variable {α : Type}

def make (capacity : ℕ) : LockFreeQueue α := ⟨ringCapacity capacity, [], false⟩

def push (q : LockFreeQueue α) (item : α) : ErrorCode × LockFreeQueue α :=
  if q.isShutdown then (.notInitialized, q)
  else if q.ring.length < q.capacity then (.success, { q with ring := q.ring ++ [item] })
  else (.bufferTooSmall, q)

def tryPop (q : LockFreeQueue α) : Option α × LockFreeQueue α :=
  (q.ring.head?, { q with ring := q.ring.tail })

def clear (q : LockFreeQueue α) : LockFreeQueue α := { q with ring := [] }

def shutdown (q : LockFreeQueue α) : LockFreeQueue α := { q with isShutdown := true }

def rearm (q : LockFreeQueue α) : LockFreeQueue α := { q.clear with isShutdown := false }

theorem push_success {q : LockFreeQueue α} {item : α} (hopen : q.isShutdown = false)
    (hroom : q.ring.length < q.capacity) : (q.push item).1 = .success := by
  simp [push, hopen, hroom]

@[simp] theorem push_isShutdown (q : LockFreeQueue α) (item : α) :
    (q.push item).2.isShutdown = q.isShutdown := by
  unfold push
  split_ifs <;> rfl

end LockFreeQueue

end LibE3
