import LibE3.LockFreeQueue
import Mathlib.Algebra.Group.Int.Defs
import Mathlib.Algebra.Group.Nat.Defs
import Mathlib.Logic.Function.Basic

/-!
# The ring between the threads

`MpmcQueue`, with every access to an atomic variable and every move of the data as a step of its
own. `size_t` is a natural number below `2 ^ 64`, and its sums wrap. `buffer` is indexed by the
slots below the capacity. The data of a slot that was never written, or that was moved from, is
`none`.

A label says which thread makes its next step, and whether a `compare_exchange_weak` fails
spuriously at it.
-/

namespace LibE3

/-- A value of `size_t`. -/
def wrap (n : ℕ) : ℕ := n % 2 ^ 64

/-- The cast of a `size_t` to `intptr_t`. -/
def signed (n : ℕ) : ℤ := if n < 2 ^ 63 then n else n - 2 ^ 64

namespace MpmcQueue

structure Slot (α : Type) where
  sequence : ℕ
  data : Option α

/-- What a call returns: of `try_pop` also the data it gave. -/
inductive Result (α : Type)
  | pushed (success : Bool)
  | popped (data : Option α)
  | notPopped
  | size (n : ℕ)

/-- Where a thread is: the step it makes next, with its local variables. -/
inductive Pc (α : Type)
  | idle
  | pushLoadHead (data : α)
  | pushLoadSequence (data : α) (pos : ℕ)
  | pushExchange (data : α) (pos : ℕ)
  | pushMove (data : α) (pos : ℕ)
  | pushStore (pos : ℕ)
  | popLoadTail
  | popLoadSequence (pos : ℕ)
  | popExchange (pos : ℕ)
  | popMove (pos : ℕ)
  | popStore (pos : ℕ) (data : Option α)
  | sizeLoadHead
  | sizeLoadTail (h : ℕ)
  | returned (result : Result α)

inductive Op (α : Type)
  | tryPush (data : α)
  | tryPop
  | sizeApprox

/-- The first step of a call. -/
def Op.entry {α : Type} : Op α → Pc α
  | .tryPush data => .pushLoadHead data
  | .tryPop => .popLoadTail
  | .sizeApprox => .sizeLoadHead

inductive Label (τ α : Type)
  | call (t : τ) (op : Op α)
  | step (t : τ) (spurious : Bool)

end MpmcQueue

/-- The queue, and the threads that use it. -/
structure MpmcQueue (τ α : Type) where
  capacity : ℕ
  buffer : ℕ → MpmcQueue.Slot α
  head : ℕ
  tail : ℕ
  threads : τ → MpmcQueue.Pc α

namespace MpmcQueue

variable {τ α : Type}

/-- The constructor. -/
def make (minCapacity : ℕ) : MpmcQueue τ α where
  capacity := ringCapacity minCapacity
  buffer i := ⟨i, none⟩
  head := 0
  tail := 0
  threads _ := .idle

def mask (q : MpmcQueue τ α) : ℕ := q.capacity - 1

/-- `buffer_[pos & mask_]`. -/
def slot (q : MpmcQueue τ α) (pos : ℕ) : Slot α := q.buffer (pos &&& q.mask)

def setSlot (q : MpmcQueue τ α) (pos : ℕ) (s : Slot α) : MpmcQueue τ α :=
  { q with buffer := Function.update q.buffer (pos &&& q.mask) s }

variable [DecidableEq τ]

def goto (q : MpmcQueue τ α) (t : τ) (pc : Pc α) : MpmcQueue τ α :=
  { q with threads := Function.update q.threads t pc }

/-- What a producer does after it has read the sequence of the slot of `pos`. -/
def pushCompare (q : MpmcQueue τ α) (data : α) (pos : ℕ) : Pc α :=
  let diff := signed (q.slot pos).sequence - signed pos
  if diff = 0 then .pushExchange data pos
  else if diff < 0 then .returned (.pushed false)
  else .pushLoadHead data

/-- What a consumer does after it has read the sequence of the slot of `pos`. -/
def popCompare (q : MpmcQueue τ α) (pos : ℕ) : Pc α :=
  let diff := signed (q.slot pos).sequence - signed (wrap (pos + 1))
  if diff = 0 then .popExchange pos
  else if diff < 0 then .returned .notPopped
  else .popLoadTail

/-- The next step of a thread. A `compare_exchange_weak` that fails loads the value it found. -/
def advance (q : MpmcQueue τ α) (t : τ) (spurious : Bool) : Option (MpmcQueue τ α) :=
  match q.threads t with
  | .idle => none
  | .pushLoadHead data => some (q.goto t (.pushLoadSequence data q.head))
  | .pushLoadSequence data pos => some (q.goto t (q.pushCompare data pos))
  | .pushExchange data pos =>
    if q.head = pos ∧ spurious = false then
      some ({ q with head := wrap (pos + 1) }.goto t (.pushMove data pos))
    else some (q.goto t (.pushLoadSequence data q.head))
  | .pushMove data pos =>
    some ((q.setSlot pos { q.slot pos with data := some data }).goto t (.pushStore pos))
  | .pushStore pos =>
    some ((q.setSlot pos { q.slot pos with sequence := wrap (pos + 1) }).goto t
      (.returned (.pushed true)))
  | .popLoadTail => some (q.goto t (.popLoadSequence q.tail))
  | .popLoadSequence pos => some (q.goto t (q.popCompare pos))
  | .popExchange pos =>
    if q.tail = pos ∧ spurious = false then
      some ({ q with tail := wrap (pos + 1) }.goto t (.popMove pos))
    else some (q.goto t (.popLoadSequence q.tail))
  | .popMove pos =>
    some ((q.setSlot pos { q.slot pos with data := none }).goto t
      (.popStore pos (q.slot pos).data))
  | .popStore pos data =>
    some ((q.setSlot pos { q.slot pos with sequence := wrap (pos + q.capacity) }).goto t
      (.returned (.popped data)))
  | .sizeLoadHead => some (q.goto t (.sizeLoadTail q.head))
  | .sizeLoadTail h =>
    some (q.goto t (.returned (.size (if q.tail ≤ h then h - q.tail else 0))))
  | .returned _ => none

/-- A call by a thread that is in none. -/
def call (q : MpmcQueue τ α) (t : τ) (op : Op α) : Option (MpmcQueue τ α) :=
  match q.threads t with
  | .idle => some (q.goto t op.entry)
  | .returned _ => some (q.goto t op.entry)
  | _ => none

def step (q : MpmcQueue τ α) : Label τ α → Option (MpmcQueue τ α)
  | .call t op => q.call t op
  | .step t spurious => q.advance t spurious

end MpmcQueue

end LibE3
