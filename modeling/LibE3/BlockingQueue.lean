import LibE3.LockFreeQueue
import LibE3.Lib.Monitor
import LibE3.Lib.Runs
import LibE3.Lib.TicketRing

/-!
# The queue that consumers wait on

`LockFreeQueue` with its waiting: any number of threads in `push`, any number in the `pop` without a
deadline, and one in `shutdown`. The ring is the ring of tickets, and `wait_mutex_` and `wait_cv_`
are the monitor. Each load of `shutdown_`, each lock, unlock, wait and notification is a step. A
label says which thread moves, and whom `notify_one` wakes; a consumer may also wake without a
notification.
-/

namespace LibE3

namespace BlockingQueue

/-- `SPIN_COUNT`. -/
def spinCount : ℕ := 40

/-- `YIELD_COUNT`. -/
def yieldCount : ℕ := 100

inductive Thread (π κ : Type)
  | producer (p : π)
  | consumer (c : κ)
  | closer
  deriving DecidableEq

/-- Where a producer is: the step of `push` that it makes next. -/
inductive PushPc (α : Type)
  | idle
  | checkShutdown (item : α)
  | claim (item : α)
  | publish (pos : ℕ) (item : α)
  | lock
  | unlock
  | notify
  | returned (code : ErrorCode)

/-- Where a consumer is: the step of `pop` that it makes next. `polls` are the iterations left of
the loops of the first two phases, after this one. -/
inductive PopPc (α : Type)
  | idle
  | poll (polls : ℕ)
  | pollShutdown (polls : ℕ)
  | lock
  | tryPop
  | checkShutdown
  | wait
  | waiting
  | release (pos : ℕ) (locked : Bool)
  | unlock (item : α)
  | returned (item : α)

/-- Where the caller of `shutdown` is. -/
inductive ClosePc
  | idle
  | store
  | lock
  | unlock
  | notifyAll

inductive Label (π κ α : Type)
  | push (p : π) (item : α)
  | producer (p : π) (wakes : Option κ)
  | pop (c : κ)
  | consumer (c : κ)
  | wake (c : κ)
  | shutdown
  | closer

end BlockingQueue

/-- The queue, and the threads that use it. -/
structure BlockingQueue (π κ α : Type) where
  ring : TicketRing α
  isShutdown : Bool
  monitor : Monitor (BlockingQueue.Thread π κ)
  producers : π → BlockingQueue.PushPc α
  consumers : κ → BlockingQueue.PopPc α
  closer : BlockingQueue.ClosePc

namespace BlockingQueue

variable {π κ α : Type}

/-- The constructor. -/
def make (capacity : ℕ) : BlockingQueue π κ α where
  ring := .make (ringCapacity capacity)
  isShutdown := false
  monitor := .free
  producers _ := .idle
  consumers _ := .idle
  closer := .idle

/-- The first two phases of `pop` with so many iterations left, and then the third. The phases differ
only in how they pause. -/
def PopPc.polling : ℕ → PopPc α
  | 0 => .lock
  | polls + 1 => .poll polls

variable [DecidableEq π] [DecidableEq κ]

def gotoPush (s : BlockingQueue π κ α) (p : π) (pc : PushPc α) : BlockingQueue π κ α :=
  { s with producers := Function.update s.producers p pc }

def gotoPop (s : BlockingQueue π κ α) (c : κ) (pc : PopPc α) : BlockingQueue π κ α :=
  { s with consumers := Function.update s.consumers c pc }

/-- A call of `push` by a thread that is in none. -/
def push (s : BlockingQueue π κ α) (p : π) (item : α) : Option (BlockingQueue π κ α) :=
  match s.producers p with
  | .idle => some (s.gotoPush p (.checkShutdown item))
  | .returned _ => some (s.gotoPush p (.checkShutdown item))
  | _ => none

/-- The next step of `push`. -/
def producerStep (s : BlockingQueue π κ α) (p : π) (wakes : Option κ) :
    Option (BlockingQueue π κ α) :=
  match s.producers p with
  | .idle => none
  | .checkShutdown item =>
    some (s.gotoPush p (if s.isShutdown then .returned .notInitialized else .claim item))
  | .claim item =>
    if s.ring.HasRoom then
      some ({ s with ring := s.ring.claimHead }.gotoPush p (.publish s.ring.head item))
    else some (s.gotoPush p (.returned .bufferTooSmall))
  | .publish pos item => some ({ s with ring := s.ring.publish pos item }.gotoPush p .lock)
  | .lock =>
    (s.monitor.lock (.producer p)).map fun monitor =>
      { s with monitor := monitor }.gotoPush p .unlock
  | .unlock => some ({ s with monitor := s.monitor.unlock }.gotoPush p .notify)
  | .notify =>
    (s.monitor.notifyOne (wakes.map .consumer)).map fun monitor =>
      { s with monitor := monitor }.gotoPush p (.returned .success)
  | .returned _ => none

/-- A call of `pop` by a thread that is in none. -/
def pop (s : BlockingQueue π κ α) (c : κ) : Option (BlockingQueue π κ α) :=
  match s.consumers c with
  | .idle => some (s.gotoPop c (.polling (spinCount + yieldCount)))
  | .returned _ => some (s.gotoPop c (.polling (spinCount + yieldCount)))
  | _ => none

/-- `try_pop` of the ring up to its claim: where the consumer goes if it finds nothing. -/
def tryPop (s : BlockingQueue π κ α) (c : κ) (locked : Bool) (empty : PopPc α) :
    BlockingQueue π κ α :=
  if s.ring.Ready then
    { s with ring := s.ring.claimTail }.gotoPop c (.release s.ring.tail locked)
  else s.gotoPop c empty

variable [Inhabited α]

/-- The next step of `pop`. A return gives up the lock, if there is one. -/
def consumerStep (s : BlockingQueue π κ α) (c : κ) : Option (BlockingQueue π κ α) :=
  match s.consumers c with
  | .idle => none
  | .poll polls => some (s.tryPop c false (.pollShutdown polls))
  | .pollShutdown polls =>
    some (s.gotoPop c (if s.isShutdown then .returned default else .polling polls))
  | .lock =>
    (s.monitor.lock (.consumer c)).map fun monitor =>
      { s with monitor := monitor }.gotoPop c .tryPop
  | .tryPop => some (s.tryPop c true .checkShutdown)
  | .checkShutdown => some (s.gotoPop c (if s.isShutdown then .unlock default else .wait))
  | .wait => some ({ s with monitor := s.monitor.wait (.consumer c) }.gotoPop c .waiting)
  | .waiting =>
    (s.monitor.resume (.consumer c)).map fun monitor =>
      { s with monitor := monitor }.gotoPop c .tryPop
  | .release pos locked =>
    let item := (s.ring.slots pos).getD default
    some ({ s with ring := s.ring.release pos }.gotoPop c
      (if locked then .unlock item else .returned item))
  | .unlock item => some ({ s with monitor := s.monitor.unlock }.gotoPop c (.returned item))
  | .returned _ => none

/-- The next step of `shutdown`. -/
def closerStep (s : BlockingQueue π κ α) : Option (BlockingQueue π κ α) :=
  match s.closer with
  | .idle => none
  | .store => some { s with isShutdown := true, closer := .lock }
  | .lock =>
    (s.monitor.lock .closer).map fun monitor => { s with monitor := monitor, closer := .unlock }
  | .unlock => some { s with monitor := s.monitor.unlock, closer := .notifyAll }
  | .notifyAll => some { s with monitor := s.monitor.notifyAll, closer := .idle }

def step (s : BlockingQueue π κ α) : Label π κ α → Option (BlockingQueue π κ α)
  | .push p item => s.push p item
  | .producer p wakes => s.producerStep p wakes
  | .pop c => s.pop c
  | .consumer c => s.consumerStep c
  | .wake c =>
    (s.monitor.wake (.consumer c)).map fun monitor => { s with monitor := monitor }
  | .shutdown =>
    match s.closer with
    | .idle => some { s with closer := .store }
    | _ => none
  | .closer => s.closerStep

end BlockingQueue

end LibE3
