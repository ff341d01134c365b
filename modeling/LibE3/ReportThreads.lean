import LibE3.LockFreeQueue
import LibE3.Lib.Runs

/-!
# The threads that reports pass through

The inbound thread of a RAN puts the reports of the dApps in `report_queue_`, the report worker
hands them to the handler of the application, and `stop()` ends both. Each check of a flag and each
access to the ring is a step. What the connector gives the inbound thread and whether the deadline
of a `pop` has passed come with the label. The mutex and the notification of the queue are left out:
the worker waits with a deadline, so they only delay it. The state begins where `start()` has made
the threads, with a queue that is new or was rearmed.
-/

namespace LibE3

/-- What a step of the inbound thread gets from the connector: nothing, a message that is no report,
or a report. -/
inductive Received
  | failed
  | other
  | report (r : DAppReport)
  deriving DecidableEq, Repr

namespace ReportThreads

/-- Where the inbound thread is, in `inbound_loop_ran` and in the `push` it makes. -/
inductive Inbound
  | setup
  | loop
  | receive
  | failed
  | pushCheck (r : DAppReport)
  | pushRing (r : DAppReport)
  | pushReturn (r : DAppReport)
  | ended
  deriving DecidableEq, Repr

/-- Where the report worker is, in `report_worker_loop` and in the `pop` it makes. -/
inductive Worker
  | loop
  | popTry
  | popCheck
  | popLast
  | handle (r : DAppReport)
  | drainTry
  | drainHandle (r : DAppReport)
  | ended
  deriving DecidableEq, Repr

/-- Where `stop()` is. -/
inductive Stopper
  | notCalled
  | setFlag
  | shutdownQueue
  | shutdownConnector
  | joinInbound
  | joinWorker
  | cleanUp
  | returned
  deriving DecidableEq, Repr

inductive Label
  | inbound (received : Received)
  | worker (deadline : Bool)
  | stop
  deriving DecidableEq, Repr

end ReportThreads

/-- The threads, the queue and the stop flag. `accepted` are the reports whose `push` returned
`SUCCESS` and `handled` those that were passed to the handler, in their order. -/
structure ReportThreads where
  queue : LockFreeQueue DAppReport
  shouldStop : Bool
  inbound : ReportThreads.Inbound
  worker : ReportThreads.Worker
  stopper : ReportThreads.Stopper
  accepted : List DAppReport
  handled : List DAppReport
  deriving DecidableEq, Repr

namespace ReportThreads

/-- The threads as `start()` leaves them. -/
def started (minCapacity : ℕ) : ReportThreads where
  queue := .make minCapacity
  shouldStop := false
  inbound := .setup
  worker := .loop
  stopper := .notCalled
  accepted := []
  handled := []

/-- The next step of `inbound_loop_ran`. -/
def inboundStep (s : ReportThreads) (received : Received) : Option ReportThreads :=
  match s.inbound with
  | .setup => some { s with inbound := if received = .failed then .ended else .loop }
  | .loop => some { s with inbound := if s.shouldStop then .ended else .receive }
  | .receive =>
    match received with
    | .failed => some { s with inbound := .failed }
    | .other => some { s with inbound := .loop }
    | .report r => some { s with inbound := .pushCheck r }
  | .failed => some { s with inbound := if s.shouldStop then .ended else .loop }
  | .pushCheck r => some { s with inbound := if s.queue.isShutdown then .loop else .pushRing r }
  | .pushRing r =>
    if s.queue.ring.length < s.queue.capacity then
      some { s with
        queue := { s.queue with ring := s.queue.ring ++ [r] }
        inbound := .pushReturn r }
    else some { s with inbound := .loop }
  | .pushReturn r => some { s with inbound := .loop, accepted := s.accepted ++ [r] }
  | .ended => none

/-- `try_pop` of the ring: where the worker goes with a report, and where without one. -/
def take (s : ReportThreads) (found : DAppReport → Worker) (empty : Worker) : ReportThreads :=
  match s.queue.ring with
  | [] => { s with worker := empty }
  | r :: rest => { s with queue := { s.queue with ring := rest }, worker := found r }

/-- The next step of `report_worker_loop`. -/
def workerStep (s : ReportThreads) (deadline : Bool) : Option ReportThreads :=
  match s.worker with
  | .loop => some { s with worker := if s.shouldStop then .drainTry else .popTry }
  | .popTry => some (s.take .handle .popCheck)
  | .popCheck =>
    some { s with
      worker := if s.queue.isShutdown then .loop else if deadline then .popLast else .popTry }
  | .popLast => some (s.take .handle .loop)
  | .handle r => some { s with worker := .loop, handled := s.handled ++ [r] }
  | .drainTry => some (s.take .drainHandle .ended)
  | .drainHandle r => some { s with worker := .drainTry, handled := s.handled ++ [r] }
  | .ended => none

/-- The next step of `stop()`. A join waits for its thread. -/
def stopStep (s : ReportThreads) : Option ReportThreads :=
  match s.stopper with
  | .notCalled => some { s with stopper := .setFlag }
  | .setFlag => some { s with shouldStop := true, stopper := .shutdownQueue }
  | .shutdownQueue => some { s with queue := s.queue.shutdown, stopper := .shutdownConnector }
  | .shutdownConnector => some { s with stopper := .joinInbound }
  | .joinInbound => if s.inbound = .ended then some { s with stopper := .joinWorker } else none
  | .joinWorker => if s.worker = .ended then some { s with stopper := .cleanUp } else none
  | .cleanUp => some { s with stopper := .returned }
  | .returned => none

def step (s : ReportThreads) : Label → Option ReportThreads
  | .inbound received => s.inboundStep received
  | .worker deadline => s.workerStep deadline
  | .stop => s.stopStep

end ReportThreads

end LibE3
