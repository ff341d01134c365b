import LibE3.LockFreeQueue
import LibE3.Lib.Runs

/-!
# The threads that PDUs go out through

Any number of threads queue PDUs with `queue_outbound`, directly or through an emit API, and the
outbound thread encodes them and hands them to the connector. `stop()` and `start()` shut the queue
and open it again. Each check of a flag, each access to the ring and each stamp of the latency
recorder is a step, and a label says who moves. The encoder is a function; what the connector
returns, whether the deadline of a `pop` has passed, whether a connection could be made and whether
a ring of the recorder could be opened come with the label. The mutex and the notification of the
queue are left out: the outbound thread waits with a deadline, so they only delay it. The recorder
is compiled in, and no run takes 2 ^ 64 numbers from it.

`log` is what happened to each PDU, under its `enqueue_seq`, and `fates` is what became of the PDUs
that are with no thread and not in the queue any more.
-/

namespace LibE3

/-- The stages of the latency recorder that a PDU on its way out is stamped with. -/
inductive OutStage
  | emitEnter | enqueue | dequeue | encodeE3apDone | sendDone | drop
  deriving DecidableEq, Repr

/-- `LATREC_DROP_QUEUE_PUSH`, `LATREC_DROP_ENCODE`, `LATREC_DROP_SEND` and
`LATREC_DROP_SHUTDOWN`. -/
inductive DropReason
  | queuePush | encode | send | shutdown
  deriving DecidableEq, Repr

def DropReason.value : DropReason → ℕ
  | .queuePush => 1
  | .encode => 2
  | .send => 3
  | .shutdown => 9

/-- The value of an enumerator of `PduType`. -/
def PduType.value : PduType → ℕ
  | .setupRequest => 0
  | .setupResponse => 1
  | .subscriptionRequest => 2
  | .subscriptionDelete => 3
  | .subscriptionResponse => 4
  | .indicationMessage => 5
  | .dappControlAction => 6
  | .dappReport => 7
  | .xappControlAction => 8
  | .releaseMessage => 9
  | .messageAck => 10

/-- A PDU with its `enqueue_seq`. -/
structure Outgoing where
  enqueueSeq : ℕ
  pdu : Pdu
  deriving DecidableEq

/-- What happens to a PDU: a stamp with `aux` and `aux2`, which is recorded if the ring of the thread
is enabled, what `push` returns for it, and what the `send` of the connector returns for its
bytes. -/
inductive OutEvent
  | stamp (recorded : Bool) (stage : OutStage) (aux aux2 : ℕ)
  | pushed (pdu : Pdu) (rc : ErrorCode)
  | handed (pdu : Pdu) (buffer : Bytes) (rc : ErrorCode)
  deriving DecidableEq

namespace OutboundThreads

/-- Where a thread is that queues PDUs. -/
inductive Producer
  | idle
  | emit (pdu : Pdu) (ctx ranFunctionId : ℕ)
  | emitStamp (x : Outgoing) (ctx ranFunctionId : ℕ)
  | queueOutbound (x : Outgoing)
  | stamp (x : Outgoing)
  | pushCheck (x : Outgoing)
  | pushRing (x : Outgoing)
  | refused (x : Outgoing) (rc : ErrorCode)

/-- A thread that queues PDUs: where it is, and its ring of the recorder, once it has one, with
whether it is enabled. -/
structure ProducerThread where
  pc : Producer := .idle
  ring : Option Bool := none

def ProducerThread.records (t : ProducerThread) : Bool := t.ring.getD false

/-- Where the outbound thread is, in its loop and in the `pop` it makes. -/
inductive Outbound
  | setup
  | setupFailed
  | loop
  | popTry
  | popCheck
  | popLast
  | dequeued (x : Outgoing)
  | encode (x : Outgoing)
  | notEncoded (x : Outgoing)
  | encoded (x : Outgoing) (buffer : Bytes)
  | send (x : Outgoing) (buffer : Bytes)
  | sent (x : Outgoing) (buffer : Bytes)
  | notSent (x : Outgoing) (buffer : Bytes) (rc : ErrorCode)
  | ended

/-- Where `stop()` or `start()` is. -/
inductive Control
  | running
  | setFlag
  | shutdownQueue
  | shutdownConnector
  | join
  | stopped
  | createConnector
  | rearmClear
  | rearmOpen
  | connect
  | error
  deriving DecidableEq

/-- What became of a PDU. -/
inductive Fate
  | sent (x : Outgoing) (buffer : Bytes)
  | refused (x : Outgoing) (rc : ErrorCode)
  | notEncoded (x : Outgoing)
  | notSent (x : Outgoing) (buffer : Bytes) (rc : ErrorCode)
  | discarded (x : Outgoing)

inductive Label
  /-- A thread calls `queue_outbound`. -/
  | call (p : ℕ) (pdu : Pdu)
  /-- A thread calls an emit API, with the context it has published. -/
  | emit (p : ℕ) (pdu : Pdu) (ctx ranFunctionId : ℕ)
  /-- The next step of a thread, with the ring that `latrec_tls_open_as` makes for it if it calls
  that: none, or one that is enabled or not. -/
  | producer (p : ℕ) (opened : Option Bool)
  /-- Another part of the process takes a number of `latrec_seq_next`. -/
  | otherNumber
  | outbound (deadline : Bool) (rc : ErrorCode)
  /-- The next step of `stop()` or `start()`, or the first of a `start()` (`true`) or a `stop()` when
  the interface is stopped. An outbound thread that it makes has an enabled ring or not. -/
  | control (ok records : Bool)

end OutboundThreads

/-- The threads, the queue, the flag and the counter of `latrec_seq_next`. -/
structure OutboundThreads where
  role : E3Role
  queue : LockFreeQueue Outgoing
  counter : ℕ
  shouldStop : Bool
  startedBefore : Bool
  producers : List OutboundThreads.ProducerThread
  outbound : OutboundThreads.Outbound
  records : Bool
  control : OutboundThreads.Control
  numbered : List ℕ
  log : List (ℕ × OutEvent)
  fates : List OutboundThreads.Fate

namespace OutboundThreads

/-- The threads as `init()` leaves them, with as many producers as there will be. -/
def initialized (role : E3Role) (producers : ℕ) : OutboundThreads where
  role
  queue := .make 128
  counter := 0
  shouldStop := false
  startedBefore := false
  producers := List.replicate producers {}
  outbound := .ended
  records := false
  control := .stopped
  numbered := []
  log := []
  fates := []

def enqueueStamp (recorded : Bool) (x : Outgoing) : OutEvent :=
  .stamp recorded .enqueue 0 x.pdu.type.value

def dequeueStamp (recorded : Bool) (x : Outgoing) : OutEvent :=
  .stamp recorded .dequeue 0 x.pdu.type.value

def encodeDoneStamp (recorded : Bool) (buffer : Bytes) : OutEvent :=
  .stamp recorded .encodeE3apDone buffer.length 0

def sendDoneStamp (recorded : Bool) (x : Outgoing) : OutEvent :=
  .stamp recorded .sendDone x.pdu.messageId.toNat 0

def dropStamp (recorded : Bool) (reason : DropReason) : OutEvent :=
  .stamp recorded .drop 0 reason.value

/-- Why a PDU was not queued. -/
def pushReason (rc : ErrorCode) : DropReason :=
  if rc = .notInitialized then .shutdown else .queuePush

/-- Why a PDU was not sent. -/
def sendReason (rc : ErrorCode) : DropReason := if rc = .cancelled then .shutdown else .send

/-- What a step does beside moving its thread on: what it takes from the ring and puts in it, the
numbers of `latrec_seq_next` it gives to PDUs, the PDUs it is the end of, and what it logs. -/
structure Effect where
  taken : List Outgoing := []
  pushed : List Outgoing := []
  given : List ℕ := []
  fates : List Fate := []
  log : List (ℕ × OutEvent) := []

def happens (x : Outgoing) (e : OutEvent) : Effect := { log := [(x.enqueueSeq, e)] }

def apply (s : OutboundThreads) (e : Effect) : OutboundThreads :=
  { s with
    queue := { s.queue with ring := s.queue.ring.drop e.taken.length ++ e.pushed }
    counter := s.counter + e.given.length
    numbered := s.numbered ++ e.given
    log := s.log ++ e.log
    fates := s.fates ++ e.fates }

/-- The next step of an emit API and of `queue_outbound`, which opens a ring of the recorder if the
thread has none. -/
def producerStep (s : OutboundThreads) (opened : Option Bool) (t : ProducerThread) :
    Option (ProducerThread × Effect) :=
  match t.pc with
  | .idle => none
  | .emit pdu ctx ranFunctionId =>
    some ({ t with pc := .emitStamp ⟨s.counter + 1, pdu⟩ ctx ranFunctionId },
      { given := [s.counter + 1] })
  | .emitStamp x ctx ranFunctionId =>
    some ({ t with pc := .queueOutbound x },
      happens x (.stamp t.records .emitEnter ctx ranFunctionId))
  | .queueOutbound x =>
    if x.enqueueSeq = 0 then
      some (⟨.stamp ⟨s.counter + 1, x.pdu⟩, t.ring.or opened⟩, { given := [s.counter + 1] })
    else some (⟨.stamp x, t.ring.or opened⟩, {})
  | .stamp x => some ({ t with pc := .pushCheck x }, happens x (enqueueStamp t.records x))
  | .pushCheck x =>
    if s.queue.isShutdown then
      some ({ t with pc := .refused x .notInitialized },
        happens x (.pushed x.pdu .notInitialized))
    else some ({ t with pc := .pushRing x }, {})
  | .pushRing x =>
    if s.queue.ring.length < s.queue.capacity then
      some ({ t with pc := .idle }, { happens x (.pushed x.pdu .success) with pushed := [x] })
    else
      some ({ t with pc := .refused x .bufferTooSmall },
        happens x (.pushed x.pdu .bufferTooSmall))
  | .refused x rc =>
    some ({ t with pc := .idle },
      { happens x (dropStamp t.records (pushReason rc)) with fates := [.refused x rc] })

/-- `try_pop` of the ring: where the outbound thread goes with a PDU, and where without one. -/
def tryPop (s : OutboundThreads) (empty : Outbound) : Outbound × Effect :=
  match s.queue.ring with
  | [] => (empty, {})
  | x :: _ => (.dequeued x, { taken := [x] })

/-- The next step of `outbound_loop_ran` or `outbound_loop_dapp`. -/
def outboundStep (encode : Pdu → Option Bytes) (s : OutboundThreads) (deadline : Bool)
    (rc : ErrorCode) : Option (Outbound × Effect) :=
  match s.outbound with
  | .setup =>
    some (if rc = .success then .loop else if s.role = .ran then .setupFailed else .ended, {})
  | .setupFailed => some (if s.shouldStop then .ended else .setup, {})
  | .loop => some (if s.shouldStop then .ended else .popTry, {})
  | .popTry => some (s.tryPop .popCheck)
  | .popCheck =>
    some (if s.queue.isShutdown then .loop else if deadline then .popLast else .popTry, {})
  | .popLast => some (s.tryPop .loop)
  | .dequeued x => some (.encode x, happens x (dequeueStamp s.records x))
  | .encode x =>
    match encode x.pdu with
    | none => some (.notEncoded x, {})
    | some buffer => some (.encoded x buffer, {})
  | .notEncoded x =>
    some (.loop, { happens x (dropStamp s.records .encode) with fates := [.notEncoded x] })
  | .encoded x buffer => some (.send x buffer, happens x (encodeDoneStamp s.records buffer))
  | .send x buffer =>
    some (if rc = .success then .sent x buffer else .notSent x buffer rc,
      happens x (.handed x.pdu buffer rc))
  | .sent x buffer =>
    some (.loop, { happens x (sendDoneStamp s.records x) with fates := [.sent x buffer] })
  | .notSent x buffer rc =>
    some (.loop,
      { happens x (dropStamp s.records (sendReason rc)) with fates := [.notSent x buffer rc] })
  | .ended => none

/-- The next step of `stop()` or `start()`. A join waits for the thread. -/
def controlStep (s : OutboundThreads) (ok records : Bool) : Option OutboundThreads :=
  match s.control with
  | .running | .error => some { s with control := .setFlag }
  | .setFlag => some { s with shouldStop := true, control := .shutdownQueue }
  | .shutdownQueue => some { s with queue := s.queue.shutdown, control := .shutdownConnector }
  | .shutdownConnector => some { s with control := .join }
  | .join =>
    match s.outbound with
    | .ended => some { s with control := .stopped }
    | _ => none
  | .stopped =>
    if ok then
      some { s with
        shouldStop := false
        control := if s.startedBefore then .createConnector else .connect }
    else some { s with control := .setFlag }
  | .createConnector => some { s with control := if ok then .rearmClear else .error }
  | .rearmClear =>
    match s.queue.ring with
    | [] => some { s with control := .rearmOpen }
    | x :: _ => some (s.apply { taken := [x], fates := [.discarded x] })
  | .rearmOpen =>
    some { s with queue := { s.queue with isShutdown := false }, control := .connect }
  | .connect =>
    some { s with
      startedBefore := true
      control := if ok then .running else .error
      outbound := if ok then .setup else s.outbound
      records := if ok then records else s.records }

/-- The end of the counter of `latrec_seq_next`. -/
def counterEnd : ℕ := UInt64.size

def step (encode : Pdu → Option Bytes) (s : OutboundThreads) : Label → Option OutboundThreads
  | .call p pdu =>
    match s.producers[p]? with
    | some ⟨.idle, ring⟩ =>
      some { s with producers := s.producers.set p ⟨.queueOutbound ⟨0, pdu⟩, ring⟩ }
    | _ => none
  | .emit p pdu ctx ranFunctionId =>
    match s.producers[p]? with
    | some ⟨.idle, ring⟩ =>
      some { s with producers := s.producers.set p ⟨.emit pdu ctx ranFunctionId, ring⟩ }
    | _ => none
  | .producer p opened =>
    (s.producers[p]?.bind (s.producerStep opened)).bind fun r =>
      if s.counter + r.2.given.length < counterEnd then
        some { s.apply r.2 with producers := s.producers.set p r.1 }
      else none
  | .otherNumber =>
    if s.counter + 1 < counterEnd then some { s with counter := s.counter + 1 } else none
  | .outbound deadline rc =>
    (s.outboundStep encode deadline rc).map fun r => { s.apply r.2 with outbound := r.1 }
  | .control ok records => s.controlStep ok records

end OutboundThreads

end LibE3
