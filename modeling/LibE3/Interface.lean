import LibE3.LockFreeQueue
import LibE3.Ran
import LibE3.Lib.Runs

/-!
# The lifecycle of the interface

`init()`, `start()` and `stop()` of `E3Interface` in either role, on what a running interface needs
to send: its two queues and its connector. What creating the encoder, creating the connector and
setting up the connection return is given with the call. The threads that use the queues act
between the calls.
-/

namespace LibE3

/-- Which of `shutdown()` and `dispose()` a connector has seen. -/
structure E3Connector where
  isShutdown : Bool := false
  isDisposed : Bool := false
  deriving DecidableEq, Repr

structure E3Interface where
  config : E3Config
  state : AgentState
  startedBefore : Bool
  responseQueue : Option (LockFreeQueue Pdu)
  reportQueue : Option (LockFreeQueue DAppReport)
  connector : Option E3Connector

namespace E3Interface

/-- The interface after its constructor. -/
def constructed (config : E3Config) : E3Interface where
  config := config
  state := .uninitialized
  startedBefore := false
  responseQueue := none
  reportQueue := none
  connector := none

/-- `create_connector_from_config`, which replaces the connector there was. -/
def createConnectorFromConfig (e : E3Interface) (created : Bool) : ErrorCode × E3Interface :=
  if created then (.success, { e with connector := some {} })
  else (.internalError, { e with connector := none })

def init (e : E3Interface) (encoder created : Bool) : ErrorCode × E3Interface :=
  if e.state ≠ .uninitialized then (.alreadyInitialized, e)
  else if !encoder then (.internalError, e)
  else if !e.config.textsFit then (.invalidParam, e)
  else
    let e := { e with
      responseQueue := some (.make 128)
      reportQueue := some (.make 1024) }
    let (connRc, e) := e.createConnectorFromConfig created
    if connRc ≠ .success then (connRc, e) else (.success, { e with state := .initialized })

/-- What `start()` does first when the interface has been started before. -/
def renew (e : E3Interface) (created : Bool) : ErrorCode × E3Interface :=
  if e.startedBefore then
    let (connRc, e) := e.createConnectorFromConfig created
    if connRc ≠ .success then (connRc, { e with state := .error })
    else
      (.success, { e with
        responseQueue := e.responseQueue.map LockFreeQueue.rearm
        reportQueue := e.reportQueue.map LockFreeQueue.rearm })
  else (.success, e)

def start (e : E3Interface) (created : Bool) (connResult : ErrorCode) :
    ErrorCode × E3Interface :=
  if e.state ≠ .initialized then (.stateError, e)
  else
    let (connRc, e) := e.renew created
    if connRc ≠ .success then (connRc, e)
    else
      let e := { e with startedBefore := true }
      if connResult ≠ .success then (connResult, { e with state := .error })
      else (.success, { e with state := .running })

def stop (e : E3Interface) : E3Interface :=
  if e.state = .uninitialized ∨ e.state = .stopping then e
  else
    { e with
      responseQueue := e.responseQueue.map LockFreeQueue.shutdown
      reportQueue := e.reportQueue.map LockFreeQueue.shutdown
      connector := e.connector.map fun _ => ⟨true, true⟩
      state := .initialized }

/-- `queue_outbound`; the latency records it writes are left out. -/
def queueOutbound (e : E3Interface) (pdu : Pdu) : ErrorCode × E3Interface :=
  match e.responseQueue with
  | none => (.notInitialized, e)
  | some queue =>
    let (rc, queue) := queue.push pdu
    (rc, { e with responseQueue := some queue })

inductive Label
  | init (encoder created : Bool)
  | start (created : Bool) (connResult : ErrorCode)
  | stop
  | queueOutbound (pdu : Pdu)
  /-- The outbound thread takes a PDU. -/
  | sendOutbound
  /-- The inbound thread hands a report to the report worker. -/
  | queueReport (report : DAppReport)
  /-- The report worker takes a report. -/
  | takeReport

def step (e : E3Interface) : Label → Option E3Interface
  | .init encoder created => some (e.init encoder created).2
  | .start created connResult => some (e.start created connResult).2
  | .stop => some e.stop
  | .queueOutbound pdu => some (e.queueOutbound pdu).2
  | .sendOutbound =>
    some { e with responseQueue := e.responseQueue.map fun queue => queue.tryPop.2 }
  | .queueReport report =>
    some { e with reportQueue := e.reportQueue.map fun queue => (queue.push report).2 }
  | .takeReport => some { e with reportQueue := e.reportQueue.map fun queue => queue.tryPop.2 }

end E3Interface

end LibE3
