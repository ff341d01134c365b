import LibE3.DApp
import LibE3.Interface
import Mathlib.Logic.Function.Basic

/-!
# The agent

`E3Agent` keeps the handlers that were set and the interface that `init()` made, and answers each
call from them. The manager of a RAN and the state of a dApp are behind pointers that are null in
the other role, and reading through a null pointer ends the run. What a call finds in the
environment is given with it. What the threads of the interface do between the calls is one label
that leaves anything in the places they write.
-/

namespace LibE3.Agent

/-- The events that a handler can be set for, in the order in which `init()` forwards them. -/
inductive HandlerKind
  | dappReport | dappStatusChanged | setupResponse | subscriptionResponse | indication | xappControl
  | messageAck | disconnect
  deriving DecidableEq, Repr

def HandlerKind.all : List HandlerKind :=
  [.dappReport, .dappStatusChanged, .setupResponse, .subscriptionResponse, .indication,
    .xappControl, .messageAck, .disconnect]

/-- The pointers of an interface that its role leaves null. -/
inductive NullPointer
  | subscriptionManager | dappState
  deriving DecidableEq, Repr

/-- What a call returns. -/
inductive Result
  | nothing
  | code (rc : ErrorCode)
  | queued (rc : ErrorCode) (messageId : Option UInt32)
  | state (s : AgentState)
  | flag (b : Bool)
  | ids (ids : List UInt32)
  | number (n : ℕ)
  | id (id : Option UInt32)
  | config (c : E3Config)

/-- The handlers of some types, one for each kind of event; `none` is an empty `std::function`. -/
abbrev Handlers (H : HandlerKind → Type) := (k : HandlerKind) → Option (H k)

variable {H : HandlerKind → Type}

/-! ## The interface of an agent -/

/-- `E3Interface` with the state of its role and its handlers. -/
structure Interface (H : HandlerKind → Type) extends E3Interface where
  subscriptionManager : Option SubscriptionManager
  dappState : Option DAppSubscriptionState
  pendingSubscriptions : UnorderedMap UInt32 PendingSubscriptionOp
  nextMessageId : UInt32
  ranGone : Bool
  releaseSent : Bool
  handlers : Handlers H

namespace Interface

/-- The interface after its constructor. -/
def constructed (config : E3Config) : Interface H where
  toE3Interface := .constructed config
  subscriptionManager := none
  dappState := none
  pendingSubscriptions := ∅
  nextMessageId := 0
  ranGone := false
  releaseSent := false
  handlers := fun _ => none

/-- The part of `init()` that makes the state of the role. -/
def allocateRoleState (i : Interface H) : Interface H :=
  if i.config.role = .ran then { i with subscriptionManager := some .fresh }
  else { i with dappState := some .fresh }

def init (i : Interface H) (encoder created : Bool) : ErrorCode × Interface H :=
  if i.state ≠ .uninitialized then (.alreadyInitialized, i)
  else if !encoder then (.internalError, i)
  else if !i.config.textsFit then (.invalidParam, i)
  else
    let i := i.allocateRoleState
    let (rc, e) := i.toE3Interface.init encoder created
    (rc, { i with toE3Interface := e })

/-- What `start()` resets when a connector is there. -/
def resetSession (i : Interface H) : Interface H :=
  { i with
    dappState := i.dappState.map DAppSubscriptionState.clearSession
    pendingSubscriptions := if i.dappState.isSome then ∅ else i.pendingSubscriptions
    ranGone := false
    releaseSent := false }

def start (i : Interface H) (created : Bool) (connResult : ErrorCode) :
    ErrorCode × Interface H :=
  if i.state ≠ .initialized then (.stateError, i)
  else
    let renewed := (i.toE3Interface.renew created).1
    let (rc, e) := i.toE3Interface.start created connResult
    let i := { i with toE3Interface := e }
    (rc, if renewed = .success then i.resetSession else i)

/-- `stop()`, with the registry that it clears in the RAN role. -/
def stop (i : Interface H) (registry : SmRegistry) : Interface H × SmRegistry :=
  if i.state = .uninitialized ∨ i.state = .stopping then (i, registry)
  else
    ({ i with toE3Interface := i.toE3Interface.stop },
      if i.config.role = .ran then registry.clear else registry)

def isRunning (i : Interface H) : Bool := i.state = .running

/-- The eight setters of the interface. -/
def setHandler (i : Interface H) (k : HandlerKind) (h : Option (H k)) : Interface H :=
  { i with handlers := Function.update i.handlers k h }

/-- `subscription_manager()`: it reads through the pointer. -/
def manager (i : Interface H) : Except NullPointer SubscriptionManager :=
  match i.subscriptionManager with
  | none => .error .subscriptionManager
  | some m => .ok m

def dappId (i : Interface H) : Option UInt32 :=
  match i.dappState with
  | none => none
  | some s => s.assignedDappId

def activeSubscriptionIds (i : Interface H) (order : List UInt32) : List UInt32 :=
  match i.dappState with
  | none => []
  | some s => s.activeSubscriptions order

def subscribedRanFunctions (i : Interface H) (order : List UInt32) : List UInt32 :=
  match i.dappState with
  | none => []
  | some s => s.subscribedRanFunctions order

/-- `wait_for_setup`; what the two flags of the setup are when the wait ends is given. -/
def waitForSetup (i : Interface H) (complete succeeded : Bool) : ErrorCode :=
  if i.config.role ≠ .dapp then .invalidParam
  else if !complete then .timeout
  else if succeeded then .success
  else .connectionFailed

/-- A PDU with a new message identifier is put in the outbound queue. -/
def queueNumbered (i : Interface H) (stamp : UInt64) (choice : PduChoice) :
    ErrorCode × Interface H :=
  let (mid, nextMessageId) := generateMessageId i.nextMessageId
  let (rc, e) := i.toE3Interface.queueOutbound
    { type := choice.type, choice := choice, messageId := mid, timestamp := stamp }
  (rc, { i with toE3Interface := e, nextMessageId := nextMessageId })

/-- The part of the interface that a call of the dApp role works on. -/
def dapp (i : Interface H) (s : DAppSubscriptionState) : DApp :=
  ⟨s, i.pendingSubscriptions, i.nextMessageId, i.ranGone, i.releaseSent⟩

def withDapp (i : Interface H) (d : DApp) : Interface H :=
  { i with
    dappState := some d.state
    pendingSubscriptions := d.pendingSubscriptions
    nextMessageId := d.nextMessageId
    ranGone := d.ranGone
    releaseSent := d.releaseSent }

/-- A call of the dApp role that queues a PDU: what the queue returns for it goes back into the
call. -/
def queueDapp (i : Interface H) (f : DApp → ErrorCode → ErrorCode × DApp × Option Pdu) :
    ErrorCode × Option UInt32 × Interface H :=
  match i.dappState with
  | none => (.stateError, none, i)
  | some s =>
    match f (i.dapp s) .success with
    | (rc, d, none) => (rc, none, i.withDapp d)
    | (_, _, some pdu) =>
      let (queued, e) := i.toE3Interface.queueOutbound pdu
      let (rc, d, _) := f (i.dapp s) queued
      let i := { i with toE3Interface := e }
      (rc, if rc = .success then some pdu.messageId else none, i.withDapp d)

def queueSubscriptionRequest (i : Interface H) (stamp : UInt64) (ranFunctionId : UInt32)
    (telemetryIds controlIds : List UInt32) (subTime periodicity : Option UInt32) :
    ErrorCode × Option UInt32 × Interface H :=
  i.queueDapp fun d queued =>
    d.queueSubscriptionRequest stamp ranFunctionId telemetryIds controlIds subTime periodicity
      queued

def queueSubscriptionDelete (i : Interface H) (stamp : UInt64) (ranFunctionId : UInt32) :
    ErrorCode × Option UInt32 × Interface H :=
  i.queueDapp fun d queued => d.queueSubscriptionDelete stamp ranFunctionId queued

def queueDappControlAction (i : Interface H) (stamp : UInt64) (ranFunctionId controlId : UInt32)
    (actionData : Bytes) (sequenceId : UInt32) : ErrorCode × Option UInt32 × Interface H :=
  i.queueDapp fun d queued =>
    d.queueDappControlAction stamp ranFunctionId controlId actionData sequenceId queued

/-- `queue_dapp_report`: the sequence identifier is checked before the state. -/
def queueDappReport (i : Interface H) (stamp : UInt64) (ranFunctionId : UInt32)
    (reportData : Bytes) (sequenceId : UInt32) : ErrorCode × Option UInt32 × Interface H :=
  if sequenceId = 0 then (.invalidParam, none, i)
  else
    i.queueDapp fun d queued =>
      d.queueDappReport stamp ranFunctionId reportData sequenceId queued

def queueReleaseMessage (i : Interface H) (stamp : UInt64) :
    ErrorCode × Option UInt32 × Interface H :=
  i.queueDapp fun d queued => d.queueReleaseMessage stamp queued

end Interface

/-! ## The calls of the agent -/

/-- `E3Agent::Impl`. -/
structure Impl (H : HandlerKind → Type) where
  config : E3Config
  interface : Option (Interface H)
  handlers : Handlers H

namespace Impl

def constructed (config : E3Config) : Impl H := ⟨config, none, fun _ => none⟩

/-- One of the eight checks of `init()`: a handler that is not empty is forwarded. -/
def forwardOne (a : Impl H) (i : Interface H) (k : HandlerKind) : Interface H :=
  match a.handlers k with
  | none => i
  | some h => i.setHandler k (some h)

def forward (a : Impl H) (i : Interface H) (kinds : List HandlerKind) : Interface H :=
  kinds.foldl a.forwardOne i

def init (a : Impl H) (encoder created : Bool) : ErrorCode × Impl H :=
  match a.interface with
  | some _ => (.alreadyInitialized, a)
  | none =>
    let (result, i) := (Interface.constructed a.config).init encoder created
    if result ≠ .success then (result, a)
    else (.success, { a with interface := some (a.forward i HandlerKind.all) })

/-- The `init()` of a call that needs an interface: the error if there is none then. -/
def ensureInit (a : Impl H) (encoder created : Bool) : ErrorCode × Impl H :=
  if a.interface.isSome then (.success, a) else a.init encoder created

def start (a : Impl H) (encoder created : Bool) (connResult : ErrorCode) : ErrorCode × Impl H :=
  let (initResult, a) := a.ensureInit encoder created
  match a.interface with
  | none => (initResult, a)
  | some i =>
    let (result, i) := i.start created connResult
    (result, { a with interface := some i })

def stop (a : Impl H) (registry : SmRegistry) : Impl H × SmRegistry :=
  match a.interface with
  | none => (a, registry)
  | some i =>
    let (i, registry) := i.stop registry
    ({ a with interface := some i }, registry)

def state (a : Impl H) : AgentState :=
  match a.interface with
  | none => .uninitialized
  | some i => i.state

def isRunning (a : Impl H) : Bool :=
  match a.interface with
  | none => false
  | some i => i.isRunning

def registerSm (a : Impl H) (registry : SmRegistry) (sm : Option ServiceModel)
    (encoder created : Bool) : ErrorCode × Impl H × SmRegistry :=
  if sm.isNone then (.invalidParam, a, registry)
  else if a.config.role ≠ .ran then (.stateError, a, registry)
  else
    let (initResult, a) := a.ensureInit encoder created
    if initResult ≠ .success then (initResult, a, registry)
    else
      let (result, registry) := registry.registerSm sm
      (result, a, registry)

def getAvailableRanFunctions (a : Impl H) (registry : SmRegistry) : List UInt32 :=
  match a.interface with
  | none => []
  | some _ => registry.getAvailableRanFunctions

/-- A setter of the agent: the interface is given the handler only if it is not empty. -/
def setHandler (a : Impl H) (k : HandlerKind) (h : Option (H k)) : Impl H :=
  { a with
    handlers := Function.update a.handlers k h
    interface :=
      match h with
      | none => a.interface
      | some h => a.interface.map fun i => i.setHandler k (some h) }

def setDappReportHandler (a : Impl H) (h : Option (H .dappReport)) : Impl H :=
  a.setHandler .dappReport h

def setDappStatusChangedHandler (a : Impl H) (h : Option (H .dappStatusChanged)) : Impl H :=
  a.setHandler .dappStatusChanged h

def setSetupResponseHandler (a : Impl H) (h : Option (H .setupResponse)) : Impl H :=
  a.setHandler .setupResponse h

def setSubscriptionResponseHandler (a : Impl H) (h : Option (H .subscriptionResponse)) : Impl H :=
  a.setHandler .subscriptionResponse h

def setIndicationHandler (a : Impl H) (h : Option (H .indication)) : Impl H :=
  a.setHandler .indication h

def setXappControlHandler (a : Impl H) (h : Option (H .xappControl)) : Impl H :=
  a.setHandler .xappControl h

def setMessageAckHandler (a : Impl H) (h : Option (H .messageAck)) : Impl H :=
  a.setHandler .messageAck h

def setDisconnectHandler (a : Impl H) (h : Option (H .disconnect)) : Impl H :=
  a.setHandler .disconnect h

/-- The interface, if it is there and running. -/
def running (a : Impl H) : Option (Interface H) := a.interface.filter Interface.isRunning

/-- A PDU of the agent's own: it is numbered and queued if the interface is running. -/
def sendNumbered (a : Impl H) (stamp : UInt64) (choice : PduChoice) : ErrorCode × Impl H :=
  match a.running with
  | none => (.notInitialized, a)
  | some i =>
    let (rc, i) := i.queueNumbered stamp choice
    (rc, { a with interface := some i })

def sendIndication (a : Impl H) (stamp : UInt64) (dappId ranFunctionId : UInt32) (data : Bytes) :
    ErrorCode × Impl H :=
  if a.config.role ≠ .ran then (.stateError, a)
  else a.sendNumbered stamp (.indicationMessage ⟨dappId, ranFunctionId, data⟩)

def sendXappControl (a : Impl H) (stamp : UInt64) (dappId ranFunctionId : UInt32)
    (controlData : Bytes) (sequenceId : UInt32) : ErrorCode × Impl H :=
  if a.config.role ≠ .ran then (.stateError, a)
  else a.sendNumbered stamp (.xappControlAction ⟨dappId, ranFunctionId, controlData, sequenceId⟩)

/-- `send_message_ack`, which both roles have. -/
def sendMessageAck (a : Impl H) (stamp : UInt64) (requestId : UInt32)
    (responseCode : ResponseCode) : ErrorCode × Impl H :=
  a.sendNumbered stamp
    (.messageAck { requestId := requestId, responseCode := responseCode })

/-! ### Queries of the RAN -/

/-- A query of the manager behind the checks of the interface and the role. -/
def askManager (a : Impl H) (query : SubscriptionManager → List UInt32) :
    Except NullPointer (List UInt32) :=
  match a.interface with
  | none => .ok []
  | some i => if a.config.role ≠ .ran then .ok [] else i.manager.map query

def getRegisteredDapps (a : Impl H) (order : List UInt32) : Except NullPointer (List UInt32) :=
  a.askManager fun m => m.getRegisteredDapps order

def getDappSubscriptions (a : Impl H) (dappId : UInt32) (order : List UInt32) :
    Except NullPointer (List UInt32) :=
  a.askManager fun m => m.getDappSubscriptions dappId order

def getRanFunctionSubscribers (a : Impl H) (ranFunctionId : UInt32) (now : TimePoint)
    (order : List UInt32) : Except NullPointer (List UInt32) :=
  a.askManager fun m => m.getSubscribedDapps now ranFunctionId order

def getActiveRanFunctions (a : Impl H) (order : List UInt32) : Except NullPointer (List UInt32) :=
  a.askManager fun m => m.getActiveRanFunctions order

/-- The details of a subscription, behind the check of the interface alone: these three queries do
not look at the role. -/
def askDetails {ρ : Type} (a : Impl H) (dappId ranFunctionId : UInt32) (absent : ρ)
    (read : SubscriptionDetails → ρ) : Except NullPointer ρ :=
  match a.interface with
  | none => .ok absent
  | some i => i.manager.map fun m =>
    match m.getSubscriptionDetails dappId ranFunctionId with
    | none => absent
    | some details => read details

def getSubscriptionPeriodicity (a : Impl H) (dappId ranFunctionId : UInt32) :
    Except NullPointer UInt32 :=
  a.askDetails dappId ranFunctionId 0 SubscriptionDetails.periodicityUs

def getSubscriptionTelemetryIds (a : Impl H) (dappId ranFunctionId : UInt32) :
    Except NullPointer (List UInt32) :=
  a.askDetails dappId ranFunctionId [] SubscriptionDetails.telemetryIds

def getSubscriptionControlIds (a : Impl H) (dappId ranFunctionId : UInt32) :
    Except NullPointer (List UInt32) :=
  a.askDetails dappId ranFunctionId [] SubscriptionDetails.controlIds

/-- `dapp_count`, of the manager or of the one identifier of a dApp. -/
def dappCount (a : Impl H) : Except NullPointer ℕ :=
  match a.interface with
  | none => .ok 0
  | some i =>
    if a.config.role = .ran then i.manager.map SubscriptionManager.dappCount
    else .ok (if i.dappId.isSome then 1 else 0)

def subscriptionCount (a : Impl H) (order : List UInt32) : Except NullPointer ℕ :=
  match a.interface with
  | none => .ok 0
  | some i =>
    if a.config.role = .ran then i.manager.map fun m => m.subscriptionCount order
    else .ok (i.activeSubscriptionIds order).length

/-! ### Calls of the dApp -/

def dappId (a : Impl H) : Option UInt32 :=
  match a.interface with
  | none => none
  | some i => if a.config.role ≠ .dapp then none else i.dappId

def subscribedRanFunctions (a : Impl H) (order : List UInt32) : List UInt32 :=
  match a.interface with
  | none => []
  | some i => if a.config.role ≠ .dapp then [] else i.subscribedRanFunctions order

def activeSubscriptionIds (a : Impl H) (order : List UInt32) : List UInt32 :=
  match a.interface with
  | none => []
  | some i => if a.config.role ≠ .dapp then [] else i.activeSubscriptionIds order

def waitForSetup (a : Impl H) (complete succeeded : Bool) : ErrorCode :=
  if a.config.role ≠ .dapp then .invalidParam
  else
    match a.interface with
    | none => .notInitialized
    | some i => i.waitForSetup complete succeeded

/-- A call of the dApp role that queues a PDU, behind the checks of the role and the interface. -/
def queueAsDapp (a : Impl H) (f : Interface H → ErrorCode × Option UInt32 × Interface H) :
    ErrorCode × Option UInt32 × Impl H :=
  if a.config.role ≠ .dapp then (.stateError, none, a)
  else
    match a.running with
    | none => (.notInitialized, none, a)
    | some i =>
      let (rc, mid, i) := f i
      (rc, mid, { a with interface := some i })

def subscribe (a : Impl H) (stamp : UInt64) (ranFunctionId : UInt32)
    (telemetryIds controlIds : List UInt32) (subTime periodicity : Option UInt32) :
    ErrorCode × Option UInt32 × Impl H :=
  a.queueAsDapp fun i =>
    i.queueSubscriptionRequest stamp ranFunctionId telemetryIds controlIds subTime periodicity

def unsubscribe (a : Impl H) (stamp : UInt64) (ranFunctionId : UInt32) :
    ErrorCode × Option UInt32 × Impl H :=
  a.queueAsDapp fun i => i.queueSubscriptionDelete stamp ranFunctionId

def sendControl (a : Impl H) (stamp : UInt64) (ranFunctionId controlId : UInt32)
    (actionData : Bytes) (sequenceId : UInt32) : ErrorCode × Option UInt32 × Impl H :=
  a.queueAsDapp fun i =>
    i.queueDappControlAction stamp ranFunctionId controlId actionData sequenceId

def sendReport (a : Impl H) (stamp : UInt64) (ranFunctionId : UInt32) (reportData : Bytes)
    (sequenceId : UInt32) : ErrorCode × Option UInt32 × Impl H :=
  a.queueAsDapp fun i => i.queueDappReport stamp ranFunctionId reportData sequenceId

def release (a : Impl H) (stamp : UInt64) : ErrorCode × Option UInt32 × Impl H :=
  a.queueAsDapp fun i => i.queueReleaseMessage stamp

end Impl

/-! ## Sequences of calls -/

/-- What the threads of an interface may leave in it. -/
structure ThreadWrites where
  manager : SubscriptionManager
  dapp : DApp
  responseQueue : LockFreeQueue Pdu
  reportQueue : LockFreeQueue DAppReport

/-- The places that the threads write, if they are there. -/
def Interface.written (i : Interface H) (w : ThreadWrites) : Interface H :=
  { i with
    subscriptionManager := i.subscriptionManager.map fun _ => w.manager
    dappState := i.dappState.map fun _ => w.dapp.state
    pendingSubscriptions := w.dapp.pendingSubscriptions
    nextMessageId := w.dapp.nextMessageId
    ranGone := w.dapp.ranGone
    releaseSent := w.dapp.releaseSent
    responseQueue := i.responseQueue.map fun _ => w.responseQueue
    reportQueue := i.reportQueue.map fun _ => w.reportQueue }

/-- An agent and the registry of its process. -/
structure Process (H : HandlerKind → Type) where
  agent : Impl H
  registry : SmRegistry

/-- The public functions of `E3Agent`, with what the environment contributes, and the work of the
threads. -/
inductive Call (H : HandlerKind → Type)
  | init (encoder created : Bool)
  | start (encoder created : Bool) (connResult : ErrorCode)
  | stop
  | state
  | isRunning
  | config
  | registerSm (sm : Option ServiceModel) (encoder created : Bool)
  | getAvailableRanFunctions
  | setHandler (k : HandlerKind) (h : Option (H k))
  | sendIndication (stamp : UInt64) (dappId ranFunctionId : UInt32) (data : Bytes)
  | sendXappControl (stamp : UInt64) (dappId ranFunctionId : UInt32) (controlData : Bytes)
      (sequenceId : UInt32)
  | sendMessageAck (stamp : UInt64) (requestId : UInt32) (responseCode : ResponseCode)
  | getRegisteredDapps (order : List UInt32)
  | getDappSubscriptions (dappId : UInt32) (order : List UInt32)
  | getRanFunctionSubscribers (ranFunctionId : UInt32) (now : TimePoint) (order : List UInt32)
  | getActiveRanFunctions (order : List UInt32)
  | getSubscriptionPeriodicity (dappId ranFunctionId : UInt32)
  | getSubscriptionTelemetryIds (dappId ranFunctionId : UInt32)
  | getSubscriptionControlIds (dappId ranFunctionId : UInt32)
  | dappCount
  | subscriptionCount (order : List UInt32)
  | dappId
  | subscribedRanFunctions (order : List UInt32)
  | activeSubscriptionIds (order : List UInt32)
  | waitForSetup (complete succeeded : Bool)
  | subscribe (stamp : UInt64) (ranFunctionId : UInt32) (telemetryIds controlIds : List UInt32)
      (subTime periodicity : Option UInt32)
  | unsubscribe (stamp : UInt64) (ranFunctionId : UInt32)
  | sendControl (stamp : UInt64) (ranFunctionId controlId : UInt32) (actionData : Bytes)
      (sequenceId : UInt32)
  | sendReport (stamp : UInt64) (ranFunctionId : UInt32) (reportData : Bytes)
      (sequenceId : UInt32)
  | release (stamp : UInt64)
  | threads (writes : ThreadWrites) (registry : SmRegistry)

namespace Process

def constructed (config : E3Config) (registry : SmRegistry) : Process H :=
  ⟨.constructed config, registry⟩

/-- The result of a call that changed the agent. -/
def returns (p : Process H) (result : Result) (a : Impl H) : Result × Process H :=
  (result, { p with agent := a })

/-- A call of `E3Agent`: its result and what it leaves, or the null pointer it reads through. -/
def call (p : Process H) : Call H → Except NullPointer (Result × Process H)
  | .init encoder created =>
    let (rc, a) := p.agent.init encoder created
    .ok (p.returns (.code rc) a)
  | .start encoder created connResult =>
    let (rc, a) := p.agent.start encoder created connResult
    .ok (p.returns (.code rc) a)
  | .stop =>
    let (a, registry) := p.agent.stop p.registry
    .ok (.nothing, ⟨a, registry⟩)
  | .state => .ok (.state p.agent.state, p)
  | .isRunning => .ok (.flag p.agent.isRunning, p)
  | .config => .ok (.config p.agent.config, p)
  | .registerSm sm encoder created =>
    let (rc, a, registry) := p.agent.registerSm p.registry sm encoder created
    .ok (.code rc, ⟨a, registry⟩)
  | .getAvailableRanFunctions => .ok (.ids (p.agent.getAvailableRanFunctions p.registry), p)
  | .setHandler k h => .ok (p.returns .nothing (p.agent.setHandler k h))
  | .sendIndication stamp dappId ranFunctionId data =>
    let (rc, a) := p.agent.sendIndication stamp dappId ranFunctionId data
    .ok (p.returns (.code rc) a)
  | .sendXappControl stamp dappId ranFunctionId controlData sequenceId =>
    let (rc, a) := p.agent.sendXappControl stamp dappId ranFunctionId controlData sequenceId
    .ok (p.returns (.code rc) a)
  | .sendMessageAck stamp requestId responseCode =>
    let (rc, a) := p.agent.sendMessageAck stamp requestId responseCode
    .ok (p.returns (.code rc) a)
  | .getRegisteredDapps order => (p.agent.getRegisteredDapps order).map fun l => (.ids l, p)
  | .getDappSubscriptions dappId order =>
    (p.agent.getDappSubscriptions dappId order).map fun l => (.ids l, p)
  | .getRanFunctionSubscribers ranFunctionId now order =>
    (p.agent.getRanFunctionSubscribers ranFunctionId now order).map fun l => (.ids l, p)
  | .getActiveRanFunctions order =>
    (p.agent.getActiveRanFunctions order).map fun l => (.ids l, p)
  | .getSubscriptionPeriodicity dappId ranFunctionId =>
    (p.agent.getSubscriptionPeriodicity dappId ranFunctionId).map fun n => (.number n.toNat, p)
  | .getSubscriptionTelemetryIds dappId ranFunctionId =>
    (p.agent.getSubscriptionTelemetryIds dappId ranFunctionId).map fun l => (.ids l, p)
  | .getSubscriptionControlIds dappId ranFunctionId =>
    (p.agent.getSubscriptionControlIds dappId ranFunctionId).map fun l => (.ids l, p)
  | .dappCount => p.agent.dappCount.map fun n => (.number n, p)
  | .subscriptionCount order => (p.agent.subscriptionCount order).map fun n => (.number n, p)
  | .dappId => .ok (.id p.agent.dappId, p)
  | .subscribedRanFunctions order => .ok (.ids (p.agent.subscribedRanFunctions order), p)
  | .activeSubscriptionIds order => .ok (.ids (p.agent.activeSubscriptionIds order), p)
  | .waitForSetup complete succeeded =>
    .ok (.code (p.agent.waitForSetup complete succeeded), p)
  | .subscribe stamp ranFunctionId telemetryIds controlIds subTime periodicity =>
    let (rc, mid, a) :=
      p.agent.subscribe stamp ranFunctionId telemetryIds controlIds subTime periodicity
    .ok (p.returns (.queued rc mid) a)
  | .unsubscribe stamp ranFunctionId =>
    let (rc, _, a) := p.agent.unsubscribe stamp ranFunctionId
    .ok (p.returns (.code rc) a)
  | .sendControl stamp ranFunctionId controlId actionData sequenceId =>
    let (rc, mid, a) := p.agent.sendControl stamp ranFunctionId controlId actionData sequenceId
    .ok (p.returns (.queued rc mid) a)
  | .sendReport stamp ranFunctionId reportData sequenceId =>
    let (rc, mid, a) := p.agent.sendReport stamp ranFunctionId reportData sequenceId
    .ok (p.returns (.queued rc mid) a)
  | .release stamp =>
    let (rc, _, a) := p.agent.release stamp
    .ok (p.returns (.code rc) a)
  | .threads writes registry =>
    .ok (.nothing,
      { agent := { p.agent with interface := p.agent.interface.map fun i => i.written writes }
        registry := registry })

/-- One call, if it does not read through a null pointer. -/
def step (p : Process H) (c : Call H) : Option (Process H) := (p.call c).toOption.map Prod.snd

end Process

end LibE3.Agent
