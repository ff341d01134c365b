import LibE3.Ran

/-!
# The dApp side of the interface

`DAppSubscriptionState` and the functions of `E3Interface` in the dApp role: the calls of the
application, which queue a PDU, and the handlers of the PDUs of the RAN, which say whether the
application is handed the message. `queued` is what putting the PDU in the outbound queue returns.
-/

namespace LibE3

structure DAppSubscriptionState where
  assignedDappId : Option UInt32
  remoteRanFunctions : List RanFunctionDef
  ranFunctionToSubscriptionId : UnorderedMap UInt32 UInt32
  subscriptionIdToRanFunction : UnorderedMap UInt32 UInt32
  ranFunctionExpiry : UnorderedMap UInt32 TimePoint

namespace DAppSubscriptionState

def fresh : DAppSubscriptionState := ⟨none, [], ∅, ∅, ∅⟩

def recordSetupResponse (s : DAppSubscriptionState) (dappId : UInt32)
    (functions : List RanFunctionDef) : DAppSubscriptionState :=
  { s with assignedDappId := some dappId, remoteRanFunctions := functions }

def clearSession (_ : DAppSubscriptionState) : DAppSubscriptionState := ⟨none, [], ∅, ∅, ∅⟩

def recordSubscription (s : DAppSubscriptionState) (ranFunctionId subscriptionId : UInt32)
    (expiresAt : Option TimePoint) : DAppSubscriptionState :=
  { s with
    ranFunctionToSubscriptionId := s.ranFunctionToSubscriptionId.insert ranFunctionId subscriptionId
    subscriptionIdToRanFunction := s.subscriptionIdToRanFunction.insert subscriptionId ranFunctionId
    ranFunctionExpiry :=
      match expiresAt with
      | some t => s.ranFunctionExpiry.insert ranFunctionId t
      | none => s.ranFunctionExpiry.erase ranFunctionId }

/-- One turn of the loop of `expire_subscriptions`, at the entry of a RAN function. -/
def expireStep (now : TimePoint) (s : DAppSubscriptionState) (rfId : UInt32) :
    DAppSubscriptionState :=
  match s.ranFunctionExpiry.lookup rfId with
  | none => s
  | some t =>
    if now < t then s
    else
      let s :=
        match s.ranFunctionToSubscriptionId.lookup rfId with
        | some subId =>
          { s with
            subscriptionIdToRanFunction := s.subscriptionIdToRanFunction.erase subId
            ranFunctionToSubscriptionId := s.ranFunctionToSubscriptionId.erase rfId }
        | none => s
      { s with ranFunctionExpiry := s.ranFunctionExpiry.erase rfId }

/-- `expire_subscriptions`; `order` is how the loop visits the deadlines. -/
def expireSubscriptions (s : DAppSubscriptionState) (now : TimePoint) (order : List UInt32) :
    DAppSubscriptionState :=
  order.foldl (expireStep now) s

def removeSubscriptionByRf (s : DAppSubscriptionState) (ranFunctionId : UInt32) :
    DAppSubscriptionState :=
  match s.ranFunctionToSubscriptionId.lookup ranFunctionId with
  | none => s
  | some subId =>
    { s with
      ranFunctionToSubscriptionId := s.ranFunctionToSubscriptionId.erase ranFunctionId
      subscriptionIdToRanFunction := s.subscriptionIdToRanFunction.erase subId
      ranFunctionExpiry := s.ranFunctionExpiry.erase ranFunctionId }

def removeSubscriptionById (s : DAppSubscriptionState) (subscriptionId : UInt32) :
    DAppSubscriptionState :=
  match s.subscriptionIdToRanFunction.lookup subscriptionId with
  | none => s
  | some rfId =>
    { s with
      subscriptionIdToRanFunction := s.subscriptionIdToRanFunction.erase subscriptionId
      ranFunctionToSubscriptionId := s.ranFunctionToSubscriptionId.erase rfId
      ranFunctionExpiry := s.ranFunctionExpiry.erase rfId }

/-- `active_subscriptions`; `order` is how the loop visits the subscription identifiers. -/
def activeSubscriptions (_ : DAppSubscriptionState) (order : List UInt32) : List UInt32 := order

/-- `subscribed_ran_functions`; `order` is how the loop visits the RAN functions. -/
def subscribedRanFunctions (_ : DAppSubscriptionState) (order : List UInt32) : List UInt32 := order

def subscriptionIdFor (s : DAppSubscriptionState) (ranFunctionId : UInt32) : Option UInt32 :=
  s.ranFunctionToSubscriptionId.lookup ranFunctionId

/-- The calls that change the state. -/
inductive Call
  | recordSetupResponse (dappId : UInt32) (functions : List RanFunctionDef)
  | recordSubscription (ranFunctionId subscriptionId : UInt32) (expiresAt : Option TimePoint)
  | removeSubscriptionByRf (ranFunctionId : UInt32)
  | removeSubscriptionById (subscriptionId : UInt32)
  | expireSubscriptions (now : TimePoint) (order : List UInt32)
  | clearSession

/-- One call. Expiry visits each deadline once, in some order. -/
def step (s : DAppSubscriptionState) : Call → Option DAppSubscriptionState
  | .recordSetupResponse dappId functions => some (s.recordSetupResponse dappId functions)
  | .recordSubscription ranFunctionId subscriptionId expiresAt =>
    some (s.recordSubscription ranFunctionId subscriptionId expiresAt)
  | .removeSubscriptionByRf ranFunctionId => some (s.removeSubscriptionByRf ranFunctionId)
  | .removeSubscriptionById subscriptionId => some (s.removeSubscriptionById subscriptionId)
  | .expireSubscriptions now order =>
    if Visits order s.ranFunctionExpiry.keys then some (s.expireSubscriptions now order) else none
  | .clearSession => some s.clearSession

end DAppSubscriptionState

/-- What is remembered of a request until its response. -/
structure PendingSubscriptionOp where
  ranFunctionId : UInt32
  isDelete : Bool
  subscriptionTimeS : Option UInt32
  deriving DecidableEq, Repr

/-- An interface in the dApp role. -/
structure DApp where
  state : DAppSubscriptionState
  pendingSubscriptions : UnorderedMap UInt32 PendingSubscriptionOp
  nextMessageId : UInt32
  ranGone : Bool
  releaseSent : Bool

namespace DApp

def fresh : DApp := ⟨.fresh, ∅, 0, false, false⟩

/-- What `start()` resets. -/
def start (a : DApp) : DApp :=
  { a with
    state := a.state.clearSession
    pendingSubscriptions := ∅
    ranGone := false
    releaseSent := false }

/-! ## Calls of the application -/

/-- `queue_subscription_request`: the result, the dApp and the PDU it puts in the queue. -/
def queueSubscriptionRequest (a : DApp) (stamp : UInt64) (ranFunctionId : UInt32)
    (telemetryIds controlIds : List UInt32) (subTime periodicity : Option UInt32)
    (queued : ErrorCode) : ErrorCode × DApp × Option Pdu :=
  match a.state.assignedDappId with
  | none => (.notInitialized, a, none)
  | some id =>
    let (mid, nextMessageId) := generateMessageId a.nextMessageId
    let a := { a with nextMessageId := nextMessageId }
    let remembered := a.pendingSubscriptions.insert mid ⟨ranFunctionId, false, subTime⟩
    if queued ≠ .success then
      (queued, { a with pendingSubscriptions := remembered.erase mid }, none)
    else
      (queued, { a with pendingSubscriptions := remembered },
        some
          { type := .subscriptionRequest
            choice := .subscriptionRequest
              ⟨id, ranFunctionId, telemetryIds, controlIds, subTime, periodicity⟩
            messageId := mid
            timestamp := stamp })

/-- `queue_subscription_delete`: it names the subscription by the identifier the dApp recorded. -/
def queueSubscriptionDelete (a : DApp) (stamp : UInt64) (ranFunctionId : UInt32)
    (queued : ErrorCode) : ErrorCode × DApp × Option Pdu :=
  match a.state.assignedDappId with
  | none => (.notInitialized, a, none)
  | some id =>
    match a.state.subscriptionIdFor ranFunctionId with
    | none => (.subscriptionNotFound, a, none)
    | some subId =>
      let (mid, nextMessageId) := generateMessageId a.nextMessageId
      let a := { a with nextMessageId := nextMessageId }
      let remembered := a.pendingSubscriptions.insert mid ⟨ranFunctionId, true, none⟩
      if queued ≠ .success then
        (queued, { a with pendingSubscriptions := remembered.erase mid }, none)
      else
        (queued, { a with pendingSubscriptions := remembered },
          some
            { type := .subscriptionDelete
              choice := .subscriptionDelete ⟨id, subId⟩
              messageId := mid
              timestamp := stamp })

/-- `queue_release_message`. The dApp keeps the identifier it was assigned. -/
def queueReleaseMessage (a : DApp) (stamp : UInt64) (queued : ErrorCode) :
    ErrorCode × DApp × Option Pdu :=
  match a.state.assignedDappId with
  | none => (.notInitialized, a, none)
  | some id =>
    let (mid, nextMessageId) := generateMessageId a.nextMessageId
    let a := { a with nextMessageId := nextMessageId }
    if queued ≠ .success then (queued, { a with releaseSent := false }, none)
    else
      (queued, { a with releaseSent := true },
        some
          { type := .releaseMessage
            choice := .releaseMessage ⟨id⟩
            messageId := mid
            timestamp := stamp })

/-- A PDU that the dApp numbers and queues, and does not remember. -/
def queueNumbered (a : DApp) (stamp : UInt64) (queued : ErrorCode) (type : PduType)
    (choice : PduChoice) : ErrorCode × DApp × Option Pdu :=
  let (mid, nextMessageId) := generateMessageId a.nextMessageId
  (queued, { a with nextMessageId := nextMessageId },
    if queued ≠ .success then none
    else some { type := type, choice := choice, messageId := mid, timestamp := stamp })

def queueDappControlAction (a : DApp) (stamp : UInt64) (ranFunctionId controlId : UInt32)
    (actionData : Bytes) (sequenceId : UInt32) (queued : ErrorCode) :
    ErrorCode × DApp × Option Pdu :=
  match a.state.assignedDappId with
  | none => (.notInitialized, a, none)
  | some id =>
    a.queueNumbered stamp queued .dappControlAction
      (.dappControlAction ⟨id, ranFunctionId, controlId, actionData, sequenceId⟩)

/-- `queue_dapp_report`. The sequence identifier of a report is mandatory and not 0. -/
def queueDappReport (a : DApp) (stamp : UInt64) (ranFunctionId : UInt32) (reportData : Bytes)
    (sequenceId : UInt32) (queued : ErrorCode) : ErrorCode × DApp × Option Pdu :=
  if sequenceId = 0 then (.invalidParam, a, none)
  else
    match a.state.assignedDappId with
    | none => (.notInitialized, a, none)
    | some id =>
      a.queueNumbered stamp queued .dappReport
        (.dappReport ⟨id, ranFunctionId, reportData, sequenceId⟩)

/-! ## Handlers -/

/-- `on_ran_gone`. -/
def onRanGone (a : DApp) : DApp :=
  if a.ranGone then a
  else { a with ranGone := true, state := a.state.clearSession, pendingSubscriptions := ∅ }

def handleSetupResponse (a : DApp) (resp : SetupResponse) : DApp :=
  if resp.responseCode = .positive then
    { a with
      state := a.state.recordSetupResponse (resp.dappIdentifier.getD 0) resp.ranFunctionList }
  else a

/-- The message is for this dApp: it carries the identifier the RAN assigned to it. -/
def isForUs (a : DApp) (dappIdentifier : UInt32) : Bool :=
  a.state.assignedDappId = some dappIdentifier

/-- What a response does to the recorded subscriptions, attributed to the request that caused it.
The deadline of a granted subscription counts from the response. -/
def applyResponse (s : DAppSubscriptionState) (now : TimePoint)
    (pending : Option PendingSubscriptionOp) (resp : SubscriptionResponse) :
    DAppSubscriptionState :=
  match pending with
  | none => s
  | some op =>
    if resp.responseCode ≠ .positive then s
    else if op.isDelete then s.removeSubscriptionByRf op.ranFunctionId
    else
      match resp.subscriptionId with
      | none => s
      | some subscriptionId =>
        let time := op.subscriptionTimeS.getD 0
        let expiresAt := if 0 < time then some (now + seconds time) else none
        s.recordSubscription op.ranFunctionId subscriptionId expiresAt

/-- `handle_subscription_response`: the dApp after it, and whether the application is handed the
response. -/
def handleSubscriptionResponse (a : DApp) (now : TimePoint) (resp : SubscriptionResponse) :
    DApp × Bool :=
  if !a.isForUs resp.dappIdentifier then (a, false)
  else
    ({ a with
        pendingSubscriptions := a.pendingSubscriptions.erase resp.requestId
        state := applyResponse a.state now (a.pendingSubscriptions.lookup resp.requestId) resp },
      true)

def handleReleaseFromRan (a : DApp) (release : ReleaseMessage) : DApp :=
  if a.isForUs release.dappIdentifier then a.onRanGone else a

/-- One turn of `inbound_loop_dapp` with a PDU that decoded: the dApp after it, and whether the
application is handed the message. An acknowledgment is not filtered. -/
def receive (a : DApp) (now : TimePoint) (pdu : Pdu) : DApp × Bool :=
  match pdu.type, pdu.choice with
  | .subscriptionResponse, .subscriptionResponse resp => a.handleSubscriptionResponse now resp
  | .indicationMessage, .indicationMessage msg => (a, a.isForUs msg.dappIdentifier)
  | .xappControlAction, .xappControlAction action => (a, a.isForUs action.dappIdentifier)
  | .messageAck, .messageAck _ => (a, true)
  | .releaseMessage, .releaseMessage release => (a.handleReleaseFromRan release, false)
  | _, _ => (a, false)

end DApp

end LibE3
