import LibE3.Lifecycle

/-!
# The RAN side of the interface

`E3Interface` in the RAN role, without its threads and sockets: its state, its lifecycle, and the
handlers of the messages of the dApps. A handler returns the state it leaves and the PDU that it
passes to `queue_outbound`; `RanInterface` has the queue. The calls it makes on the manager run to
completion, so their lifecycle callbacks are applied to the registry at once. `now` is the steady
clock, `stamp` the time a PDU is created.
-/

namespace LibE3

/-- The part of `E3Config` that the modelled functions read. -/
structure E3Config where
  role : E3Role := .ran
  ranIdentifier : Bytes := []
  dappName : Bytes := text "libe3-dapp"
  dappVersion : Bytes := text "0.0.0"
  vendor : Bytes := []
  e3apVersion : Bytes := text "1.0.0"
  encoding : EncodingFormat := .asn1

def maxNameBytes : ℕ := 64
def maxVersionBytes : ℕ := 32

def nameOrUnknown (name : Bytes) : Bytes := if name = [] then text "unknown" else name

def wireTextFits (value : Bytes) (maxBytes : ℕ) (mayBeEmpty : Bool) : Bool :=
  !(value.length > maxBytes || (value.isEmpty && !mayBeEmpty))

/-- The check that `init()` makes of the texts of the configuration. -/
def E3Config.textsFit (c : E3Config) : Bool :=
  match c.encoding with
  | .asn1 =>
    wireTextFits c.e3apVersion maxVersionBytes false &&
      match c.role with
      | .ran => wireTextFits c.ranIdentifier maxNameBytes true
      | .dapp =>
        wireTextFits c.dappName maxNameBytes false &&
          wireTextFits c.dappVersion maxVersionBytes false &&
          wireTextFits c.vendor maxNameBytes true
  | _ => true

/-- `generate_message_id` on the counter: the identifier and the counter after it. -/
def generateMessageId (nextMessageId : UInt32) : UInt32 × UInt32 :=
  (nextMessageId % 0xFFFFFFFF + 1, nextMessageId + 1)

/-- `sanitize_request_message_id`: an identifier of 0 cannot be echoed. -/
def sanitizeRequestMessageId (nextMessageId requestId : UInt32) : UInt32 × UInt32 :=
  if requestId ≠ 0 then (requestId, nextMessageId) else generateMessageId nextMessageId

theorem generateMessageId_ne_zero (n : UInt32) : (generateMessageId n).1 ≠ 0 := by
  intro h
  have hn := congrArg UInt32.toNat h
  have hmod := Nat.mod_lt n.toNat (show 0 < 4294967295 by decide)
  simp only [generateMessageId, UInt32.toNat_add, UInt32.toNat_mod] at hn
  change (n.toNat % 4294967295 + 1) % 2 ^ 32 = 0 at hn
  omega

def errorCodeToString : ErrorCode → String
  | .success => "Success"
  | .invalidParam => "Invalid parameter"
  | .notInitialized => "Not initialized"
  | .alreadyInitialized => "Already initialized"
  | .notConnected => "Not connected"
  | .connectionFailed => "Connection failed"
  | .timeout => "Timeout"
  | .encodeFailed => "Encode failed"
  | .decodeFailed => "Decode failed"
  | .smNotFound => "Service Model not found"
  | .smAlreadyRegistered => "Service Model already registered"
  | .bufferTooSmall => "Buffer too small"
  | .internalError => "Internal error"
  | .subscriptionExists => "Subscription already exists"
  | .subscriptionNotFound => "Subscription not found"
  | .dappNotRegistered => "dApp not registered"
  | .transportError => "Transport error"
  | .stateError => "State error"
  | .smStartFailed => "Service Model start failed"
  | .notFound => "Not found"
  | .cancelled => "Operation cancelled"
  | _ => "Unknown error"

structure Refusal where
  cause : Cause
  detail : Bytes
  deriving DecidableEq, Repr

/-- `refusal_for_subscription`. Looking the RAN function up can make a factory's Service Model. -/
def refusalForSubscription (registry : SmRegistry) (request : SubscriptionRequest) :
    Option Refusal × SmRegistry :=
  let (sm, registry) := registry.getByRanFunction request.ranFunctionIdentifier
  let refusal :=
    match sm with
    | none => some ⟨.unsupportedRanFunction,
        text ("RAN function " ++ toString request.ranFunctionIdentifier ++ " is not served")⟩
    | some sm =>
      if request.telemetryIdentifierList = [] ∧ request.controlIdentifierList = [] then
        some ⟨.invalidRequest,
          text "a subscription names at least one telemetry or control identifier"⟩
      else
        match request.telemetryIdentifierList.find? fun id => !sm.telemetryIds.contains id with
        | some id => some ⟨.unsupportedIdentifier,
            text ("unknown telemetry identifier " ++ toString id)⟩
        | none =>
          match request.controlIdentifierList.find? fun id => !sm.controlIds.contains id with
          | some id => some ⟨.unsupportedIdentifier,
              text ("unknown control identifier " ++ toString id)⟩
          | none => none
  (refusal, registry)

/-- An interface in the RAN role. The registry is a singleton of the process, the manager is made
by `init()`, and both outlive a `stop()`. -/
structure Ran where
  config : E3Config
  state : AgentState
  startedBefore : Bool
  mgr : SubscriptionManager
  registry : SmRegistry
  nextMessageId : UInt32

namespace Ran

/-- The interface after `init()`, in a process that has registered no Service Model yet. -/
def initialized (config : E3Config) : Ran where
  config := config
  state := .initialized
  startedBefore := false
  mgr := .fresh
  registry := .empty
  nextMessageId := 0

/-- A call on the manager run to completion, with its lifecycle callbacks. -/
def locked {ρ : Type} (r : Ran) (l : Locked ρ) : Ran :=
  { r with
    mgr := l.mgr
    registry := l.callbacks.foldl (fun registry c => registry.onSmLifecycleChange c) r.registry }

/-! ## Lifecycle -/

/-- `start()`. `created` and `connected` are what creating the connector and binding it return. -/
def start (r : Ran) (created connected : ErrorCode) : ErrorCode × Ran :=
  if r.state ≠ .initialized then (.stateError, r)
  else if r.startedBefore ∧ created ≠ .success then (created, { r with state := .error })
  else if connected ≠ .success then
    (connected, { r with state := .error, startedBefore := true })
  else (.success, { r with state := .running, startedBefore := true })

/-- `stop()` clears the Service Models; the subscriptions stay. -/
def stop (r : Ran) : Ran :=
  if r.state = .uninitialized ∨ r.state = .stopping then r
  else { r with state := .initialized, registry := r.registry.clear }

def registerSm (r : Ran) (sm : Option ServiceModel) : ErrorCode × Ran :=
  let (result, registry) := r.registry.registerSm sm
  (result, { r with registry := registry })

/-! ## Setup -/

/-- One turn of the loop of `handle_setup_request` over the available RAN functions. -/
def advertise (st : List RanFunctionDef × SmRegistry) (id : UInt32) :
    List RanFunctionDef × SmRegistry :=
  let (sm, registry) := st.2.getByRanFunction id
  let func : RanFunctionDef :=
    match sm with
    | some sm => ⟨id, sm.telemetryIds, sm.controlIds, sm.ranFunctionData⟩
    | none => { ranFunctionIdentifier := id }
  if func.ranFunctionData = [] ∨ func.ranFunctionData.length > maxProtocolDataSize then
    (st.1, registry)
  else if func.telemetryIdentifierList.length > maxIdentifierListSize
      ∨ func.controlIdentifierList.length > maxIdentifierListSize then (st.1, registry)
  else if st.1.length ≥ maxRanFunctions then (st.1, registry)
  else (st.1 ++ [func], registry)

/-- The list of RAN functions a setup response carries. -/
def ranFunctionList (registry : SmRegistry) : List RanFunctionDef × SmRegistry :=
  registry.getAvailableRanFunctions.foldl advertise ([], registry)

/-- The PDU that `E3Encoder::encode_setup_response` builds. -/
def setupResponsePdu (stamp : UInt64) (messageId requestId : UInt32) (responseCode : ResponseCode)
    (e3apProtocolVersion : Option Bytes) (dappIdentifier : Option UInt32) (ranIdentifier : Bytes)
    (ranFunctionList : Option (List RanFunctionDef)) (cause : Option Cause)
    (detail : Option Bytes) : Pdu where
  type := .setupResponse
  choice := .setupResponse
    { requestId := requestId
      responseCode := responseCode
      e3apProtocolVersion := e3apProtocolVersion
      dappIdentifier := dappIdentifier
      ranIdentifier := ranIdentifier
      ranFunctionList := ranFunctionList.getD []
      cause := cause
      detail := detail }
  messageId := messageId
  timestamp := stamp

/-- `handle_setup_request` up to the encoding of the response. Of the request only the message
identifier matters: its texts are logged. -/
def answerSetup (r : Ran) (stamp : UInt64) (requestMessageId : UInt32) : Ran × Pdu :=
  let (requestMessageId, nextMessageId) :=
    sanitizeRequestMessageId r.nextMessageId requestMessageId
  let registered := r.mgr.registerDapp
  let (result, assignedDappId) := registered.ret
  let r := r.locked registered
  let (ranFunctionList, registry) := ranFunctionList r.registry
  let (messageId, nextMessageId) := generateMessageId nextMessageId
  let pdu :=
    if result = .success then
      setupResponsePdu stamp messageId requestMessageId .positive (some r.config.e3apVersion)
        (some assignedDappId) (nameOrUnknown r.config.ranIdentifier) (some ranFunctionList)
        none none
    else
      setupResponsePdu stamp messageId requestMessageId .negative (some r.config.e3apVersion)
        none (nameOrUnknown r.config.ranIdentifier) (some ranFunctionList)
        (some .resourceExhausted) (some (text "no free dApp identifier"))
  ({ r with registry := registry, nextMessageId := nextMessageId }, pdu)

/-- The response of `send_negative_setup_reply`, before it is encoded. -/
def negativeSetupReply (r : Ran) (stamp : UInt64) (requestId : UInt32) : Ran × Pdu :=
  let (messageId, nextMessageId) := generateMessageId r.nextMessageId
  let (requestId, nextMessageId) := sanitizeRequestMessageId nextMessageId requestId
  ({ r with nextMessageId := nextMessageId },
    setupResponsePdu stamp messageId requestId .negative (some r.config.e3apVersion) none
      (nameOrUnknown r.config.ranIdentifier) none (some .protocolError)
      (some (text "not a decodable setup request")))

/-! ## Subscriptions -/

/-- How `handle_subscription_request` reads what `add_subscription` returns. -/
def subscriptionOutcome (ret : ErrorCode × UInt32) : UInt32 ⊕ Refusal :=
  let (result, subId) := ret
  if result = .success ∨ result = .subscriptionExists then .inl subId
  else if result = .internalError then
    .inr ⟨.resourceExhausted, text "no free subscription identifier"⟩
  else .inr ⟨.unspecified, text (errorCodeToString result)⟩

/-- The outcome of the first half of `handle_subscription_request`: the subscription identifier
of a positive answer, or why it is refused. -/
def decideSubscription (r : Ran) (now : TimePoint) (request : SubscriptionRequest) :
    Ran × (UInt32 ⊕ Refusal) :=
  if !r.mgr.isDappRegistered request.dappIdentifier then
    (r, .inr ⟨.setupRequired, text "complete setup before subscribing"⟩)
  else
    let (refusal, registry) := refusalForSubscription r.registry request
    let r := { r with registry := registry }
    match refusal with
    | some refusal => (r, .inr refusal)
    | none =>
      let added := r.mgr.addSubscription now request.dappIdentifier request.ranFunctionIdentifier
        request.telemetryIdentifierList request.controlIdentifierList
        (request.periodicity.getD 0) (request.subscriptionTime.getD 0)
      (r.locked added, subscriptionOutcome added.ret)

def handleSubscriptionRequest (r : Ran) (now : TimePoint) (stamp : UInt64)
    (request : SubscriptionRequest) (requestMessageId : UInt32) : Ran × Pdu :=
  let (r, outcome) := r.decideSubscription now request
  let (messageId, nextMessageId) := generateMessageId r.nextMessageId
  let resp : SubscriptionResponse :=
    match outcome with
    | .inl subscriptionId =>
      { requestId := requestMessageId
        dappIdentifier := request.dappIdentifier
        responseCode := .positive
        subscriptionId := some subscriptionId
        telemetryIdentifierList := some request.telemetryIdentifierList
        controlIdentifierList := some request.controlIdentifierList
        ranFunctionIdentifier := some request.ranFunctionIdentifier
        periodicity := request.periodicity }
    | .inr refusal =>
      { requestId := requestMessageId
        dappIdentifier := request.dappIdentifier
        responseCode := .negative
        cause := some refusal.cause
        detail := some refusal.detail }
  ({ r with nextMessageId := nextMessageId },
    { type := .subscriptionResponse
      choice := .subscriptionResponse resp
      messageId := messageId
      timestamp := stamp })

def handleSubscriptionDelete (r : Ran) (stamp : UInt64) (del : SubscriptionDelete)
    (requestMessageId : UInt32) : Ran × Pdu :=
  let removed := r.mgr.removeSubscriptionById del.dappIdentifier del.subscriptionId
  let r := r.locked removed
  let (messageId, nextMessageId) := generateMessageId r.nextMessageId
  let resp : SubscriptionResponse :=
    if removed.ret = .success then
      { requestId := requestMessageId
        dappIdentifier := del.dappIdentifier
        responseCode := .positive
        subscriptionId := some del.subscriptionId }
    else
      let cause : Cause := if removed.ret = .dappNotRegistered then .setupRequired else .notFound
      { requestId := requestMessageId
        dappIdentifier := del.dappIdentifier
        responseCode := .negative
        cause := some cause
        detail := some (text (if cause = .setupRequired then
          "complete setup before deleting a subscription"
          else "the subscription does not exist or has ended")) }
  ({ r with nextMessageId := nextMessageId },
    { type := .subscriptionResponse
      choice := .subscriptionResponse resp
      messageId := messageId
      timestamp := stamp })

/-! ## Controls -/

/-- Whether `handle_control_action` has a Service Model to hand the control to, or why not. Like a
subscription request, it can make a factory's Service Model. -/
def decideControl (r : Ran) (action : DAppControlAction) : (Refusal ⊕ ServiceModel) × SmRegistry :=
  if !r.mgr.isDappRegistered action.dappIdentifier then
    (.inl ⟨.setupRequired, text "complete setup before sending a control"⟩, r.registry)
  else
    let (sm, registry) := r.registry.getByRanFunction action.ranFunctionIdentifier
    match sm with
    | none =>
      (.inl ⟨.unsupportedRanFunction,
        text ("RAN function " ++ toString action.ranFunctionIdentifier ++ " is not served")⟩,
        registry)
    | some sm =>
      if !sm.controlIds.contains action.controlIdentifier then
        (.inl ⟨.unsupportedIdentifier,
          text ("unknown control identifier " ++ toString action.controlIdentifier)⟩, registry)
      else if !sm.isRunning then
        (.inl ⟨.notFound, text "no subscription to this RAN function"⟩, registry)
      else (.inr sm, registry)

/-- What `handle_control_action` does: the Service Model it calls, with what it calls it with, and
what it passes to `queue_outbound`. A Service Model that takes a control answers for itself. -/
structure ControlOutcome where
  handed : Option (ServiceModel × UInt32 × DAppControlAction)
  outbound : List Pdu

def handleControlAction (r : Ran) (stamp : UInt64) (action : DAppControlAction)
    (requestMessageId : UInt32) : Ran × ControlOutcome :=
  let (decision, registry) := r.decideControl action
  let r := { r with registry := registry }
  match decision with
  | .inl refusal =>
    let (requestId, nextMessageId) := sanitizeRequestMessageId r.nextMessageId requestMessageId
    let (messageId, nextMessageId) := generateMessageId nextMessageId
    ({ r with nextMessageId := nextMessageId },
      { handed := none
        outbound :=
          [{ type := .messageAck
             choice := .messageAck
               { requestId := requestId
                 responseCode := .negative
                 cause := some refusal.cause
                 detail := some refusal.detail }
             messageId := messageId
             timestamp := stamp }] })
  | .inr sm => (r, { handed := some (sm, requestMessageId, action), outbound := [] })

theorem handleControlAction_outcome (r : Ran) (stamp : UInt64) (action : DAppControlAction)
    (mid : UInt32) :
    (∃ sm, (r.handleControlAction stamp action mid).2 = ⟨some (sm, mid, action), []⟩) ∨
      ∃ (refusal : Refusal) (messageId : UInt32), (r.handleControlAction stamp action mid).2 =
        ⟨none,
          [{ type := .messageAck
             choice := .messageAck ⟨(sanitizeRequestMessageId r.nextMessageId mid).1, .negative,
               some refusal.cause, some refusal.detail⟩
             messageId := messageId
             timestamp := stamp }]⟩ := by
  unfold handleControlAction
  rcases r.decideControl action with ⟨refusal | sm, registry⟩
  · exact .inr ⟨refusal, _, rfl⟩
  · exact .inl ⟨sm, rfl⟩

theorem handleControlAction_mgr (r : Ran) (stamp : UInt64) (action : DAppControlAction)
    (mid : UInt32) : (r.handleControlAction stamp action mid).1.mgr = r.mgr := by
  unfold handleControlAction
  rcases r.decideControl action with ⟨refusal | sm, registry⟩ <;> rfl

theorem handleControlAction_registry (r : Ran) (stamp : UInt64) (action : DAppControlAction)
    (mid : UInt32) :
    (r.handleControlAction stamp action mid).1.registry = (r.decideControl action).2 := by
  unfold handleControlAction
  rcases r.decideControl action with ⟨refusal | sm, registry⟩ <;> rfl

/-- `handle_release_message`; `order` is how the manager visits the dApp's subscriptions. -/
def handleReleaseMessage (r : Ran) (release : ReleaseMessage) (order : List UInt32) : Ran :=
  r.locked (r.mgr.unregisterDapp release.dappIdentifier order)

/-- One sweep of `subscription_expiry_loop`. -/
def sweep (r : Ran) (now : TimePoint) (order : List UInt64) : Ran :=
  r.locked (r.mgr.expireSubscriptions now order)

/-! ## One thing at a time -/

/-- What can happen to an interface in the RAN role: calls of its user, messages of the dApps,
and the sweep. -/
inductive Label
  | registerSm (sm : Option ServiceModel)
  | start (created connected : ErrorCode)
  | stop
  | setupRequest (stamp : UInt64) (requestMessageId : UInt32)
  | subscriptionRequest (now : TimePoint) (stamp : UInt64) (request : SubscriptionRequest)
      (requestMessageId : UInt32)
  | subscriptionDelete (stamp : UInt64) (del : SubscriptionDelete) (requestMessageId : UInt32)
  | controlAction (stamp : UInt64) (action : DAppControlAction) (requestMessageId : UInt32)
  | release (release : ReleaseMessage) (order : List UInt32)
  | sweep (now : TimePoint) (order : List UInt64)
  deriving DecidableEq, Repr

/-- One of them, handled to its end. The threads that handle messages and sweep exist only while
the interface runs. A setup whose response does not encode ends the process, so this is the step
of one that does. -/
def step (r : Ran) : Label → Option Ran
  | .registerSm sm => some (r.registerSm sm).2
  | .start created connected => some (r.start created connected).2
  | .stop => some r.stop
  | .setupRequest stamp requestMessageId =>
    if r.state = .running then some (r.answerSetup stamp requestMessageId).1 else none
  | .subscriptionRequest now stamp request requestMessageId =>
    if r.state = .running then
      some (r.handleSubscriptionRequest now stamp request requestMessageId).1
    else none
  | .subscriptionDelete stamp del requestMessageId =>
    if r.state = .running then some (r.handleSubscriptionDelete stamp del requestMessageId).1
    else none
  | .controlAction stamp action requestMessageId =>
    if r.state = .running then some (r.handleControlAction stamp action requestMessageId).1
    else none
  | .release release order =>
    if r.state = .running ∧ Visits order (r.mgr.dappSubscriptions.ref release.dappIdentifier) then
      some (r.handleReleaseMessage release order)
    else none
  | .sweep now order =>
    if r.state = .running ∧ Visits order r.mgr.subscriptionDetails.keys then
      some (r.sweep now order)
    else none

end Ran

end LibE3
