import LibE3.DApp
import LibE3.Lib.Runs

/-!
# The threads of a dApp

One session of an interface in the dApp role, from its `start()` up to the next one: the setup
thread, the inbound thread and the calls of the application, each of which takes and leaves a lock
several times. A step is what a thread does under one lock, or one access of an atomic. What the
PDUs carry is left to `DApp`.
-/

namespace LibE3

inductive DisconnectReason
  | releasedByRan | connectionLost
  deriving DecidableEq, Repr

/-- `setup_loop_dapp`: in its loop, in front of its last block, or behind it. -/
inductive SetupThread
  | requesting
  | finishing (gotResponse : Bool)
  | done
  deriving DecidableEq, Repr

/-- What `on_ran_gone` does next, once it has set `ran_gone_`. -/
inductive GoneStage
  | clearSession | clearPending | resetSetup | testRelease | callHandler
  deriving DecidableEq, Repr

/-- `inbound_loop_dapp`: in front of its loop, in front of a `receive`, in
`handle_subscription_response` in front of the look at the remembered request or of the record, in
front of the `exchange` of `on_ran_gone` or behind it, or behind its loop. -/
inductive InboundThread
  | connecting
  | receiving
  | attributing (resp : SubscriptionResponse)
  | recording (resp : SubscriptionResponse) (pending : Option PendingSubscriptionOp)
  | leaving (reason : DisconnectReason)
  | gone (reason : DisconnectReason) (next : GoneStage)
  | stopped

/-- The inbound thread when `on_ran_gone` returns: a lost connection ends its loop. -/
def InboundThread.after : DisconnectReason → InboundThread
  | .releasedByRan => .receiving
  | .connectionLost => .stopped

/-- What the application can ask for. -/
inductive Request
  | subscribe (ranFunctionId : UInt32) (subTime : Option UInt32)
  | unsubscribe (ranFunctionId : UInt32)
  | sendControl
  | sendReport (sequenceId : UInt32)
  | release
  deriving DecidableEq, Repr

/-- What a call of the application does next, once it has read `dapp_id()`. -/
inductive AppCall
  | lookup (ranFunctionId : UInt32)
  | remember (op : PendingSubscriptionOp)
  | push (mid : UInt32)
  | forget (mid : UInt32)
  | send
  | storeRelease
  | pushRelease
  | undoRelease
  | returned
  deriving DecidableEq, Repr

/-- `handler` says that a disconnect handler is set. `released` says that a `release()` has put its
message in the queue, and `disconnects` are the calls of the handler, each with whether that had
happened before it. -/
structure DAppThreads where
  app : DApp
  handler : Bool
  running : Bool := false
  shouldStop : Bool := false
  setupComplete : Bool := false
  setupSucceeded : Bool := false
  setup : SetupThread := .requesting
  inbound : InboundThread := .connecting
  calls : List AppCall := []
  released : Bool := false
  disconnects : List (DisconnectReason × Bool) := []

namespace DAppThreads

/-- The interface when `start()` has made the threads. -/
def started (a : DApp) (handler : Bool) : DAppThreads := { app := a.start, handler := handler }

/-! ## Calls of the application -/

def dappId (s : DAppThreads) : Option UInt32 := s.app.state.assignedDappId

/-- A call up to its look at `dapp_id()`: it is refused, or it goes on. -/
def begin (s : DAppThreads) (request : Request) : Except ErrorCode AppCall :=
  if !s.running then .error .notInitialized
  else if request = .sendReport 0 then .error .invalidParam
  else
    match s.dappId with
    | none => .error .notInitialized
    | some _ =>
      match request with
      | .subscribe ranFunctionId subTime => .ok (.remember ⟨ranFunctionId, false, subTime⟩)
      | .unsubscribe ranFunctionId => .ok (.lookup ranFunctionId)
      | .sendControl => .ok .send
      | .sendReport _ => .ok .send
      | .release => .ok .storeRelease

/-- `wait_for_setup`, when the wait is over. -/
def waitForSetup (s : DAppThreads) : ErrorCode :=
  if !s.setupComplete then .timeout
  else if s.setupSucceeded then .success
  else .connectionFailed

/-- The next step of a call, and where it leaves the call. `queued` is what `queue_outbound`
returns. -/
def advance (s : DAppThreads) (call : AppCall) (queued : ErrorCode) : DAppThreads × AppCall :=
  match call with
  | .lookup ranFunctionId =>
    match s.app.state.subscriptionIdFor ranFunctionId with
    | none => (s, .returned)
    | some _ => (s, .remember ⟨ranFunctionId, true, none⟩)
  | .remember op =>
    let (mid, nextMessageId) := generateMessageId s.app.nextMessageId
    let remembered := s.app.pendingSubscriptions.insert mid op
    ({ s with
        app := { s.app with nextMessageId := nextMessageId, pendingSubscriptions := remembered } },
      .push mid)
  | .push mid => if queued = .success then (s, .returned) else (s, .forget mid)
  | .forget mid =>
    ({ s with
        app := { s.app with pendingSubscriptions := s.app.pendingSubscriptions.erase mid } },
      .returned)
  | .send =>
    ({ s with app := { s.app with nextMessageId := (generateMessageId s.app.nextMessageId).2 } },
      .returned)
  | .storeRelease =>
    ({ s with
        app := { s.app with
          nextMessageId := (generateMessageId s.app.nextMessageId).2
          releaseSent := true } },
      .pushRelease)
  | .pushRelease =>
    if queued = .success then ({ s with released := true }, .returned) else (s, .undoRelease)
  | .undoRelease => ({ s with app := { s.app with releaseSent := false } }, .returned)
  | .returned => (s, .returned)

/-! ## The threads -/

/-- The next step of `on_ran_gone`. -/
def goneStep (s : DAppThreads) (reason : DisconnectReason) : GoneStage → DAppThreads
  | .clearSession =>
    { s with
      app := { s.app with state := s.app.state.clearSession }
      inbound := .gone reason .clearPending }
  | .clearPending =>
    { s with
      app := { s.app with pendingSubscriptions := ∅ }
      inbound := .gone reason .resetSetup }
  | .resetSetup => { s with setupSucceeded := false, inbound := .gone reason .testRelease }
  | .testRelease =>
    if s.app.releaseSent then { s with inbound := .after reason }
    else if s.handler then { s with inbound := .gone reason .callHandler }
    else { s with inbound := .after reason }
  | .callHandler =>
    { s with
      disconnects := s.disconnects ++ [(reason, s.released)]
      inbound := .after reason }

/-- The next step of the inbound thread inside a handler. -/
def inboundStep (s : DAppThreads) (now : TimePoint) : Option DAppThreads :=
  match s.inbound with
  | .attributing resp =>
    some { s with
      app := { s.app with
        pendingSubscriptions := s.app.pendingSubscriptions.erase resp.requestId }
      inbound := .recording resp (s.app.pendingSubscriptions.lookup resp.requestId) }
  | .recording resp pending =>
    some { s with
      app := { s.app with state := DApp.applyResponse s.app.state now pending resp }
      inbound := .receiving }
  | .leaving reason =>
    some (if s.app.ranGone then { s with inbound := .after reason }
      else
        { s with
          app := { s.app with ranGone := true }
          inbound := .gone reason .clearSession })
  | .gone reason next => some (s.goneStep reason next)
  | _ => none

/-- One step of one of the threads. `inbound` goes on inside a handler; the events before it are
what the inbound thread finds in front of it. -/
inductive Event
  | running
  | stop
  | stopped
  | setupResponds (resp : SetupResponse)
  | setupGivesUp
  | setupFinishes
  | connected (succeeded : Bool)
  | subscriptionResponse (resp : SubscriptionResponse)
  | release (release : ReleaseMessage)
  | lost
  | inboundStops
  | inbound (now : TimePoint)
  | expire (now : TimePoint) (order : List UInt32)
  | call (request : Request)
  | advance (i : ℕ) (queued : ErrorCode)

def step (s : DAppThreads) : Event → Option DAppThreads
  | .running => some { s with running := true }
  | .stop => some { s with running := false, shouldStop := true }
  | .stopped =>
    match s.shouldStop, s.setup, s.inbound with
    | true, .done, .stopped => some { s with setupComplete := true }
    | _, _, _ => none
  | .setupResponds resp =>
    match s.setup with
    | .requesting => some { s with app := s.app.handleSetupResponse resp, setup := .finishing true }
    | _ => none
  | .setupGivesUp =>
    match s.setup with
    | .requesting => some { s with setup := .finishing false }
    | _ => none
  | .setupFinishes =>
    match s.setup with
    | .finishing gotResponse =>
      some { s with setupComplete := true, setupSucceeded := gotResponse, setup := .done }
    | _ => none
  | .connected succeeded =>
    match s.inbound with
    | .connecting => some { s with inbound := if succeeded then .receiving else .stopped }
    | _ => none
  | .subscriptionResponse resp =>
    match s.inbound with
    | .receiving =>
      some (if s.app.isForUs resp.dappIdentifier then { s with inbound := .attributing resp }
        else s)
    | _ => none
  | .release release =>
    match s.inbound with
    | .receiving =>
      some (if s.app.isForUs release.dappIdentifier then
          { s with inbound := .leaving .releasedByRan }
        else s)
    | _ => none
  | .lost =>
    match s.inbound with
    | .receiving =>
      some { s with inbound := if s.shouldStop then .stopped else .leaving .connectionLost }
    | _ => none
  | .inboundStops =>
    match s.inbound with
    | .receiving => if s.shouldStop then some { s with inbound := .stopped } else none
    | _ => none
  | .inbound now => s.inboundStep now
  | .expire now order =>
    some { s with app := { s.app with state := s.app.state.expireSubscriptions now order } }
  | .call request =>
    match s.begin request with
    | .error _ => some s
    | .ok call => some { s with calls := s.calls ++ [call] }
  | .advance i queued =>
    match s.calls[i]? with
    | none => none
    | some call =>
      some { (s.advance call queued).1 with calls := s.calls.set i (s.advance call queued).2 }

end DAppThreads

end LibE3
