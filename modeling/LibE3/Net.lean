import LibE3.DApp

/-!
# One RAN and its dApps

The RAN and any number of dApps joined by first-in first-out links that lose nothing: the outbound
queue of the RAN, which refuses what it is passed when it is full, is never full. A dApp has its
own link to the RAN. The RAN has one outbound link, and every dApp that is attached to it
receives everything that is sent on it. Setup goes over a channel of its own, on which a reply
reaches only the dApp that asked. All of them read one clock.

Some parts of the state are only observed: `holder` is the dApp that was given an identifier in
the registration that is current at the RAN, `numbered` are the identifiers of the messages that a
dApp has sent, `log` is what applications were handed of what carries a dApp identifier, and `acks`
is what their handlers of acknowledgments were called with.
-/

namespace LibE3

/-- A PDU on the outbound link, with the dApp that held its identifier when it was sent and, for an
acknowledgment, the dApp and the message that it answers. -/
structure Sent (ι : Type) where
  pdu : Pdu
  holder : Option ι
  answers : Option (ι × UInt32)
  deriving DecidableEq, Repr

/-- The dApp identifier that an indication, an xApp control or a subscription response carries. -/
def addressee (pdu : Pdu) : Option UInt32 :=
  match pdu.choice with
  | .indicationMessage msg => some msg.dappIdentifier
  | .xappControlAction action => some action.dappIdentifier
  | .subscriptionResponse resp => some resp.dappIdentifier
  | _ => none

/-- An acknowledgment, which carries no dApp identifier. -/
def isAck (pdu : Pdu) : Bool :=
  match pdu.type, pdu.choice with
  | .messageAck, .messageAck _ => true
  | _, _ => false

structure Net (ι : Type) where
  ran : Ran
  now : TimePoint
  dapp : ι → DApp
  /-- The dApp is started: its threads run and it receives what the RAN sends. -/
  attached : ι → Bool
  /-- The setup loop of the dApp still waits for a reply. -/
  awaiting : ι → Bool
  up : ι → List Pdu
  down : ι → List (Sent ι)
  reply : ι → List Pdu
  /-- The controls that Service Models were handed, by dApp and message. -/
  handed : List (ι × UInt32) := []
  holder : UInt32 → Option ι
  numbered : ι → List UInt32 := fun _ => []
  log : List (ι × Sent ι)
  acks : List (ι × Sent ι) := []

namespace Net

inductive Label (ι : Type)
  | tick (elapsed : ℕ)
  | subscribe (i : ι) (stamp : UInt64) (ranFunctionId : UInt32)
      (telemetryIds controlIds : List UInt32) (subTime periodicity : Option UInt32)
      (queued : ErrorCode)
  | unsubscribe (i : ι) (stamp : UInt64) (ranFunctionId : UInt32) (queued : ErrorCode)
  | release (i : ι) (stamp : UInt64) (queued : ErrorCode)
  | control (i : ι) (stamp : UInt64) (ranFunctionId controlId : UInt32) (actionData : Bytes)
      (sequenceId : UInt32) (queued : ErrorCode)
  | report (i : ι) (stamp : UInt64) (ranFunctionId : UInt32) (reportData : Bytes)
      (sequenceId : UInt32) (queued : ErrorCode)
  /-- The RAN handles the next PDU of the dApp; `order` is for the loop of a release. -/
  | ranReceive (i : ι) (stamp : UInt64) (order : List UInt32)
  /-- The dApp handles the next PDU of the RAN. -/
  | dappReceive (i : ι)
  | ranSweep (order : List UInt64)
  | dappSweep (i : ι) (order : List UInt32)
  /-- The RAN sends a PDU of its own: an indication or a control of a Service Model. -/
  | ranSend (pdu : Pdu)
  /-- A Service Model acknowledges the control that it was handed as the `k`-th one. -/
  | smAck (k : ℕ) (stamp : UInt64) (responseCode : ResponseCode) (cause : Option Cause)
      (detail : Option Bytes)
  | attach (i : ι)
  | detach (i : ι)
  /-- The RAN handles a setup request of the dApp. -/
  | setup (i : ι) (stamp : UInt64) (requestMessageId : UInt32)
  | setupReply (i : ι)

variable {ι : Type} [DecidableEq ι]

/-- The RAN puts a PDU on its outbound link. -/
def broadcast (n : Net ι) (pdu : Pdu) (answers : Option (ι × UInt32) := none) : Net ι :=
  { n with
    down := fun i =>
      if n.attached i then n.down i ++ [⟨pdu, (addressee pdu).bind n.holder, answers⟩]
      else n.down i }

/-- The dApp has made a call that may have queued a PDU. -/
def called (n : Net ι) (i : ι) (result : ErrorCode × DApp × Option Pdu) : Net ι :=
  { n with
    dapp := Function.update n.dapp i result.2.1
    up := Function.update n.up i (n.up i ++ result.2.2.toList)
    numbered := Function.update n.numbered i
      (n.numbered i ++ result.2.2.toList.map Pdu.messageId) }

/-- One turn of `inbound_loop_ran` with a PDU of the dApp `i` that decoded. -/
def ranHandle (n : Net ι) (i : ι) (stamp : UInt64) (order : List UInt32) (pdu : Pdu) :
    Option (Net ι) :=
  match pdu.type, pdu.choice with
  | .subscriptionRequest, .subscriptionRequest request =>
    let handled := n.ran.handleSubscriptionRequest n.now stamp request pdu.messageId
    some ({ n with ran := handled.1 }.broadcast handled.2)
  | .subscriptionDelete, .subscriptionDelete del =>
    let handled := n.ran.handleSubscriptionDelete stamp del pdu.messageId
    some ({ n with ran := handled.1 }.broadcast handled.2)
  | .dappControlAction, .dappControlAction action =>
    let handled := n.ran.handleControlAction stamp action pdu.messageId
    let n := { n with
      ran := handled.1
      handed := n.handed ++ handled.2.handed.toList.map fun c => (i, c.2.1) }
    some (handled.2.outbound.foldl (fun n ack => n.broadcast ack (some (i, pdu.messageId))) n)
  | .releaseMessage, .releaseMessage release =>
    if Visits order (n.ran.mgr.dappSubscriptions.ref release.dappIdentifier) then
      some { n with
        ran := n.ran.handleReleaseMessage release order
        holder := Function.update n.holder release.dappIdentifier none }
    else none
  | _, _ => some n

def step (n : Net ι) : Label ι → Option (Net ι)
  | .tick elapsed => some { n with now := n.now + elapsed }
  | .subscribe i stamp ranFunctionId telemetryIds controlIds subTime periodicity queued =>
    if n.attached i then
      some (n.called i ((n.dapp i).queueSubscriptionRequest stamp ranFunctionId telemetryIds
        controlIds subTime periodicity queued))
    else none
  | .unsubscribe i stamp ranFunctionId queued =>
    if n.attached i then
      some (n.called i ((n.dapp i).queueSubscriptionDelete stamp ranFunctionId queued))
    else none
  | .release i stamp queued =>
    if n.attached i then some (n.called i ((n.dapp i).queueReleaseMessage stamp queued)) else none
  | .control i stamp ranFunctionId controlId actionData sequenceId queued =>
    if n.attached i then
      some (n.called i ((n.dapp i).queueDappControlAction stamp ranFunctionId controlId actionData
        sequenceId queued))
    else none
  | .report i stamp ranFunctionId reportData sequenceId queued =>
    if n.attached i then
      some (n.called i ((n.dapp i).queueDappReport stamp ranFunctionId reportData sequenceId
        queued))
    else none
  | .ranReceive i stamp order =>
    match n.up i with
    | [] => none
    | pdu :: rest => { n with up := Function.update n.up i rest }.ranHandle i stamp order pdu
  | .dappReceive i =>
    match n.attached i, n.down i with
    | true, m :: rest =>
      let handled := (n.dapp i).receive n.now m.pdu
      some { n with
        dapp := Function.update n.dapp i handled.1
        down := Function.update n.down i rest
        log := if handled.2 ∧ (addressee m.pdu).isSome then n.log ++ [(i, m)] else n.log
        acks := if handled.2 ∧ isAck m.pdu then n.acks ++ [(i, m)] else n.acks }
    | _, _ => none
  | .ranSweep order =>
    if Visits order n.ran.mgr.subscriptionDetails.keys then
      some { n with ran := n.ran.sweep n.now order }
    else none
  | .dappSweep i order =>
    if n.attached i ∧ Visits order (n.dapp i).state.ranFunctionExpiry.keys then
      some { n with
        dapp := Function.update n.dapp i
          { n.dapp i with state := (n.dapp i).state.expireSubscriptions n.now order } }
    else none
  | .ranSend pdu => some (n.broadcast pdu)
  | .smAck k stamp responseCode cause detail =>
    match n.handed[k]? with
    | none => none
    | some (i, mid) =>
      let (messageId, nextMessageId) := generateMessageId n.ran.nextMessageId
      some (Net.broadcast { n with ran := { n.ran with nextMessageId := nextMessageId } }
        { type := .messageAck
          choice := .messageAck ⟨mid, responseCode, cause, detail⟩
          messageId := messageId
          timestamp := stamp } (some (i, mid)))
  | .attach i =>
    if n.attached i then none
    else
      some { n with
        dapp := Function.update n.dapp i (n.dapp i).start
        attached := Function.update n.attached i true
        awaiting := Function.update n.awaiting i true
        down := Function.update n.down i []
        reply := Function.update n.reply i [] }
  | .detach i =>
    if n.attached i then some { n with attached := Function.update n.attached i false } else none
  | .setup i stamp requestMessageId =>
    let registered := n.ran.mgr.registerDapp.ret
    let handled := n.ran.answerSetup stamp requestMessageId
    some { n with
      ran := handled.1
      holder :=
        if registered.1 = .success then Function.update n.holder registered.2 (some i)
        else n.holder
      reply :=
        if n.attached i then Function.update n.reply i (n.reply i ++ [handled.2]) else n.reply }
  | .setupReply i =>
    match n.attached i && n.awaiting i, n.reply i with
    | true, pdu :: rest =>
      let a :=
        match pdu.choice with
        | .setupResponse resp => (n.dapp i).handleSetupResponse resp
        | _ => n.dapp i
      some { n with
        dapp := Function.update n.dapp i a
        awaiting := Function.update n.awaiting i false
        reply := Function.update n.reply i rest }
    | _, _ => none

theorem update_subset {α : Type} {link : ι → List α} {i : ι} {rest : List α}
    (h : rest ⊆ link i) (j : ι) : Function.update link i rest j ⊆ link j := by
  by_cases hj : j = i
  · subst hj
    rwa [Function.update_self]
  · rw [Function.update_of_ne hj]
    exact List.Subset.refl _

end Net

end LibE3
