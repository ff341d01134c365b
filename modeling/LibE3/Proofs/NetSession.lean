import LibE3.Lib.Partial
import LibE3.Net
import LibE3.Proofs.Attribution
import LibE3.Proofs.DAppSpec
import LibE3.Proofs.RanSpec

/-!
# Each dApp of the network is in a session with the RAN

While dApps subscribe and unsubscribe and both sides sweep, every step of the network is a step of
each dApp's session. The RAN changes only what it holds for the dApp whose PDU it handles, and a
dApp takes only the answers that carry its identifier.
-/

namespace LibE3

open SubscriptionManager Partial

def askOf (pdu : Pdu) : Option Asked :=
  match pdu.choice with
  | .subscriptionRequest request =>
    some ⟨pdu.messageId, .subscribe request.ranFunctionIdentifier request.subscriptionTime⟩
  | .subscriptionDelete del => some ⟨pdu.messageId, .delete del.subscriptionId⟩
  | _ => none

/-- The answer that a PDU of the RAN is to the dApp with an identifier. -/
def answerTo (d : UInt32) (pdu : Pdu) : Option Answer :=
  match pdu.type, pdu.choice with
  | .subscriptionResponse, .subscriptionResponse resp =>
    if resp.dappIdentifier = d then
      some ⟨resp.requestId, resp.responseCode = .positive, resp.subscriptionId⟩
    else none
  | _, _ => none

/-- The PDU is a subscription request or a delete of the dApp with an identifier. -/
inductive Asks (d : UInt32) (pdu : Pdu) : Prop
  | request {request : SubscriptionRequest} (ht : pdu.type = .subscriptionRequest)
    (hc : pdu.choice = .subscriptionRequest request) (hd : request.dappIdentifier = d)
  | delete {del : SubscriptionDelete} (ht : pdu.type = .subscriptionDelete)
    (hc : pdu.choice = .subscriptionDelete del) (hd : del.dappIdentifier = d)

namespace Net

variable {ι : Type} {n n' : Net ι} {T T' : Table} {id : ι → UInt32} {i : ι}

/-- The session of a dApp that goes by the identifier, when the manager of the RAN describes
`T`. -/
def session (n : Net ι) (T : Table) (i : ι) (d : UInt32) : Session where
  now := n.now
  pending mid := (n.dapp i).pendingSubscriptions.lookup mid
  recorded f := (n.dapp i).state.ranFunctionToSubscriptionId.lookup f
  expiry f := (n.dapp i).state.ranFunctionExpiry.lookup f
  asked := (n.up i).filterMap askOf
  answered := (n.down i).filterMap fun m => answerTo d m.pdu
  held := T.entry d

/-- Every dApp is attached and goes by its identifier, has only requests on its way to the RAN, and
no release is on its way to it. -/
structure Linked (id : ι → UInt32) (n : Net ι) (T : Table) : Prop where
  represents : Represents n.ran.mgr T
  attached : ∀ i, n.attached i = true
  assigned : ∀ i, (n.dapp i).state.assignedDappId = some (id i)
  up : ∀ i, ∀ pdu ∈ n.up i, Asks (id i) pdu
  down : ∀ i, ∀ m ∈ n.down i, ∀ release, m.pdu.choice ≠ .releaseMessage release

/-- Subscribing, unsubscribing, sweeping and what the RAN sends of its own, but no release. -/
def Label.exchange : Label ι → Bool
  | .tick _ | .subscribe .. | .unsubscribe .. | .ranReceive .. | .dappReceive _ | .ranSweep _
  | .dappSweep .. => true
  | .ranSend pdu =>
    match pdu.choice with
    | .subscriptionResponse _ | .releaseMessage _ => false
    | _ => true
  | .release .. | .control .. | .report .. | .smAck .. | .attach _ | .detach _ | .setup ..
  | .setupReply _ => false

/-- A dApp gives its next request an identifier that it remembers no other request by. -/
def FreshIds (n : Net ι) : Label ι → Prop
  | .subscribe i .. | .unsubscribe i .. =>
    (generateMessageId (n.dapp i).nextMessageId).1 ∉ (n.dapp i).pendingSubscriptions
  | _ => True

instance (n : Net ι) : ∀ a, Decidable (n.FreshIds a)
  | .subscribe .. | .unsubscribe .. => inferInstanceAs (Decidable (_ ∉ _))
  | .tick _ | .release .. | .control .. | .report .. | .ranReceive .. | .dappReceive _
  | .ranSweep _ | .dappSweep .. | .ranSend _ | .smAck .. | .attach _ | .detach _ | .setup ..
  | .setupReply _ => inferInstanceAs (Decidable True)

/-- What an event of a dApp's session says about the step. -/
def Shows (n : Net ι) (a : Label ι) (i : ι) (d : UInt32) : Session.Event → Prop
  | .subscribe time =>
    ∃ stamp f telemetryIds controlIds periodicity queued,
      a = .subscribe i stamp f telemetryIds controlIds time periodicity queued
  | .hold time e =>
    ∃ stamp order pdu rest request, a = .ranReceive i stamp order ∧ n.up i = pdu :: rest ∧
      pdu.choice = .subscriptionRequest request ∧ request.subscriptionTime = time ∧
      request.dappIdentifier = d ∧ n.ran.mgr.isDappRegistered d = true ∧
      (refusalForSubscription n.ran.registry request).1 = none ∧
      n.ran.mgr.getSubscriptionDetails d request.ranFunctionIdentifier = some e.details ∧
      isExpired e.details n.now = false
  | .delete mid f =>
    ∃ stamp order pdu rest del, a = .ranReceive i stamp order ∧ n.up i = pdu :: rest ∧
      pdu.messageId = mid ∧ pdu.choice = .subscriptionDelete del ∧ del.dappIdentifier = d ∧
      n.ran.mgr.subscriptionIds.lookup del.subscriptionId = some (d, f)
  | .other => True

def Simulated (id : ι → UInt32) (n : Net ι) (T : Table) (a : Label ι) (n' : Net ι) (T' : Table) :
    Prop :=
  ∀ i, ∃ e, Session.Step (n.session T i (id i)) e (n'.session T' i (id i)) ∧ n.Shows a i (id i) e

variable {a : Label ι}

theorem Simulated.refl (h : ∀ i, n'.session T' i (id i) = n.session T i (id i)) :
    Simulated id n T a n' T' := by
  intro i
  rw [h i]
  exact ⟨.other, .elapse le_rfl, trivial⟩

theorem Simulated.of_step {e : Session.Event}
    (hstep : Session.Step (n.session T i (id i)) e (n'.session T' i (id i)))
    (hshow : n.Shows a i (id i) e)
    (hother : ∀ j, j ≠ i → n'.session T' j (id j) = n.session T j (id j)) :
    Simulated id n T a n' T' := by
  intro j
  by_cases hj : j = i
  · subst hj
    exact ⟨e, hstep, hshow⟩
  · rw [hother j hj]
    exact ⟨.other, .elapse le_rfl, trivial⟩

variable [DecidableEq ι]

theorem Linked.assigned_update {a : DApp} (h : Linked id n T)
    (ha : a.state.assignedDappId = (n.dapp i).state.assignedDappId) (j : ι) :
    (Function.update n.dapp i a j).state.assignedDappId = some (id j) := by
  by_cases hj : j = i
  · subst hj
    rw [Function.update_self, ha, h.assigned]
  · rw [Function.update_of_ne hj, h.assigned]

/-! ## Calls of an application -/

section Called

variable {code : ErrorCode} {x : DApp} {d : UInt32}

theorem session_called_of_ne {j : ι} (hj : j ≠ i) (result : ErrorCode × DApp × Option Pdu) :
    (n.called i result).session T j d = n.session T j d := by
  simp only [session, called, Function.update_of_ne hj]

theorem session_called_none (hx : x.state = (n.dapp i).state)
    (hp : ∀ mid, x.pendingSubscriptions.lookup mid = (n.dapp i).pendingSubscriptions.lookup mid) :
    (n.called i (code, x, none)).session T i d = n.session T i d := by
  simp only [session, called, Function.update_self, hx, hp, Option.toList_none, List.append_nil]

theorem session_called_some {mid : UInt32} {op : PendingSubscriptionOp} {pdu : Pdu} {ask : Ask}
    (hx : x.state = (n.dapp i).state)
    (hp : x.pendingSubscriptions = (n.dapp i).pendingSubscriptions.insert mid op)
    (ha : askOf pdu = some ⟨mid, ask⟩) :
    (n.called i (code, x, some pdu)).session T i d = (n.session T i d).request mid op ask := by
  simp only [session, called, Session.request, Function.update_self, hx, hp, Option.toList_some,
    List.filterMap_append, List.filterMap_cons, List.filterMap_nil, ha,
    Finmap.lookup_insert_eq_update]

theorem Linked.called {o : Option Pdu} (h : Linked id n T) (hx : x.state = (n.dapp i).state)
    (ho : ∀ pdu ∈ o, Asks (id i) pdu) : Linked id (n.called i (code, x, o)) T := by
  refine ⟨h.represents, h.attached, h.assigned_update (congrArg _ hx), fun j pdu hpdu => ?_,
    h.down⟩
  by_cases hj : j = i
  · subst hj
    simp only [Net.called, Function.update_self, List.mem_append, Option.mem_toList] at hpdu
    exact hpdu.elim (h.up j pdu) (ho pdu)
  · simp only [Net.called, Function.update_of_ne hj] at hpdu
    exact h.up j pdu hpdu

theorem Linked.called_nothing (h : Linked id n T) (hx : x.state = (n.dapp i).state)
    (hp : ∀ mid, x.pendingSubscriptions.lookup mid = (n.dapp i).pendingSubscriptions.lookup mid) :
    Linked id (n.called i (code, x, none)) T ∧
      Simulated id n T a (n.called i (code, x, none)) T := by
  refine ⟨h.called hx (by simp), Simulated.refl fun j => ?_⟩
  by_cases hj : j = i
  · subst hj
    exact session_called_none hx hp
  · exact session_called_of_ne hj _

theorem Linked.called_request {e : Session.Event} {mid : UInt32} {op : PendingSubscriptionOp}
    {pdu : Pdu} {ask : Ask} (h : Linked id n T) (hx : x.state = (n.dapp i).state)
    (hp : x.pendingSubscriptions = (n.dapp i).pendingSubscriptions.insert mid op)
    (hpdu : Asks (id i) pdu) (ha : askOf pdu = some ⟨mid, ask⟩)
    (hstep : Session.Step (n.session T i (id i)) e ((n.session T i (id i)).request mid op ask))
    (hshow : n.Shows a i (id i) e) :
    Linked id (n.called i (code, x, some pdu)) T ∧
      Simulated id n T a (n.called i (code, x, some pdu)) T := by
  refine ⟨h.called hx ?_, .of_step ?_ hshow fun j hj => session_called_of_ne hj _⟩
  · rintro _ ⟨⟩
    exact hpdu
  · rwa [session_called_some hx hp ha]

theorem lookup_erase_insert_of_fresh {p : UnorderedMap UInt32 PendingSubscriptionOp} {mid : UInt32}
    (hm : mid ∉ p) (op : PendingSubscriptionOp) (k : UInt32) :
    ((p.insert mid op).erase mid).lookup k = p.lookup k := by
  rw [Finmap.lookup_erase_ite, Finmap.lookup_insert_ite]
  split_ifs with hk
  · rw [hk, Finmap.lookup_of_notMem hm]
  · rfl

end Called

variable {stamp : UInt64}

theorem Linked.subscribe {f : UInt32} {ts cs : List UInt32} {time period : Option UInt32}
    {queued : ErrorCode} (h : Linked id n T)
    (hm : n.FreshIds (.subscribe i stamp f ts cs time period queued))
    (hs : n.step (.subscribe i stamp f ts cs time period queued) = some n') :
    Linked id n' T ∧ Simulated id n T (.subscribe i stamp f ts cs time period queued) n' T := by
  simp only [step, h.attached i, if_true, DApp.queueSubscriptionRequest, h.assigned i,
    Option.some.injEq] at hs
  split_ifs at hs with hq
  · subst hs
    exact h.called_nothing rfl (lookup_erase_insert_of_fresh hm _)
  · subst hs
    exact h.called_request rfl rfl (.request rfl rfl rfl) rfl
      (.subscribe (Finmap.lookup_of_notMem hm)) ⟨_, _, _, _, _, _, rfl⟩

theorem Linked.unsubscribe {f : UInt32} {queued : ErrorCode} (h : Linked id n T)
    (hm : n.FreshIds (.unsubscribe i stamp f queued))
    (hs : n.step (.unsubscribe i stamp f queued) = some n') :
    Linked id n' T ∧ Simulated id n T (.unsubscribe i stamp f queued) n' T := by
  simp only [step, h.attached i, if_true, DApp.queueSubscriptionDelete, h.assigned i,
    DAppSubscriptionState.subscriptionIdFor, Option.some.injEq] at hs
  cases hf : (n.dapp i).state.ranFunctionToSubscriptionId.lookup f with
  | none =>
    simp only [hf] at hs
    subst hs
    exact h.called_nothing rfl fun _ => rfl
  | some subId =>
    simp only [hf] at hs
    split_ifs at hs with hq
    · subst hs
      exact h.called_nothing rfl (lookup_erase_insert_of_fresh hm _)
    · subst hs
      exact h.called_request rfl rfl (.delete rfl rfl rfl) rfl
        (.unsubscribe (Finmap.lookup_of_notMem hm) hf) trivial

/-! ## What the RAN sends -/

omit [DecidableEq ι] in
theorem session_broadcast (hatt : n.attached i = true) (pdu : Pdu) (d : UInt32) :
    (n.broadcast pdu).session T i d =
      { n.session T i d with
        answered := (n.session T i d).answered ++ (answerTo d pdu).toList } := by
  cases ha : answerTo d pdu <;> simp [session, broadcast, hatt, ha]

variable {pdu : Pdu}

omit [DecidableEq ι] in
theorem Linked.broadcast (h : Linked id n T)
    (hpdu : ∀ release, pdu.choice ≠ .releaseMessage release) : Linked id (n.broadcast pdu) T := by
  refine ⟨h.represents, h.attached, h.assigned, h.up, fun i m hm => ?_⟩
  simp only [Net.broadcast, h.attached i, if_true, List.mem_append, List.mem_singleton] at hm
  rcases hm with hm | rfl
  · exact h.down i m hm
  · exact hpdu

omit [DecidableEq ι] in
theorem Linked.ranSend (h : Linked id n T) (hpdu : (Label.ranSend pdu : Label ι).exchange = true) :
    Linked id (n.broadcast pdu) T ∧
      Simulated id n T (.ranSend pdu) (n.broadcast pdu) T := by
  refine ⟨h.broadcast fun release hc => ?_, Simulated.refl fun i => ?_⟩
  · simp [Label.exchange, hc] at hpdu
  · have hnone : answerTo (id i) pdu = none := by
      unfold answerTo
      split
      · rename_i hc
        simp [Label.exchange, hc] at hpdu
      · rfl
    simp [session_broadcast (h.attached i), hnone]

variable {rest : List Pdu}

/-- The RAN takes the next PDU of a dApp off its link and answers it. Only what it holds for that
dApp may change, and the others do not take the answer. -/
theorem Linked.answer {e : Session.Event} {ran : Ran} {pdu resp : Pdu} {r : SubscriptionResponse}
    (hid : Function.Injective id) (h : Linked id n T) (hup : n.up i = pdu :: rest)
    (hrep : Represents ran.mgr T') (hother : ∀ d, d ≠ id i → T'.entry d = T.entry d)
    (ht : resp.type = .subscriptionResponse) (hc : resp.choice = .subscriptionResponse r)
    (hd : r.dappIdentifier = id i) (hstep : Session.Step (n.session T i (id i)) e
      { (n.session T i (id i)).answer (rest.filterMap askOf)
          ⟨r.requestId, r.responseCode = .positive, r.subscriptionId⟩ with
        held := T'.entry (id i) }) (hshow : n.Shows a i (id i) e) :
    Linked id (Net.broadcast { n with up := Function.update n.up i rest, ran := ran } resp) T' ∧
      Simulated id n T a
        (Net.broadcast { n with up := Function.update n.up i rest, ran := ran } resp) T' := by
  have hlinked : Linked id { n with up := Function.update n.up i rest, ran := ran } T' := by
    have hrest : rest ⊆ n.up i := hup ▸ List.subset_cons_self pdu rest
    exact ⟨hrep, h.attached, h.assigned, fun j p hp => h.up j p (update_subset hrest j hp), h.down⟩
  refine ⟨hlinked.broadcast (by simp [hc]), .of_step ?_ hshow fun j hj => ?_⟩
  · have hans : answerTo (id i) resp =
        some ⟨r.requestId, r.responseCode = .positive, r.subscriptionId⟩ := by
      simp [answerTo, ht, hc, hd]
    rw [session_broadcast (hlinked.attached i)]
    simpa [hans, session, Session.answer] using hstep
  · have hans : answerTo (id j) resp = none := by
      simp [answerTo, ht, hc, hd, hid.ne (Ne.symm hj)]
    rw [session_broadcast (hlinked.attached j)]
    simp only [hans, Option.toList_none, List.append_nil, session, Function.update_of_ne hj,
      hother (id j) (hid.ne hj)]

omit [DecidableEq ι] in
theorem asked_of_request {request : SubscriptionRequest} {d : UInt32} (hup : n.up i = pdu :: rest)
    (hc : pdu.choice = .subscriptionRequest request) :
    (n.session T i d).asked =
      ⟨pdu.messageId, .subscribe request.ranFunctionIdentifier request.subscriptionTime⟩ ::
        rest.filterMap askOf := by
  simp [session, hup, askOf, hc]

variable {order : List UInt32}

/-- The RAN stores what the request of a dApp asks for, as a new subscription or in place of one
that has run out. -/
theorem Linked.grant {ran : Ran} {pdu resp : Pdu} {request : SubscriptionRequest} {subId : UInt32}
    {hg : T.Grantable request.dappIdentifier request.ranFunctionIdentifier
      ⟨subId, requestDetails n.now request⟩} (hid : Function.Injective id) (h : Linked id n T)
    (hup : n.up i = pdu :: rest) (hc : pdu.choice = .subscriptionRequest request)
    (hd : request.dappIdentifier = id i) (hrep : Represents ran.mgr (T.grant _ _ _ hg))
    (ht : resp.type = .subscriptionResponse)
    (hresp : resp.choice = .subscriptionResponse (grantResponse request pdu.messageId subId)) :
    Linked id (Net.broadcast { n with up := Function.update n.up i rest, ran := ran } resp)
        (T.grant _ _ _ hg) ∧
      Simulated id n T (.ranReceive i stamp order)
        (Net.broadcast { n with up := Function.update n.up i rest, ran := ran } resp)
        (T.grant _ _ _ hg) := by
  refine h.answer (e := .other) hid hup hrep (fun d hne => ?_) ht hresp hd ?_ trivial
  · exact Table.entry_grant_of_ne (hd ▸ hne)
  · rw [← hd, Table.entry_grant_self]
    exact Session.Step.grant (e := ⟨_, requestDetails n.now request⟩) (asked_of_request hup hc) rfl

theorem Linked.request {request : SubscriptionRequest} (hid : Function.Injective id)
    (h : Linked id n T) (hup : n.up i = pdu :: rest)
    (hc : pdu.choice = .subscriptionRequest request) (hd : request.dappIdentifier = id i) :
    let handled := n.ran.handleSubscriptionRequest n.now stamp request pdu.messageId
    ∃ T', Linked id (Net.broadcast
          { n with up := Function.update n.up i rest, ran := handled.1 } handled.2) T' ∧
      Simulated id n T (.ranReceive i stamp order) (Net.broadcast
        { n with up := Function.update n.up i rest, ran := handled.1 } handled.2) T' := by
  rcases decideSubscription_spec h.represents n.now request with ⟨refusal, hout, hrep, -⟩ |
    ⟨code, subId, T', hout, hreg, href, hcode, ha, hrep⟩
  · exact ⟨T, h.answer hid hup hrep (fun _ _ => rfl) rfl
      (handleSubscriptionRequest_refused hout stamp _) hd (.refuse (asked_of_request hup hc))
      trivial⟩
  · refine ⟨T', ?_⟩
    have hgrant := handleSubscriptionRequest_granted hout stamp pdu.messageId
    cases ha with
    | held he hx =>
      rw [hd] at he hreg
      refine h.answer hid hup hrep (fun _ _ => rfl) rfl hgrant hd
        (.hold (asked_of_request hup hc) he) ?_
      refine ⟨_, _, _, _, request, rfl, hup, hc, rfl, hd, hreg, href, ?_, hx⟩
      rw [h.represents.getSubscriptionDetails_eq, he]
      rfl
    | renewed he hx hg => exact h.grant hid hup hc hd hrep rfl hgrant
    | new hn hlf hg => exact h.grant hid hup hc hd hrep rfl hgrant
    | unregistered _ => simp at hcode
    | full _ _ _ => simp at hcode

theorem Linked.delete {del : SubscriptionDelete} (hid : Function.Injective id) (h : Linked id n T)
    (hup : n.up i = pdu :: rest) (hc : pdu.choice = .subscriptionDelete del)
    (hd : del.dappIdentifier = id i) :
    let handled := n.ran.handleSubscriptionDelete stamp del pdu.messageId
    ∃ T', Linked id (Net.broadcast
          { n with up := Function.update n.up i rest, ran := handled.1 } handled.2) T' ∧
      Simulated id n T (.ranReceive i stamp order) (Net.broadcast
        { n with up := Function.update n.up i rest, ran := handled.1 } handled.2) T' := by
  have hasked : (n.session T i (id i)).asked =
      ⟨pdu.messageId, .delete del.subscriptionId⟩ :: rest.filterMap askOf := by
    simp [session, hup, askOf, hc]
  have hspec := handleSubscriptionDelete_spec h.represents stamp del pdu.messageId
  rw [hd] at hspec
  rcases hspec with ⟨f, ⟨subId, details⟩, he, heid, hresp, hrep⟩ | ⟨-, hresp, hrep⟩
  · obtain rfl : subId = del.subscriptionId := heid
    have hids := (h.represents.ids _ _ _).mpr ⟨_, he, rfl⟩
    refine ⟨_, h.answer (e := .delete pdu.messageId f) hid hup hrep
      (fun d hne => Table.entry_drop_of_ne f hne) rfl hresp hd ?_
      ⟨_, _, _, _, del, rfl, hup, rfl, hc, hd, hids⟩⟩
    rw [Table.entry_drop_self]
    exact Session.Step.delete (s := n.session T i (id i)) hasked he
  · exact ⟨T, h.answer hid hup hrep (fun _ _ => rfl) rfl hresp hd (.refuse hasked) trivial⟩

theorem Linked.ranReceive (hid : Function.Injective id) (h : Linked id n T)
    (hs : n.step (.ranReceive i stamp order) = some n') :
    ∃ T', Linked id n' T' ∧ Simulated id n T (.ranReceive i stamp order) n' T' := by
  simp only [step] at hs
  split at hs
  · exact nomatch hs
  · rename_i pdu rest hup
    cases h.up i pdu (by simp [hup]) with
    | request ht hc hd =>
      simp only [ranHandle, ht, hc, Option.some.injEq] at hs
      subst hs
      exact h.request hid hup hc hd
    | delete ht hc hd =>
      simp only [ranHandle, ht, hc, Option.some.injEq] at hs
      subst hs
      exact h.delete hid hup hc hd

/-! ## What a dApp hears and sweeps -/

/-- A dApp takes what is an answer to it, and anything else leaves its records as they are. -/
theorem receive_cases {a : DApp} {d : UInt32} (now : TimePoint)
    (ha : a.state.assignedDappId = some d) (hpdu : ∀ release, pdu.choice ≠ .releaseMessage release)
    :
    (answerTo d pdu = none ∧ (a.receive now pdu).1 = a) ∨
      ∃ b, answerTo d pdu = some b ∧ (a.receive now pdu).1 =
        { a with
          pendingSubscriptions := a.pendingSubscriptions.erase b.requestId
          state := recordEffect a.state now
            (effect (a.pendingSubscriptions.lookup b.requestId) b) } := by
  by_cases hr : ∃ resp, pdu.type = .subscriptionResponse ∧ pdu.choice = .subscriptionResponse resp
  · obtain ⟨resp, ht, hc⟩ := hr
    simp only [answerTo, DApp.receive, ht, hc, DApp.handleSubscriptionResponse, DApp.isForUs, ha]
    by_cases hd : resp.dappIdentifier = d
    · exact .inr ⟨_, if_pos hd, by simp [hd, applyResponse_eq]⟩
    · exact .inl (by simp [hd, Ne.symm hd])
  · left
    constructor
    · unfold answerTo
      split
      · exact absurd ⟨_, ‹_›, ‹_›⟩ hr
      · rfl
    · unfold DApp.receive
      split
      · exact absurd ⟨_, ‹_›, ‹_›⟩ hr
      · rfl
      · rfl
      · rfl
      · exact absurd ‹_› (hpdu _)
      · rfl

theorem Linked.dappReceive (h : Linked id n T) (hs : n.step (.dappReceive i) = some n') :
    Linked id n' T ∧ Simulated id n T (.dappReceive i) n' T := by
  simp only [step] at hs
  split at hs
  swap
  · exact nomatch hs
  rename_i m rest hatt hdown
  obtain rfl := Option.some.inj hs
  have hmem : m ∈ n.down i := by simp [hdown]
  have hrest : rest ⊆ n.down i := hdown ▸ List.subset_cons_self m rest
  rcases receive_cases n.now (h.assigned i) (h.down i m hmem) with ⟨hans, heq⟩ |
    ⟨b, hans, heq⟩
  · rw [heq, Function.update_eq_self]
    refine ⟨⟨h.represents, h.attached, h.assigned, h.up,
      fun j p hp => h.down j p (update_subset hrest j hp)⟩, Simulated.refl fun j => ?_⟩
    by_cases hj : j = i
    · subst hj
      simp [session, hdown, hans]
    · simp [session, Function.update_of_ne hj]
  · rw [heq]
    refine ⟨⟨h.represents, h.attached, h.assigned_update (recordEffect_assigned _ _ _), h.up,
      fun j p hp => h.down j p (update_subset hrest j hp)⟩,
      .of_step (i := i) (e := .other) ?_ trivial fun j hj => ?_⟩
    · have hanswered : (n.session T i (id i)).answered =
          b :: rest.filterMap fun m => answerTo (id i) m.pdu := by
        simp [session, hdown, hans]
      convert Session.Step.hear hanswered using 1
      obtain ⟨hrec, hexp⟩ := recordEffect_lookup (x := (n.dapp i).state)
        (s := { n.session T i (id i) with
          pending := Function.update (n.session T i (id i)).pending b.requestId none
          answered := rest.filterMap fun m => answerTo (id i) m.pdu }) rfl rfl
        (effect ((n.session T i (id i)).pending b.requestId) b)
      apply Session.ext
      · simp [session]
      · simp [session, Finmap.lookup_erase_eq_update]
      · rw [hrec]
        simp [session]
      · rw [hexp]
        simp [session]
      · simp [session]
      · simp [session]
      · simp [session]
    · simp only [session, Function.update_of_ne hj]

theorem Linked.dappSweep (h : Linked id n T) (hs : n.step (.dappSweep i order) = some n') :
    Linked id n' T ∧ Simulated id n T (.dappSweep i order) n' T := by
  obtain ⟨hcond, rfl⟩ := of_check hs
  refine ⟨⟨h.represents, h.attached, h.assigned_update (expireSubscriptions_assigned n.now order _),
    h.up, h.down⟩, .of_step (i := i) (e := .other) ?_ trivial fun j hj => ?_⟩
  · -- the sweep visits every RAN function that has a deadline
    have hout : ∀ f, f ∈ order ∧ RanOut (n.dapp i).state n.now f ↔
        (n.session T i (id i)).ranOut f = true := by
      intro f
      rw [Session.ranOut_iff]
      refine and_iff_right_of_imp ?_
      rintro ⟨t, ht, -⟩
      rw [hcond.2.mem_iff, Finmap.mem_keys]
      exact Finmap.mem_of_lookup_eq_some ht
    convert Session.Step.dappSweep using 1
    apply Session.ext
    · rfl
    · simp [session]
    · funext f
      simp only [session, Function.update_self]
      exact (expireSubscriptions_lookup n.now f order _).1.trans (if_congr (hout f) rfl rfl)
    · funext f
      simp only [session, Function.update_self]
      exact (expireSubscriptions_lookup n.now f order _).2.trans (if_congr (hout f) rfl rfl)
    · rfl
    · rfl
    · rfl
  · simp only [session, Function.update_of_ne hj]

theorem Linked.ranSweep {order : List UInt64} (h : Linked id n T)
    (hs : n.step (.ranSweep order) = some n') :
    Linked id n' (T.sweep n.now) ∧ Simulated id n T (.ranSweep order) n' (T.sweep n.now) := by
  obtain ⟨ho, rfl⟩ := of_check hs
  exact ⟨⟨(expireSubscriptions_spec h.represents n.now ho).1, h.attached, h.assigned, h.up,
    h.down⟩, fun j => ⟨.other, .ranSweep, trivial⟩⟩

/-- Each step of the network that is part of the exchange is a step of every dApp's session. -/
theorem Linked.step (hid : Function.Injective id) (h : Linked id n T) (ha : a.exchange = true)
    (hm : n.FreshIds a) (hs : n.step a = some n') :
    ∃ T', Linked id n' T' ∧ Simulated id n T a n' T' := by
  cases a with
  | tick elapsed =>
    obtain rfl := Option.some.inj hs
    refine ⟨T, ⟨h.represents, h.attached, h.assigned, h.up, h.down⟩, fun j => ?_⟩
    exact ⟨.other, .elapse (by simp [session]), trivial⟩
  | subscribe i stamp f ts cs time period queued => exact ⟨T, h.subscribe hm hs⟩
  | unsubscribe i stamp f queued => exact ⟨T, h.unsubscribe hm hs⟩
  | ranReceive i stamp order => exact h.ranReceive hid hs
  | dappReceive i => exact ⟨T, h.dappReceive hs⟩
  | ranSweep order => exact ⟨_, h.ranSweep hs⟩
  | dappSweep i order => exact ⟨T, h.dappSweep hs⟩
  | ranSend pdu =>
    obtain rfl := Option.some.inj hs
    exact ⟨T, h.ranSend ha⟩
  | release i stamp queued => exact nomatch ha
  | control i stamp f c data sequenceId queued => exact nomatch ha
  | report i stamp f data sequenceId queued => exact nomatch ha
  | smAck k stamp responseCode cause detail => exact nomatch ha
  | attach i => exact nomatch ha
  | detach i => exact nomatch ha
  | setup i stamp mid => exact nomatch ha
  | setupReply i => exact nomatch ha

/-- dApps that have completed setup, each with an identifier of its own, and have not subscribed. -/
structure Deployed (id : ι → UInt32) (n : Net ι) : Prop where
  distinct : Function.Injective id
  represents : ∃ T, Represents n.ran.mgr T ∧ ∀ i f, T.entry (id i) f = none
  registered : ∀ i, id i ∈ n.ran.mgr.registeredDapps
  attached : ∀ i, n.attached i = true
  assigned : ∀ i, (n.dapp i).state.assignedDappId = some (id i)
  pending : ∀ i, (n.dapp i).pendingSubscriptions = ∅
  recorded : ∀ i, (n.dapp i).state.ranFunctionToSubscriptionId = ∅
  expiry : ∀ i, (n.dapp i).state.ranFunctionExpiry = ∅
  up : ∀ i, n.up i = []
  down : ∀ i, n.down i = []

omit [DecidableEq ι] in
theorem Deployed.linked (h : Deployed id n) :
    ∃ T, Linked id n T ∧ ∀ i, n.session T i (id i) = .start n.now := by
  obtain ⟨T, hT, hnone⟩ := h.represents
  refine ⟨T, ⟨hT, h.attached, h.assigned, fun i => ?_, fun i => ?_⟩, fun i => ?_⟩
  · simp [h.up i]
  · simp [h.down i]
  · simp only [session, Session.start, h.pending i, h.recorded i, h.expiry i, h.up i, h.down i,
      Finmap.lookup_empty, List.filterMap_nil]
    congr 1
    funext f
    exact hnone i f

/-- A RAN with Service Models for the RAN functions 7 and 8, and a dApp that was assigned
identifier 1. -/
def oneDapp : Net Unit where
  ran :=
    { Ran.initialized {} with
      state := .running
      mgr := fresh.registerDapp.mgr
      registry := ((SmRegistry.empty.registerSm (some model7)).2.registerSm
        (some { model7 with ranFunctionId := 8 })).2 }
  now := 0
  dapp _ := { DApp.fresh with
    state := { DAppSubscriptionState.fresh with assignedDappId := some 1 } }
  attached _ := true
  awaiting _ := false
  up _ := []
  down _ := []
  reply _ := []
  holder d := if d = 1 then some () else none
  log := []

theorem deployed_oneDapp : Deployed (fun _ => 1) oneDapp where
  distinct _ _ _ := rfl
  represents := by
    obtain ⟨d, hd, -, -, hrep⟩ := registerDapp_free represents_fresh
      ⟨1, by decide, Set.notMem_empty 1⟩
    exact ⟨_, hrep, fun _ _ => rfl⟩
  registered _ := by decide +kernel
  attached _ := rfl
  assigned _ := rfl
  pending _ := rfl
  recorded _ := rfl
  expiry _ := rfl
  up _ := rfl
  down _ := rfl

end Net

end LibE3
