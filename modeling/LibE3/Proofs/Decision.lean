import LibE3.Proofs.FailedCalls
import LibE3.Proofs.RanQueue
import LibE3.Proofs.RanSpec

/-!
# What the RAN grants and what it refuses

A subscription request is granted when five conditions hold. The first one that fails, in the order
in which the RAN looks at them, gives the cause of the refusal. A delete ends the one subscription
it names, but the handler never learns that a dApp is not registered. Neither handler learns that
its answer was not queued.
-/

namespace LibE3

open SubscriptionManager Runs

/-! ## What serves a RAN function -/

namespace SmRegistry

variable {registry : SmRegistry} {f : UInt32} {sm : ServiceModel}

/-- The Service Model of a RAN function: the registered one, or the one that its factory makes. -/
def Serves (registry : SmRegistry) (f : UInt32) (sm : ServiceModel) : Prop :=
  registry.sms.lookup f = some sm ∨
    registry.sms.lookup f = none ∧ registry.factories.lookup f = some (some sm) ∧
      sm.initResult = .success

/-- Every Service Model is as it was, or as its factory made it. -/
def StartsNone (registry registry' : SmRegistry) : Prop :=
  ∀ f sm, registry'.sms.lookup f = some sm →
    registry.sms.lookup f = some sm ∨ registry.factories.lookup f = some (some sm)

theorem StartsNone.refl (registry : SmRegistry) : StartsNone registry registry :=
  fun _ _ h => .inl h

theorem getByRanFunction_eq_some : (registry.getByRanFunction f).1 = some sm ↔
    registry.Serves f sm := by
  unfold getByRanFunction Serves
  cases registry.sms.lookup f with
  | some sm' => simp
  | none =>
    rcases registry.factories.lookup f with _ | _ | sm'
    · simp
    · simp
    · simp only
      split_ifs with hinit
      · simp only [Option.some.injEq, true_and, false_or]
        exact ⟨fun h => ⟨h, h ▸ hinit⟩, And.left⟩
      · simp only [Option.some.injEq, true_and, false_or, false_iff]
        rintro ⟨rfl, hinit'⟩
        exact hinit hinit'

theorem getByRanFunction_eq_none : (registry.getByRanFunction f).1 = none ↔
    ∀ sm, ¬ registry.Serves f sm := by
  simp only [← getByRanFunction_eq_some, Option.eq_none_iff_forall_ne_some, ne_eq]

theorem startsNone_getByRanFunction (registry : SmRegistry) (f : UInt32) :
    StartsNone registry (registry.getByRanFunction f).2 := by
  unfold getByRanFunction
  cases registry.sms.lookup f with
  | some sm' => exact StartsNone.refl registry
  | none =>
    rcases hf : registry.factories.lookup f with _ | _ | sm'
    · exact StartsNone.refl registry
    · exact StartsNone.refl registry
    · simp only
      split_ifs
      · intro g sm hg
        rw [Finmap.lookup_insert_ite] at hg
        split_ifs at hg with hgf
        · rw [hgf, hf, hg]
          exact .inr rfl
        · exact .inl hg
      · exact StartsNone.refl registry

end SmRegistry

/-! ## What a request asks for -/

namespace SubscriptionRequest

def NamesSome (request : SubscriptionRequest) : Prop :=
  request.telemetryIdentifierList ≠ [] ∨ request.controlIdentifierList ≠ []

/-- Every identifier that the request names is one of the Service Model's. -/
def OfferedBy (request : SubscriptionRequest) (sm : ServiceModel) : Prop :=
  (∀ id ∈ request.telemetryIdentifierList, id ∈ sm.telemetryIds) ∧
    ∀ id ∈ request.controlIdentifierList, id ∈ sm.controlIds

end SubscriptionRequest

/-- Why `refusal_for_subscription` refuses a request, or `none` when it does not. -/
inductive RefusedFor (registry : SmRegistry) (request : SubscriptionRequest) : Option Cause → Prop
  | unserved (h : ∀ sm, ¬ registry.Serves request.ranFunctionIdentifier sm) :
    RefusedFor registry request (some .unsupportedRanFunction)
  | nothing {sm : ServiceModel} (hs : registry.Serves request.ranFunctionIdentifier sm)
      (h : ¬ request.NamesSome) : RefusedFor registry request (some .invalidRequest)
  | unknown {sm : ServiceModel} (hs : registry.Serves request.ranFunctionIdentifier sm)
      (hn : request.NamesSome) (h : ¬ request.OfferedBy sm) :
    RefusedFor registry request (some .unsupportedIdentifier)
  | accepted {sm : ServiceModel} (hs : registry.Serves request.ranFunctionIdentifier sm)
      (hn : request.NamesSome) (h : request.OfferedBy sm) : RefusedFor registry request none

theorem refusedFor (registry : SmRegistry) (request : SubscriptionRequest) :
    RefusedFor registry request
      ((refusalForSubscription registry request).1.map Refusal.cause) := by
  simp only [refusalForSubscription]
  cases hsm : (registry.getByRanFunction request.ranFunctionIdentifier).1 with
  | none => exact .unserved (SmRegistry.getByRanFunction_eq_none.mp hsm)
  | some sm =>
    have hs := SmRegistry.getByRanFunction_eq_some.mp hsm
    simp only
    split_ifs with hempty
    · exact .nothing hs (by simp [SubscriptionRequest.NamesSome, hempty.1, hempty.2])
    · have hn : request.NamesSome := by
        rwa [SubscriptionRequest.NamesSome, ← not_and_or]
      split
      · rename_i id hid
        refine .unknown hs hn fun hoff => ?_
        have hnot := List.find?_some hid
        simp only [Bool.not_eq_true', List.contains_eq_mem, decide_eq_false_iff_not] at hnot
        exact hnot (hoff.1 id (List.mem_of_find?_eq_some hid))
      · rename_i htel
        split
        · rename_i id hid
          refine .unknown hs hn fun hoff => ?_
          have hnot := List.find?_some hid
          simp only [Bool.not_eq_true', List.contains_eq_mem, decide_eq_false_iff_not] at hnot
          exact hnot (hoff.2 id (List.mem_of_find?_eq_some hid))
        · rename_i hctl
          refine .accepted hs hn ⟨?_, ?_⟩
          · simpa using htel
          · simpa using hctl

/-! ## The decision -/

namespace Ran

variable {r : Ran} {request : SubscriptionRequest}

/-- The pair is subscribed already, or a subscription identifier is free. -/
def HasRoom (r : Ran) (request : SubscriptionRequest) : Prop :=
  request.ranFunctionIdentifier ∈ r.mgr.dappSubscriptions.ref request.dappIdentifier ∨
    ∃ id, InIdRange id ∧ id ∉ r.mgr.subscriptionIds

/-- What a request needs to be granted. -/
structure Grants (r : Ran) (request : SubscriptionRequest) : Prop where
  registered : request.dappIdentifier ∈ r.mgr.registeredDapps
  served : ∃ sm, r.registry.Serves request.ranFunctionIdentifier sm
  namesSome : request.NamesSome
  offered : ∀ sm, r.registry.Serves request.ranFunctionIdentifier sm → request.OfferedBy sm
  hasRoom : r.HasRoom request

/-- The first of these that fails, and its cause. -/
inductive FirstFailing (r : Ran) (request : SubscriptionRequest) : Cause → Prop
  | registered (h : request.dappIdentifier ∉ r.mgr.registeredDapps) :
    FirstFailing r request .setupRequired
  | served (hd : request.dappIdentifier ∈ r.mgr.registeredDapps)
      (h : ∀ sm, ¬ r.registry.Serves request.ranFunctionIdentifier sm) :
    FirstFailing r request .unsupportedRanFunction
  | namesSome (hd : request.dappIdentifier ∈ r.mgr.registeredDapps) {sm : ServiceModel}
      (hs : r.registry.Serves request.ranFunctionIdentifier sm) (h : ¬ request.NamesSome) :
    FirstFailing r request .invalidRequest
  | offered (hd : request.dappIdentifier ∈ r.mgr.registeredDapps) {sm : ServiceModel}
      (hs : r.registry.Serves request.ranFunctionIdentifier sm) (hn : request.NamesSome)
      (h : ¬ request.OfferedBy sm) : FirstFailing r request .unsupportedIdentifier
  | hasRoom (hd : request.dappIdentifier ∈ r.mgr.registeredDapps) {sm : ServiceModel}
      (hs : r.registry.Serves request.ranFunctionIdentifier sm) (hn : request.NamesSome)
      (ho : request.OfferedBy sm) (h : ¬ r.HasRoom request) :
    FirstFailing r request .resourceExhausted

theorem FirstFailing.not_grants {cause : Cause} (h : r.FirstFailing request cause) :
    ¬ r.Grants request := by
  intro hg
  cases h with
  | registered h => exact h hg.registered
  | served hd h =>
    obtain ⟨sm, hs⟩ := hg.served
    exact h sm hs
  | namesSome hd hs h => exact h hg.namesSome
  | offered hd hs hn h => exact h (hg.offered _ hs)
  | hasRoom hd hs hn ho h => exact h hg.hasRoom

/-- A refusal: its cause is that of the first condition that fails, and nothing has changed. -/
structure Refused (r : Ran) (request : SubscriptionRequest) (r' : Ran) (refusal : Refusal) :
    Prop where
  failing : r.FirstFailing request refusal.cause
  mgr : HoldsTheSame r.mgr r'.mgr
  registry : r.registry.StartsNone r'.registry

theorem startsNone_refusalForSubscription (registry : SmRegistry) (request : SubscriptionRequest) :
    registry.StartsNone (refusalForSubscription registry request).2 :=
  SmRegistry.startsNone_getByRanFunction registry request.ranFunctionIdentifier

theorem decideSubscription_of_accepted {T : Table} {sm : ServiceModel} (h : Represents r.mgr T)
    (now : TimePoint) (hd : request.dappIdentifier ∈ r.mgr.registeredDapps)
    (href : (refusalForSubscription r.registry request).1 = none)
    (hs : r.registry.Serves request.ranFunctionIdentifier sm) (hn : request.NamesSome)
    (ho : request.OfferedBy sm) :
    (∃ id, (r.decideSubscription now request).2 = .inl id ∧ r.HasRoom request) ∨
      ∃ refusal, (r.decideSubscription now request).2 = .inr refusal ∧
        r.Refused request (r.decideSubscription now request).1 refusal := by
  obtain ⟨T', ha, -, -⟩ := addSubscription_spec h now request.dappIdentifier
    request.ranFunctionIdentifier request.telemetryIdentifierList request.controlIdentifierList
    (request.periodicity.getD 0) (request.subscriptionTime.getD 0)
  have hreg : r.mgr.isDappRegistered request.dappIdentifier = true := decide_eq_true hd
  rw [decideSubscription_of_none hreg href]
  change T.Added now _ _ _ (addRequest r.mgr now request).ret T' at ha
  generalize hret : (addRequest r.mgr now request).ret = ret at ha
  cases ha with
  | unregistered hno => exact absurd ((h.registered _).mp hd) hno
  | held he hx => exact .inl ⟨_, rfl, .inl ((h.subs _ _).mpr (by rw [he]; rfl))⟩
  | renewed he hx hg => exact .inl ⟨_, rfl, .inl ((h.subs _ _).mpr (by rw [he]; rfl))⟩
  | new hnone hlf hg =>
    refine .inl ⟨_, rfl, .inr ⟨_, hlf.range, ?_⟩⟩
    exact fun hmem => hlf.free (h.mem_subscriptionIds.mp hmem)
  | full hdT hnone hall =>
    obtain ⟨hsame, hchecks⟩ := addSubscription_full h hdT hnone hall now
      request.telemetryIdentifierList request.controlIdentifierList
      (request.periodicity.getD 0) (request.subscriptionTime.getD 0)
    refine .inr ⟨_, rfl, .hasRoom hd hs hn ho ?_, hsame, ?_⟩
    · rintro (hmem | ⟨id, hid, hfree⟩)
      · rw [h.subs, hnone] at hmem
        exact Bool.false_ne_true hmem
      · exact hfree (h.mem_subscriptionIds.mpr (hall id hid))
    · change (addRequest r.mgr now request).checks = [] at hchecks
      simp only [locked, Locked.callbacks, hchecks, List.filterMap_nil, List.foldl_nil]
      exact startsNone_refusalForSubscription r.registry request

/-- The RAN grants a request that meets the conditions, and otherwise refuses it for the first
one that fails. -/
theorem decideSubscription_cases {T : Table} (h : Represents r.mgr T) (now : TimePoint)
    (request : SubscriptionRequest) :
    (∃ id, (r.decideSubscription now request).2 = .inl id ∧ r.Grants request) ∨
      ∃ refusal, (r.decideSubscription now request).2 = .inr refusal ∧
        r.Refused request (r.decideSubscription now request).1 refusal := by
  by_cases hd : request.dappIdentifier ∈ r.mgr.registeredDapps
  · have hreg : r.mgr.isDappRegistered request.dappIdentifier = true := decide_eq_true hd
    have hstarts := startsNone_refusalForSubscription r.registry request
    have hcause := refusedFor r.registry request
    cases href : (refusalForSubscription r.registry request).1 with
    | some refusal =>
      rw [href, Option.map_some] at hcause
      rw [decideSubscription_of_refusal hreg href]
      refine .inr ⟨refusal, rfl, ?_, .refl _, hstarts⟩
      generalize refusal.cause = cause at hcause
      cases hcause with
      | unserved hno => exact .served hd hno
      | nothing hs hno => exact .namesSome hd hs hno
      | unknown hs hn hno => exact .offered hd hs hn hno
    | none =>
      rw [href, Option.map_none] at hcause
      cases hcause with
      | accepted hs hn ho =>
        refine (decideSubscription_of_accepted h now hd href hs hn ho).imp_left ?_
        rintro ⟨id, hid, hroom⟩
        refine ⟨id, hid, hd, ⟨_, hs⟩, hn, fun sm' hs' => ?_, hroom⟩
        rw [← SmRegistry.getByRanFunction_eq_some] at hs hs'
        rw [Option.some.inj (hs'.symm.trans hs)]
        exact ho
  · have hreg : r.mgr.isDappRegistered request.dappIdentifier = false := decide_eq_false hd
    rw [decideSubscription_of_unregistered hreg]
    exact .inr ⟨_, rfl, .registered hd, .refl _, .refl _⟩

end Ran

/-- After any history and with any Service Models and factories, the RAN passes one answer to a
subscription request to `queue_outbound`, which is queued exactly if there is room: a positive one
when the request meets the conditions, and otherwise one with the cause of the first condition that
fails, and then the RAN holds what it held and has started no Service Model. -/
theorem subscription_decided {config : E3Config} {labels : List RanInterface.Label}
    {s : RanInterface} (hrun : run RanInterface.step (.initialized config) labels = some s)
    (registry : SmRegistry) (now : TimePoint) (stamp : UInt64) (request : SubscriptionRequest)
    (mid : UInt32) :
    let r := { s.ran with registry := registry }
    let out := RanInterface.handleSubscriptionRequest ⟨s.e, r⟩ now stamp request mid
    ∃ pdu resp, out.e = (s.e.queueOutbound pdu).2 ∧ (s.e.HasRoom → s.e.Queued pdu out.e) ∧
      (¬ s.e.HasRoom → out.e = s.e) ∧
      pdu.type = .subscriptionResponse ∧ pdu.choice = .subscriptionResponse resp ∧
      resp.requestId = mid ∧ resp.dappIdentifier = request.dappIdentifier ∧
      (resp.responseCode = .positive ↔ r.Grants request) ∧
      (resp.responseCode = .negative → ∃ cause, resp.cause = some cause ∧
        r.FirstFailing request cause ∧ HoldsTheSame r.mgr out.ran.mgr ∧
        r.registry.StartsNone out.ran.registry) := by
  intro r out
  obtain ⟨T, h⟩ := Ran.run_represents (RanInterface.simulates_run hrun)
  have hrep : Represents r.mgr T := h
  refine ⟨(r.handleSubscriptionRequest now stamp request mid).2, ?_⟩
  rcases Ran.decideSubscription_cases hrep now request with ⟨id, hid, hg⟩ |
    ⟨refusal, href, hfail, hmgr, hregistry⟩
  · refine ⟨_, rfl, E3Interface.queued_queueOutbound, E3Interface.queueOutbound_of_not_hasRoom,
      rfl, handleSubscriptionRequest_granted hid stamp mid, rfl, rfl, ?_, ?_⟩
    · exact iff_of_true rfl hg
    · exact fun hneg => nomatch hneg
  · refine ⟨_, rfl, E3Interface.queued_queueOutbound, E3Interface.queueOutbound_of_not_hasRoom,
      rfl, handleSubscriptionRequest_refused href stamp mid, rfl, rfl, ?_, ?_⟩
    · exact iff_of_false (fun hpos => nomatch hpos) hfail.not_grants
    · exact fun _ => ⟨_, rfl, hfail, hmgr, hregistry⟩

/-- A Service Model is registered, and a dApp has completed its setup. -/
def setUp : List RanInterface.Label :=
  [.ran (.registerSm (some model7)), .ran (.start .success .success), .ran (.setupRequest 0 5)]

/-- A first request for a telemetry identifier that the Service Model has is granted. -/
theorem subscription_decided_first :
    ∃ s, run RanInterface.step (.initialized {}) setUp = some s ∧
      ∃ pdu resp, s.e.Queued pdu
          (s.handleSubscriptionRequest 0 0 ⟨1, 7, [1], [], none, none⟩ 6).e ∧
        pdu.choice = .subscriptionResponse resp ∧ resp.requestId = 6 ∧
        resp.responseCode = .positive := by
  refine exists_run (fun s => 1 ∈ s.ran.mgr.registeredDapps ∧
    s.ran.registry.sms.lookup 7 = some model7 ∧ 1 ∉ s.ran.mgr.subscriptionIds ∧
    s.e.responseQueue = some ⟨128, [], false⟩) (by decide +kernel) fun s hrun hs => ?_
  obtain ⟨hd, hsm, hfree, hqueue⟩ := hs
  obtain ⟨pdu, resp, -, hqueued, -, -, hc, hmid, -, hpos, -⟩ :=
    subscription_decided hrun s.ran.registry 0 0 ⟨1, 7, [1], [], none, none⟩ 6
  have hoffered : ∀ sm, s.ran.registry.Serves 7 sm →
      SubscriptionRequest.OfferedBy ⟨1, 7, [1], [], none, none⟩ sm := by
    rintro sm (hl | ⟨hl, -⟩)
    · rw [← Option.some.inj (hsm.symm.trans hl)]
      exact ⟨fun _ h => h, fun _ h => nomatch h⟩
    · exact nomatch hsm.symm.trans hl
  refine ⟨pdu, resp, hqueued ⟨_, hqueue, rfl, by decide⟩, hc, hmid, hpos.mpr ?_⟩
  exact ⟨hd, ⟨model7, .inl hsm⟩, .inl (List.cons_ne_nil _ _), hoffered,
    .inr ⟨1, by decide, hfree⟩⟩

/-- With a full queue the same request is granted as well, and the dApp is never told. -/
theorem subscription_answer_refused :
    ∃ s, run RanInterface.step (.initialized {}) (setUp ++ RanInterface.filling) = some s ∧
      s.e.state = .running ∧
      let out := s.handleSubscriptionRequest 0 0 ⟨1, 7, [1], [], none, none⟩ 6
      7 ∈ out.ran.mgr.dappSubscriptions.ref 1 ∧ out.e.responseQueue = s.e.responseQueue := by
  exact exists_run _ (by decide +kernel) fun _ _ h => h

/-! ## Deletes -/

/-- `m'` is `m` without the subscription of the pair, whose identifier is `id`. -/
structure RemovesOnly (m m' : SubscriptionManager) (d f id : UInt32) : Prop where
  gone : m'.isSubscribed d f = false ∧ m'.getSubscriptionDetails d f = none ∧
    m'.subscriptionIds.lookup id = none
  others : ∀ d' f', ¬ (d' = d ∧ f' = f) → m'.isSubscribed d' f' = m.isSubscribed d' f' ∧
    m'.getSubscriptionDetails d' f' = m.getSubscriptionDetails d' f' ∧
    m'.subscriptionIdReverse.lookup (makeSubKey d' f') =
      m.subscriptionIdReverse.lookup (makeSubKey d' f')
  ids : ∀ id', id' ≠ id → m'.subscriptionIds.lookup id' = m.subscriptionIds.lookup id'
  registered : ∀ d', m'.isDappRegistered d' = m.isDappRegistered d'

theorem Represents.removesOnly {m m' : SubscriptionManager} {T : Table} {d f : UInt32} {e : Entry}
    (h : Represents m T) (h' : Represents m' (T.drop d f)) (he : T.entry d f = some e) :
    RemovesOnly m m' d f e.id := by
  have hnone : (T.drop d f).entry d f = none := by
    rw [Table.entry_drop, if_pos ⟨rfl, rfl⟩]
  refine ⟨⟨?_, ?_, ?_⟩, fun d' f' hp => ⟨?_, ?_, ?_⟩, fun id' hid => ?_, fun d' => ?_⟩
  · rw [Bool.eq_false_iff, ne_eq, h'.isSubscribed_iff, hnone]
    exact Bool.false_ne_true
  · rw [h'.getSubscriptionDetails_eq, hnone]
    rfl
  · rw [Finmap.lookup_eq_none, h'.mem_subscriptionIds]
    rintro ⟨d', f', e', he', hid⟩
    rw [Table.entry_drop] at he'
    split_ifs at he' with hp
    exact hp (T.id_inj he' he hid)
  · rw [Bool.eq_iff_iff, h'.isSubscribed_iff, h.isSubscribed_iff, Table.entry_drop, if_neg hp]
  · rw [h'.getSubscriptionDetails_eq, h.getSubscriptionDetails_eq, Table.entry_drop, if_neg hp]
  · rw [h'.reverse, h.reverse, Table.entry_drop, if_neg hp]
  · refine Option.ext fun ⟨d', f'⟩ => ?_
    rw [h'.ids, h.ids, Table.entry_drop]
    split_ifs with hp
    · obtain ⟨rfl, rfl⟩ := hp
      refine iff_of_false (fun ⟨_, hn, _⟩ => nomatch hn) ?_
      rintro ⟨e', he', rfl⟩
      rw [Option.some.inj (he'.symm.trans he)] at hid
      exact hid rfl
    · rfl
  · rw [Bool.eq_iff_iff]
    simp only [isDappRegistered, decide_eq_true_eq, h'.registered, h.registered]
    rfl

/-- What a delete from the state `r` is to be answered with, and what it is to leave. -/
inductive DeleteAnswer (r : Ran) (del : SubscriptionDelete) (r' : Ran) :
    SubscriptionResponse → Prop
  | setupRequired {resp : SubscriptionResponse} (hd : del.dappIdentifier ∉ r.mgr.registeredDapps)
      (hcode : resp.responseCode = .negative) (hcause : resp.cause = some .setupRequired) :
    DeleteAnswer r del r' resp
  | removed {resp : SubscriptionResponse} {f : UInt32}
      (hd : del.dappIdentifier ∈ r.mgr.registeredDapps)
      (hheld : r.mgr.subscriptionIds.lookup del.subscriptionId = some (del.dappIdentifier, f))
      (hcode : resp.responseCode = .positive) (hid : resp.subscriptionId = some del.subscriptionId)
      (hremoves : RemovesOnly r.mgr r'.mgr del.dappIdentifier f del.subscriptionId) :
    DeleteAnswer r del r' resp
  | notFound {resp : SubscriptionResponse} (hd : del.dappIdentifier ∈ r.mgr.registeredDapps)
      (hnone : ∀ f, r.mgr.subscriptionIds.lookup del.subscriptionId ≠ some (del.dappIdentifier, f))
      (hcode : resp.responseCode = .negative) (hcause : resp.cause = some .notFound)
      (hmgr : r'.mgr = r.mgr) (hregistry : r'.registry = r.registry) : DeleteAnswer r del r' resp

/-- One response is queued, to the message and the dApp of the delete, and it is the right one. -/
def DeleteAnswered (s : RanInterface) (stamp : UInt64) (del : SubscriptionDelete) (mid : UInt32) :
    Prop :=
  let out := s.handleSubscriptionDelete stamp del mid
  ∃ pdu resp, s.e.Queued pdu out.e ∧ pdu.type = .subscriptionResponse ∧
    pdu.choice = .subscriptionResponse resp ∧ resp.requestId = mid ∧
    resp.dappIdentifier = del.dappIdentifier ∧ DeleteAnswer s.ran del out.ran resp

theorem handleSubscriptionDelete_none {r : Ran} {T : Table} (h : Represents r.mgr T)
    (stamp : UInt64) (del : SubscriptionDelete) (mid : UInt32)
    (hn : ∀ f e, T.entry del.dappIdentifier f = some e → e.id ≠ del.subscriptionId) :
    (r.handleSubscriptionDelete stamp del mid).1.mgr = r.mgr ∧
      (r.handleSubscriptionDelete stamp del mid).1.registry = r.registry ∧
      (r.handleSubscriptionDelete stamp del mid).2.choice =
        .subscriptionResponse (deleteResponse del mid false) := by
  have hret := removeSubscriptionById_none h hn
  refine ⟨?_, ?_, ?_⟩ <;>
    simp [Ran.handleSubscriptionDelete, Ran.locked, Locked.callbacks, hret, deleteResponse]

theorem registered_of_deleteAnswered {s : RanInterface} {T : Table} (h : Represents s.ran.mgr T)
    {stamp : UInt64} {del : SubscriptionDelete} {mid : UInt32}
    (hanswered : DeleteAnswered s stamp del mid) :
    del.dappIdentifier ∈ s.ran.mgr.registeredDapps ∧ s.e.HasRoom := by
  obtain ⟨pdu, resp, hqueued, -, hresp, -, -, hanswer⟩ := hanswered
  have hroom := E3Interface.queued_queueOutbound_iff.mp ⟨pdu, hqueued⟩
  refine ⟨?_, hroom⟩
  by_contra hd
  have hn : ∀ f e, T.entry del.dappIdentifier f = some e → e.id ≠ del.subscriptionId := by
    intro f e he
    exact absurd ((h.registered _).mpr (T.entry_registered he)) hd
  obtain ⟨-, -, hchoice⟩ := handleSubscriptionDelete_none h stamp del mid hn
  rw [hqueued.unique (E3Interface.queued_queueOutbound hroom)] at hresp
  obtain rfl := PduChoice.subscriptionResponse.inj (hchoice.symm.trans hresp)
  cases hanswer with
  | setupRequired _ _ hcause => exact nomatch hcause
  | removed hd' => exact hd hd'
  | notFound hd' => exact hd hd'

/-- After any history and with any Service Models, a delete is answered as it is to be exactly when
its dApp is registered and the outbound queue has room. -/
theorem deleteAnswered_iff_registered {config : E3Config} {labels : List RanInterface.Label}
    {s : RanInterface} (hrun : run RanInterface.step (.initialized config) labels = some s)
    (registry : SmRegistry) (stamp : UInt64) (del : SubscriptionDelete) (mid : UInt32) :
    DeleteAnswered ⟨s.e, { s.ran with registry := registry }⟩ stamp del mid ↔
      del.dappIdentifier ∈ s.ran.mgr.registeredDapps ∧ s.e.HasRoom := by
  obtain ⟨T, h⟩ := Ran.run_represents (RanInterface.simulates_run hrun)
  have hrep : Represents ({ s.ran with registry := registry } : Ran).mgr T := h
  refine ⟨fun hanswered => registered_of_deleteAnswered
    (s := ⟨s.e, { s.ran with registry := registry }⟩) h hanswered, fun ⟨hd, hroom⟩ => ?_⟩
  have hqueued : s.e.Queued _ (s.e.queueOutbound (Ran.handleSubscriptionDelete
      { s.ran with registry := registry } stamp del mid).2).2 :=
    E3Interface.queued_queueOutbound hroom
  rcases handleSubscriptionDelete_spec hrep stamp del mid with
    ⟨f, e, he, hid, hchoice, hrep'⟩ | ⟨hn, hchoice, -⟩
  · have hheld := (h.ids del.subscriptionId del.dappIdentifier f).mpr ⟨e, he, hid⟩
    have hremoves := hrep.removesOnly hrep' he
    rw [hid] at hremoves
    exact ⟨_, _, hqueued, rfl, hchoice, rfl, rfl, .removed hd hheld rfl rfl hremoves⟩
  · obtain ⟨hmgr, hregistry, -⟩ := handleSubscriptionDelete_none hrep stamp del mid hn
    refine ⟨_, _, hqueued, rfl, hchoice, rfl, rfl,
      .notFound hd (fun f hheld => ?_) rfl rfl hmgr hregistry⟩
    obtain ⟨e, he, hid⟩ := (h.ids _ _ _).mp hheld
    exact hn f e he hid

/-- A dApp deletes the subscription it holds. -/
theorem deleteAnswered_iff_registered_held :
    ∃ s, run RanInterface.step (.initialized {})
        (setUp ++ [.ran (.subscriptionRequest 0 0 ⟨1, 7, [1], [], none, none⟩ 6)]) = some s ∧
      DeleteAnswered s 0 ⟨1, 1⟩ 7 := by
  refine exists_run (fun s => 1 ∈ s.ran.mgr.registeredDapps ∧
    s.e.responseQueue.map (fun queue =>
      (queue.isShutdown, decide (queue.ring.length < queue.capacity))) = some (false, true))
    (by decide +kernel) fun s hrun hs => ?_
  simp only [Option.map_eq_some_iff, Prod.mk.injEq, decide_eq_true_eq] at hs
  exact (deleteAnswered_iff_registered hrun s.ran.registry 0 ⟨1, 1⟩ 7).mpr hs

/-- A delete before any setup, with an empty queue. -/
theorem delete_before_setup_not_found :
    ∃ s, run RanInterface.step (.initialized {}) [.ran (.start .success .success)] = some s ∧
      s.e.responseQueue = some ⟨128, [], false⟩ ∧ 1 ∉ s.ran.mgr.registeredDapps ∧
      ¬ DeleteAnswered s 0 ⟨1, 1⟩ 7 := by
  refine exists_run (fun s => s.e.responseQueue = some ⟨128, [], false⟩ ∧
    1 ∉ s.ran.mgr.registeredDapps) (by decide +kernel) fun s hrun hs => ?_
  obtain ⟨T, h⟩ := Ran.run_represents (RanInterface.simulates_run hrun)
  exact ⟨hs.1, hs.2, fun hanswered => hs.2 (registered_of_deleteAnswered h hanswered).1⟩

end LibE3
