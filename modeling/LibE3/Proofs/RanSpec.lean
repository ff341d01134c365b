import LibE3.Lib.Partial
import LibE3.Ran
import LibE3.Proofs.Consistent
import LibE3.Proofs.Registry

/-!
# What the handlers of the RAN do to its table

The handlers of subscription requests and deletes, on the table that the manager represents.
-/

namespace LibE3

open SubscriptionManager Runs Partial

variable {r r' : Ran} {T : Table}

def requestDetails (now : TimePoint) (request : SubscriptionRequest) : SubscriptionDetails :=
  makeDetails now request.telemetryIdentifierList request.controlIdentifierList
    (request.periodicity.getD 0) (request.subscriptionTime.getD 0)

def addRequest (m : SubscriptionManager) (now : TimePoint) (request : SubscriptionRequest) :
    Locked (ErrorCode × UInt32) :=
  m.addSubscription now request.dappIdentifier request.ranFunctionIdentifier
    request.telemetryIdentifierList request.controlIdentifierList (request.periodicity.getD 0)
    (request.subscriptionTime.getD 0)

variable {now : TimePoint} {request : SubscriptionRequest}

theorem decideSubscription_of_unregistered
    (h : r.mgr.isDappRegistered request.dappIdentifier = false) :
    r.decideSubscription now request =
      (r, .inr ⟨.setupRequired, text "complete setup before subscribing"⟩) := by
  simp only [Ran.decideSubscription, h, Bool.not_false, if_true]

theorem decideSubscription_of_refusal {refusal : Refusal}
    (h : r.mgr.isDappRegistered request.dappIdentifier = true)
    (href : (refusalForSubscription r.registry request).1 = some refusal) :
    r.decideSubscription now request =
      ({ r with registry := (refusalForSubscription r.registry request).2 }, .inr refusal) := by
  simp only [Ran.decideSubscription, h, Bool.not_true, Bool.false_eq_true, if_false]
  rw [href]

theorem decideSubscription_of_none (h : r.mgr.isDappRegistered request.dappIdentifier = true)
    (href : (refusalForSubscription r.registry request).1 = none) :
    r.decideSubscription now request =
      (Ran.locked { r with registry := (refusalForSubscription r.registry request).2 }
          (addRequest r.mgr now request),
        Ran.subscriptionOutcome (addRequest r.mgr now request).ret) := by
  simp only [Ran.decideSubscription, h, Bool.not_true, Bool.false_eq_true, if_false]
  rw [href]
  rfl

theorem decideSubscription_spec (h : Represents r.mgr T) (now : TimePoint)
    (request : SubscriptionRequest) :
    (∃ refusal, (r.decideSubscription now request).2 = .inr refusal ∧
        Represents (r.decideSubscription now request).1.mgr T ∧
        (r.mgr.isDappRegistered request.dappIdentifier = true →
          (refusalForSubscription r.registry request).1 = none →
          T.entry request.dappIdentifier request.ranFunctionIdentifier = none)) ∨
      ∃ code id T', (r.decideSubscription now request).2 = .inl id ∧
        r.mgr.isDappRegistered request.dappIdentifier = true ∧
        (refusalForSubscription r.registry request).1 = none ∧
        (code = .success ∨ code = .subscriptionExists) ∧
        T.Added now request.dappIdentifier request.ranFunctionIdentifier
          (requestDetails now request) (code, id) T' ∧
        Represents (r.decideSubscription now request).1.mgr T' := by
  cases hreg : r.mgr.isDappRegistered request.dappIdentifier with
  | false =>
    left
    rw [decideSubscription_of_unregistered hreg]
    exact ⟨_, rfl, h, fun hreg' => nomatch hreg'⟩
  | true =>
    cases href : (refusalForSubscription r.registry request).1 with
    | some refusal =>
      left
      rw [decideSubscription_of_refusal hreg href]
      exact ⟨refusal, rfl, h, fun _ hnone => nomatch hnone⟩
    | none =>
      obtain ⟨T', ha, hrep, -⟩ := addSubscription_spec h now request.dappIdentifier
        request.ranFunctionIdentifier request.telemetryIdentifierList
        request.controlIdentifierList (request.periodicity.getD 0)
        (request.subscriptionTime.getD 0)
      rw [decideSubscription_of_none hreg href]
      change Represents (addRequest r.mgr now request).mgr T' at hrep
      change T.Added now _ _ _ (addRequest r.mgr now request).ret T' at ha
      generalize addRequest r.mgr now request = added at ha hrep ⊢
      obtain ⟨mgr, ret, checks⟩ := added
      cases ha with
      | unregistered hd =>
        refine absurd ?_ hd
        rw [isDappRegistered, decide_eq_true_eq] at hreg
        exact (h.registered _).mp hreg
      | held he hx =>
        exact .inr ⟨.subscriptionExists, _, T, rfl, rfl, rfl, .inr rfl, .held he hx, hrep⟩
      | renewed he hx hg =>
        exact .inr ⟨.success, _, _, rfl, rfl, rfl, .inl rfl, .renewed he hx hg, hrep⟩
      | full hd hn hall => exact .inl ⟨_, rfl, hrep, fun _ _ => hn⟩
      | new hn hid hg =>
        exact .inr ⟨.success, _, _, rfl, rfl, rfl, .inl rfl, .new hn hid hg, hrep⟩

def grantResponse (request : SubscriptionRequest) (mid id : UInt32) : SubscriptionResponse where
  requestId := mid
  dappIdentifier := request.dappIdentifier
  responseCode := .positive
  subscriptionId := some id
  telemetryIdentifierList := some request.telemetryIdentifierList
  controlIdentifierList := some request.controlIdentifierList
  ranFunctionIdentifier := some request.ranFunctionIdentifier
  periodicity := request.periodicity

theorem handleSubscriptionRequest_granted {id : UInt32}
    (h : (r.decideSubscription now request).2 = .inl id) (stamp : UInt64) (mid : UInt32) :
    (r.handleSubscriptionRequest now stamp request mid).2.choice =
      .subscriptionResponse (grantResponse request mid id) := by
  simp only [Ran.handleSubscriptionRequest]
  rw [h]
  rfl

theorem handleSubscriptionRequest_refused {refusal : Refusal}
    (h : (r.decideSubscription now request).2 = .inr refusal) (stamp : UInt64) (mid : UInt32) :
    (r.handleSubscriptionRequest now stamp request mid).2.choice =
      .subscriptionResponse
        { requestId := mid
          dappIdentifier := request.dappIdentifier
          responseCode := .negative
          cause := some refusal.cause
          detail := some refusal.detail } := by
  simp only [Ran.handleSubscriptionRequest]
  rw [h]

theorem Table.Added.registered_eq {T' : Table} {d f : UInt32} {details : SubscriptionDetails}
    {ret : ErrorCode × UInt32} (h : T.Added now d f details ret T') :
    T'.registered = T.registered := by
  cases h with
  | unregistered _ => rfl
  | held _ _ => rfl
  | renewed _ _ _ => rfl
  | full _ _ _ => rfl
  | new _ _ _ => rfl

theorem handleSubscriptionRequest_registered (h : Represents r.mgr T) (now : TimePoint)
    (stamp : UInt64) (request : SubscriptionRequest) (mid : UInt32) :
    ∃ T', Represents (r.handleSubscriptionRequest now stamp request mid).1.mgr T' ∧
      T'.registered = T.registered := by
  rcases decideSubscription_spec h now request with ⟨-, -, hrep, -⟩ |
    ⟨_, _, T', -, -, -, -, ha, hrep⟩
  · exact ⟨T, hrep, rfl⟩
  · exact ⟨T', hrep, ha.registered_eq⟩

def deleteResponse (del : SubscriptionDelete) (mid : UInt32) (removed : Bool) :
    SubscriptionResponse :=
  if removed then
    { requestId := mid
      dappIdentifier := del.dappIdentifier
      responseCode := .positive
      subscriptionId := some del.subscriptionId }
  else
    { requestId := mid
      dappIdentifier := del.dappIdentifier
      responseCode := .negative
      cause := some .notFound
      detail := some (text "the subscription does not exist or has ended") }

/-- A delete ends the subscription of the dApp that has the identifier, if there is one. -/
theorem handleSubscriptionDelete_spec (h : Represents r.mgr T) (stamp : UInt64)
    (del : SubscriptionDelete) (mid : UInt32) :
    (∃ f e, T.entry del.dappIdentifier f = some e ∧ e.id = del.subscriptionId ∧
        (r.handleSubscriptionDelete stamp del mid).2.choice =
          .subscriptionResponse (deleteResponse del mid true) ∧
        Represents (r.handleSubscriptionDelete stamp del mid).1.mgr
          (T.drop del.dappIdentifier f)) ∨
      ((∀ f e, T.entry del.dappIdentifier f = some e → e.id ≠ del.subscriptionId) ∧
        (r.handleSubscriptionDelete stamp del mid).2.choice =
          .subscriptionResponse (deleteResponse del mid false) ∧
        Represents (r.handleSubscriptionDelete stamp del mid).1.mgr T) := by
  by_cases hx : ∃ f e, T.entry del.dappIdentifier f = some e ∧ e.id = del.subscriptionId
  · obtain ⟨f, e, he, hid⟩ := hx
    obtain ⟨hret, hrep, -⟩ := removeSubscriptionById_some h he
    rw [hid] at hret hrep
    refine .inl ⟨f, e, he, hid, ?_, hrep⟩
    simp [Ran.handleSubscriptionDelete, hret, deleteResponse]
  · push Not at hx
    have hret := removeSubscriptionById_none h hx
    refine .inr ⟨hx, ?_, ?_⟩
    · simp [Ran.handleSubscriptionDelete, hret, deleteResponse]
    · change Represents (r.mgr.removeSubscriptionById del.dappIdentifier del.subscriptionId).mgr T
      rw [hret]
      exact h

theorem handleSubscriptionDelete_registered (h : Represents r.mgr T) (stamp : UInt64)
    (del : SubscriptionDelete) (mid : UInt32) :
    ∃ T', Represents (r.handleSubscriptionDelete stamp del mid).1.mgr T' ∧
      T'.registered = T.registered := by
  rcases handleSubscriptionDelete_spec h stamp del mid with ⟨f, e, -, -, -, hrep⟩ | ⟨-, -, hrep⟩
  · exact ⟨_, hrep, rfl⟩
  · exact ⟨T, hrep, rfl⟩

theorem Ran.step_mgr {a : Ran.Label} (hs : r.step a = some r') :
    r'.mgr = r.mgr ∨ ∃ op : Operation, op.Possible r.mgr ∧ op ≠ .clear ∧
      r'.mgr = (op.exec r.mgr).mgr := by
  cases a with
  | registerSm sm =>
    obtain rfl := Option.some.inj hs
    exact .inl rfl
  | start created connected =>
    obtain rfl := Option.some.inj hs
    left
    unfold Ran.start
    split_ifs <;> rfl
  | stop =>
    obtain rfl := Option.some.inj hs
    left
    unfold Ran.stop
    split_ifs <;> rfl
  | setupRequest stamp mid =>
    obtain ⟨-, rfl⟩ := of_check hs
    exact .inr ⟨.registerDapp, trivial, by simp, rfl⟩
  | subscriptionRequest now stamp request mid =>
    obtain ⟨-, rfl⟩ := of_check hs
    have hmgr : (r.handleSubscriptionRequest now stamp request mid).1.mgr =
        (r.decideSubscription now request).1.mgr := rfl
    rw [hmgr]
    unfold Ran.decideSubscription
    split_ifs
    · exact .inl rfl
    · simp only
      split
      · exact .inl rfl
      · exact .inr ⟨.addSubscription now _ _ _ _ _ _, trivial, by simp, rfl⟩
  | subscriptionDelete stamp del mid =>
    obtain ⟨-, rfl⟩ := of_check hs
    exact .inr ⟨.removeSubscriptionById del.dappIdentifier del.subscriptionId, trivial,
      by simp, rfl⟩
  | controlAction stamp action mid =>
    obtain ⟨-, rfl⟩ := of_check hs
    exact .inl (r.handleControlAction_mgr stamp action mid)
  | release release order =>
    obtain ⟨hcond, rfl⟩ := of_check hs
    exact .inr ⟨.unregisterDapp release.dappIdentifier order, hcond.2, by simp, rfl⟩
  | sweep now order =>
    obtain ⟨hcond, rfl⟩ := of_check hs
    exact .inr ⟨.expireSubscriptions now order, hcond.2, by simp, rfl⟩

theorem Ran.step_represents {a : Ran.Label} (h : ∃ T, Represents r.mgr T)
    (hs : r.step a = some r') : ∃ T, Represents r'.mgr T := by
  obtain ⟨T, h⟩ := h
  rcases Ran.step_mgr hs with heq | ⟨op, hp, -, heq⟩
  · exact ⟨T, heq ▸ h⟩
  · obtain ⟨T', -, hrep, -⟩ := exec_refines h hp
    exact ⟨T', heq ▸ hrep⟩

theorem Ran.run_represents {config : E3Config} {labels : List Ran.Label}
    (h : run Ran.step (.initialized config) labels = some r) : ∃ T, Represents r.mgr T :=
  inv Ran.step_represents ⟨_, represents_fresh⟩ h

/-- If the RAN grants the request, the response reports what the manager holds afterwards. -/
def Truthful (r : Ran) (now : TimePoint) (stamp : UInt64) (request : SubscriptionRequest)
    (mid : UInt32) : Prop :=
  let out := r.handleSubscriptionRequest now stamp request mid
  ∀ resp, out.2.choice = .subscriptionResponse resp → resp.responseCode = .positive →
    ∃ details id,
      out.1.mgr.getSubscriptionDetails request.dappIdentifier request.ranFunctionIdentifier =
        some details ∧
      resp.telemetryIdentifierList = some details.telemetryIds ∧
      resp.controlIdentifierList = some details.controlIds ∧
      resp.periodicity.getD 0 = details.periodicityUs ∧
      out.1.mgr.subscriptionIds.lookup id =
        some (request.dappIdentifier, request.ranFunctionIdentifier) ∧
      resp.subscriptionId = some id

/-- A request that the RAN does not refuse, for a subscription that it holds and that has not run
out, asks for what the subscription was granted. -/
def AsksForWhatIsHeld (r : Ran) (now : TimePoint) (request : SubscriptionRequest) : Prop :=
  r.mgr.isDappRegistered request.dappIdentifier = true →
  (refusalForSubscription r.registry request).1 = none →
  ∀ details,
    r.mgr.getSubscriptionDetails request.dappIdentifier request.ranFunctionIdentifier =
      some details →
    isExpired details now = false →
    details.telemetryIds = request.telemetryIdentifierList ∧
      details.controlIds = request.controlIdentifierList ∧
      details.periodicityUs = request.periodicity.getD 0

theorem grantResponse_reports {m : SubscriptionManager} {id : UInt32} (hrep : Represents m T)
    (mid : UInt32) (he : T.entry request.dappIdentifier request.ranFunctionIdentifier =
      some ⟨id, requestDetails now request⟩) :
    ∃ details id', (T.entry request.dappIdentifier request.ranFunctionIdentifier).map
        Entry.details = some details ∧
      (grantResponse request mid id).telemetryIdentifierList = some details.telemetryIds ∧
      (grantResponse request mid id).controlIdentifierList = some details.controlIds ∧
      (grantResponse request mid id).periodicity.getD 0 = details.periodicityUs ∧
      m.subscriptionIds.lookup id' =
        some (request.dappIdentifier, request.ranFunctionIdentifier) ∧
      (grantResponse request mid id).subscriptionId = some id' := by
  have hid := (hrep.ids _ _ _).mpr ⟨_, he, rfl⟩
  rw [he]
  exact ⟨requestDetails now request, id, rfl, rfl, rfl, rfl, hid, rfl⟩

/-- After any history, the RAN reports truthfully on a request exactly when the request, if it is
for a subscription that is held and has not run out, asks for what that one was granted. -/
theorem truthful_iff {config : E3Config} {labels : List Ran.Label}
    (hrun : run Ran.step (.initialized config) labels = some r) (now : TimePoint)
    (stamp : UInt64) (request : SubscriptionRequest) (mid : UInt32) :
    Truthful r now stamp request mid ↔ AsksForWhatIsHeld r now request := by
  obtain ⟨T, h⟩ := Ran.run_represents hrun
  unfold Truthful AsksForWhatIsHeld
  simp only [h.getSubscriptionDetails_eq]
  rcases decideSubscription_spec h now request with ⟨refusal, hout, -, hnone⟩ |
    ⟨code, id, T', hout, hreg, href, hcode, ha, hrep⟩
  · -- a refusal is negative, and only a pair that is not held is refused here
    refine iff_of_true ?_ ?_
    · intro resp hresp hpos
      rw [handleSubscriptionRequest_refused hout] at hresp
      obtain rfl := PduChoice.subscriptionResponse.inj hresp
      exact nomatch hpos
    · intro hreg href details hdet
      rw [hnone hreg href] at hdet
      exact nomatch hdet
  · rw [handleSubscriptionRequest_granted hout]
    have hmgr : (r.handleSubscriptionRequest now stamp request mid).1.mgr =
        (r.decideSubscription now request).1.mgr := rfl
    simp only [hmgr, hrep.getSubscriptionDetails_eq, PduChoice.subscriptionResponse.injEq,
      forall_eq', hreg, href, true_implies]
    cases ha with
    | held he hx =>
      have hid := (hrep.ids _ _ _).mpr ⟨_, he, rfl⟩
      simp only [he, Option.map_some, Option.some.injEq, forall_eq', hx, true_implies]
      constructor
      · intro htrue
        obtain ⟨details, id', hdet, htel, hctl, hper, -, -⟩ := htrue rfl
        obtain rfl := hdet
        exact ⟨(Option.some.inj htel).symm, (Option.some.inj hctl).symm, hper.symm⟩
      · rintro ⟨htel, hctl, hper⟩ -
        exact ⟨_, _, rfl, by simp [grantResponse, htel], by simp [grantResponse, hctl],
          hper.symm, hid, rfl⟩
    | renewed he hx hg =>
      refine iff_of_true (fun _ => grantResponse_reports hrep mid Table.entry_grant_pair) ?_
      intro details hdet hlive
      rw [he] at hdet
      obtain rfl := Option.some.inj hdet
      rw [hx] at hlive
      exact nomatch hlive
    | new hn hlf hg =>
      refine iff_of_true (fun _ => grantResponse_reports hrep mid Table.entry_grant_pair) ?_
      intro details hdet
      rw [hn] at hdet
      exact nomatch hdet
    | unregistered hd => simp at hcode
    | full _ _ _ => simp at hcode

/-- A request that repeats what is held is answered truthfully. -/
theorem truthful_iff_repeated :
    ∃ r, run Ran.step (.initialized {}) [.registerSm (some model7), .start .success .success,
        .setupRequest 0 5, .subscriptionRequest 0 0 ⟨1, 7, [1], [], none, some 50⟩ 6] = some r ∧
      Truthful r 1 0 ⟨1, 7, [1], [], none, some 50⟩ 7 := by
  refine exists_run (fun r => r.mgr.getSubscriptionDetails 1 7 = some ⟨[1], [], 50, 0, none⟩)
    (by decide +kernel) fun r hrun hr => ?_
  refine (truthful_iff hrun 1 0 _ 7).mpr fun _ _ details hdet _ => ?_
  obtain rfl := Option.some.inj (hr.symm.trans hdet)
  exact ⟨rfl, rfl, rfl⟩

/-- A duplicate request for another period is granted as asked: the response says 100, and the
manager keeps the period of the first request. -/
theorem duplicate_request_misreported :
    ∃ r, run Ran.step (.initialized {}) [.registerSm (some model7), .start .success .success,
        .setupRequest 0 5, .subscriptionRequest 0 0 ⟨1, 7, [1], [], none, some 50⟩ 6] = some r ∧
      (r.handleSubscriptionRequest 1 0 ⟨1, 7, [1], [], none, some 100⟩ 7).2.choice =
        .subscriptionResponse (grantResponse ⟨1, 7, [1], [], none, some 100⟩ 7 1) ∧
      ((r.handleSubscriptionRequest 1 0 ⟨1, 7, [1], [], none, some 100⟩ 7).1.mgr
        ).getSubscriptionDetails 1 7 = some ⟨[1], [], 50, 0, none⟩ ∧
      ¬ Truthful r 1 0 ⟨1, 7, [1], [], none, some 100⟩ 7 := by
  refine exists_run (fun r =>
    (r.handleSubscriptionRequest 1 0 ⟨1, 7, [1], [], none, some 100⟩ 7).2.choice =
      .subscriptionResponse (grantResponse ⟨1, 7, [1], [], none, some 100⟩ 7 1) ∧
    ((r.handleSubscriptionRequest 1 0 ⟨1, 7, [1], [], none, some 100⟩ 7).1.mgr
      ).getSubscriptionDetails 1 7 = some ⟨[1], [], 50, 0, none⟩) (by decide +kernel)
    fun r _ hr => ?_
  obtain ⟨hchoice, hdet⟩ := hr
  refine ⟨hchoice, hdet, fun htrue => ?_⟩
  obtain ⟨details, id, hdet', -, -, hper, -⟩ := htrue _ hchoice rfl
  obtain rfl := Option.some.inj (hdet.symm.trans hdet')
  exact absurd hper (by decide)

end LibE3
