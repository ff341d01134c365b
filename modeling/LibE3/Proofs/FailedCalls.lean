import LibE3.Observations
import LibE3.Proofs.LifecycleTrace

/-!
# A failed call changes nothing

A call that fails may leave an empty set of subscribers behind, which a subscript has made. Two
managers that differ in nothing else answer every query alike, and every call returns the same on
both and leaves two managers of this kind again.
-/

namespace LibE3

open SubscriptionManager Runs

/-- The manager holds what it held. A subscript may have left an empty set of subscribers behind,
which every query reads as none. -/
structure HoldsTheSame (m m' : SubscriptionManager) : Prop where
  registeredDapps : m'.registeredDapps = m.registeredDapps
  dappSubscriptions : m'.dappSubscriptions = m.dappSubscriptions
  ranFunctionSubscribers : ∀ f, m'.ranFunctionSubscribers.ref f = m.ranFunctionSubscribers.ref f
  subscriptionIds : m'.subscriptionIds = m.subscriptionIds
  subscriptionIdReverse : m'.subscriptionIdReverse = m.subscriptionIdReverse
  subscriptionDetails : m'.subscriptionDetails = m.subscriptionDetails

variable {m m' n n' : SubscriptionManager} {T : Table} {d f : UInt32}

namespace HoldsTheSame

theorem refl (m : SubscriptionManager) : HoldsTheSame m m :=
  ⟨rfl, rfl, fun _ => rfl, rfl, rfl, rfl⟩

theorem eq_with (h : HoldsTheSame m m') :
    m' = { m with ranFunctionSubscribers := m'.ranFunctionSubscribers } := by
  obtain ⟨hrd, hds, -, hids, hrev, hdet⟩ := h
  rw [← hrd, ← hds, ← hids, ← hrev, ← hdet]

/-! ## Queries -/

theorem hasSubscribers_eq (h : HoldsTheSame m m') (f : UInt32) :
    m'.hasSubscribers f = m.hasSubscribers f := by
  have href : ∀ m : SubscriptionManager,
      m.hasSubscribers f = decide (m.ranFunctionSubscribers.ref f ≠ ∅) := by
    intro m
    unfold hasSubscribers Finmap.ref
    cases m.ranFunctionSubscribers.lookup f with
    | none => simp
    | some subscribers => simp
  rw [href, href, h.ranFunctionSubscribers]

theorem getSubscriberCount_eq (h : HoldsTheSame m m') (f : UInt32) :
    m'.getSubscriberCount f = m.getSubscriberCount f := by
  have href : ∀ m : SubscriptionManager,
      m.getSubscriberCount f = (m.ranFunctionSubscribers.ref f).card := by
    intro m
    unfold getSubscriberCount Finmap.ref
    cases m.ranFunctionSubscribers.lookup f with
    | none => simp
    | some subscribers => simp
  rw [href, href, h.ranFunctionSubscribers]

end HoldsTheSame

theorem getSubscribedDapps_eq {order : List UInt32} (now : TimePoint)
    (h : Visits order (m.ranFunctionSubscribers.ref f)) :
    m.getSubscribedDapps now f order = order.filter fun d =>
      match m.subscriptionDetails.lookup (makeSubKey d f) with
      | none => true
      | some details => !isExpired details now := by
  unfold getSubscribedDapps
  cases hl : m.ranFunctionSubscribers.lookup f with
  | none =>
    have hempty : m.ranFunctionSubscribers.ref f = ∅ :=
      Finmap.ref_of_notMem (Finmap.lookup_eq_none.mp hl)
    have hnil : order = [] := by
      rw [List.eq_nil_iff_forall_not_mem]
      intro d hd
      rw [h.mem_iff, hempty] at hd
      exact Finset.notMem_empty d hd
    rw [hnil]
    rfl
  | some subscribers =>
    refine List.filter_congr fun d _ => ?_
    cases m.subscriptionDetails.lookup (makeSubKey d f) with
    | none => rfl
    | some details =>
      simp only
      cases hx : details.expiresAt with
      | none => simp [isExpired, hx]
      | some t => simp

namespace HoldsTheSame

/-- The RAN functions with a subscriber are listed alike, also when one more has an empty set. -/
theorem getActiveRanFunctions_perm (h : HoldsTheSame m m') {order order' : List UInt32}
    (ho : Visits order m.ranFunctionSubscribers.keys)
    (ho' : Visits order' m'.ranFunctionSubscribers.keys) :
    (m.getActiveRanFunctions order).Perm (m'.getActiveRanFunctions order') := by
  have hkey : ∀ (m : SubscriptionManager) (f : UInt32), m.ranFunctionSubscribers.ref f ≠ ∅ →
      f ∈ m.ranFunctionSubscribers.keys := by
    intro m f hne
    by_contra hf
    exact hne (Finmap.ref_of_notMem (mt Finmap.mem_keys.mpr hf))
  unfold getActiveRanFunctions
  rw [List.perm_ext_iff_of_nodup (ho.nodup.filter _) (ho'.nodup.filter _)]
  intro f
  simp only [List.mem_filter, decide_eq_true_eq, h.ranFunctionSubscribers, ho.mem_iff, ho'.mem_iff]
  refine and_congr_left fun hne => iff_of_true (hkey m f hne) (hkey m' f ?_)
  rwa [h.ranFunctionSubscribers]

theorem answers (h : HoldsTheSame m m') {q : Query} {a : Query.Answer} (ha : q.Answers m a) :
    q.Answers m' a := by
  cases ha with
  | isDappRegistered d =>
    rw [h.eq_with]
    exact .isDappRegistered d
  | getRegisteredDapps ho =>
    rw [h.eq_with]
    exact .getRegisteredDapps ho
  | isSubscribed d f =>
    rw [h.eq_with]
    exact .isSubscribed d f
  | getDappSubscriptions d ho =>
    rw [h.eq_with]
    exact .getDappSubscriptions d ho
  | @getSubscribedDapps now f order ho =>
    have ho' : Visits order (m'.ranFunctionSubscribers.ref f) := by
      rwa [h.ranFunctionSubscribers]
    have heq : m.getSubscribedDapps now f order = m'.getSubscribedDapps now f order := by
      rw [getSubscribedDapps_eq now ho, getSubscribedDapps_eq now ho', h.subscriptionDetails]
    rw [heq]
    exact .getSubscribedDapps now f ho'
  | getSubscriptionDetails d f =>
    rw [h.eq_with]
    exact .getSubscriptionDetails d f
  | getSubscriberCount f =>
    rw [← h.getSubscriberCount_eq]
    exact .getSubscriberCount f
  | @getActiveRanFunctions order ho =>
    obtain ⟨order', ho'⟩ := Visits.exists_order m'.ranFunctionSubscribers.keys
    rw [Multiset.coe_eq_coe.mpr (h.getActiveRanFunctions_perm ho ho')]
    exact .getActiveRanFunctions ho'
  | hasSubscribers f =>
    rw [← h.hasSubscribers_eq]
    exact .hasSubscribers f
  | dappCount =>
    rw [h.eq_with]
    exact .dappCount
  | subscriptionCount ho =>
    rw [h.eq_with]
    exact .subscriptionCount ho

theorem symm (h : HoldsTheSame m m') : HoldsTheSame m' m :=
  ⟨h.registeredDapps.symm, h.dappSubscriptions.symm, fun f => (h.ranFunctionSubscribers f).symm,
    h.subscriptionIds.symm, h.subscriptionIdReverse.symm, h.subscriptionDetails.symm⟩

theorem answers_iff (h : HoldsTheSame m m') {q : Query} {a : Query.Answer} :
    q.Answers m a ↔ q.Answers m' a := ⟨h.answers, h.symm.answers⟩

/-! ## The pieces of a call -/

theorem checkSmLifecycle_eq (h : HoldsTheSame m m') (c : UInt32 × Bool) :
    m'.checkSmLifecycle c = m.checkSmLifecycle c := by
  simp only [checkSmLifecycle, h.hasSubscribers_eq]

theorem eraseSubscriber (h : HoldsTheSame m m') (d f : UInt32) :
    HoldsTheSame (m.eraseSubscriber d f) (m'.eraseSubscriber d f) where
  registeredDapps := h.registeredDapps
  dappSubscriptions := h.dappSubscriptions
  ranFunctionSubscribers g := by
    rw [eraseSubscriber_ref, eraseSubscriber_ref, h.ranFunctionSubscribers,
      h.ranFunctionSubscribers]
  subscriptionIds := h.subscriptionIds
  subscriptionIdReverse := h.subscriptionIdReverse
  subscriptionDetails := h.subscriptionDetails

theorem eraseSubId (h : HoldsTheSame m m') (k : UInt64) :
    HoldsTheSame (m.eraseSubId k) (m'.eraseSubId k) := by
  have href := h.ranFunctionSubscribers
  rw [h.eq_with]
  unfold SubscriptionManager.eraseSubId
  dsimp only
  cases m.subscriptionIdReverse.lookup k with
  | none => exact ⟨rfl, rfl, href, rfl, rfl, rfl⟩
  | some id => exact ⟨rfl, rfl, href, rfl, rfl, rfl⟩

theorem eraseDetails (h : HoldsTheSame m m') (k : UInt64) :
    HoldsTheSame (m.eraseDetails k) (m'.eraseDetails k) := by
  have href := h.ranFunctionSubscribers
  rw [h.eq_with]
  exact ⟨rfl, rfl, href, rfl, rfl, rfl⟩

theorem eraseDappSub (h : HoldsTheSame m m') (d f : UInt32) :
    HoldsTheSame (m.eraseDappSub d f) (m'.eraseDappSub d f) := by
  have href := h.ranFunctionSubscribers
  rw [h.eq_with]
  unfold SubscriptionManager.eraseDappSub
  dsimp only
  cases m.dappSubscriptions.lookup d with
  | none => exact ⟨rfl, rfl, href, rfl, rfl, rfl⟩
  | some subs => exact ⟨rfl, rfl, href, rfl, rfl, rfl⟩

theorem lastGone_eq (h : HoldsTheSame m m') (h' : HoldsTheSame n n') (f : UInt32) :
    lastGone m' n' f = lastGone m n f := by
  simp only [lastGone, h.ranFunctionSubscribers, h'.ranFunctionSubscribers]

end HoldsTheSame

/-! ## Every call -/

structure SameOutcome {ρ : Type} (r r' : Locked ρ) : Prop where
  mgr : HoldsTheSame r.mgr r'.mgr
  ret : r'.ret = r.ret
  checks : r'.checks = r.checks

theorem SameOutcome.callbacks {ρ : Type} {r r' : Locked ρ} (h : SameOutcome r r') :
    r'.callbacks = r.callbacks := by
  rw [Locked.callbacks, Locked.callbacks, h.checks]
  exact List.filterMap_congr fun c _ => h.mgr.checkSmLifecycle_eq c

namespace HoldsTheSame

theorem registerDapp (h : HoldsTheSame m m') : SameOutcome m.registerDapp m'.registerDapp := by
  have href := h.ranFunctionSubscribers
  rw [h.eq_with]
  unfold SubscriptionManager.registerDapp
  dsimp only
  split_ifs
  · exact ⟨⟨rfl, rfl, href, rfl, rfl, rfl⟩, rfl, rfl⟩
  · exact ⟨⟨rfl, rfl, href, rfl, rfl, rfl⟩, rfl, rfl⟩

theorem unregisterStep (h : HoldsTheSame m m') (d : UInt32) (checks : List (UInt32 × Bool))
    (f : UInt32) :
    HoldsTheSame (unregisterStep d (m, checks) f).1 (unregisterStep d (m', checks) f).1 ∧
      (unregisterStep d (m', checks) f).2 = (unregisterStep d (m, checks) f).2 := by
  have he := h.eraseSubscriber d f
  refine ⟨(he.eraseSubId _).eraseDetails _, ?_⟩
  simp only [SubscriptionManager.unregisterStep, h.lastGone_eq he]

theorem unregister_loop (d : UInt32) : ∀ (l : List UInt32) (checks : List (UInt32 × Bool))
    {m m' : SubscriptionManager}, HoldsTheSame m m' →
    HoldsTheSame (l.foldl (SubscriptionManager.unregisterStep d) (m, checks)).1
        (l.foldl (SubscriptionManager.unregisterStep d) (m', checks)).1 ∧
      (l.foldl (SubscriptionManager.unregisterStep d) (m', checks)).2 =
        (l.foldl (SubscriptionManager.unregisterStep d) (m, checks)).2
  | [], checks, m, m', h => ⟨h, rfl⟩
  | f :: l, checks, m, m', h => by
    obtain ⟨hm, hc⟩ := h.unregisterStep d checks f
    have ih := unregister_loop d l (SubscriptionManager.unregisterStep d (m, checks) f).2 hm
    rw [List.foldl_cons, List.foldl_cons, ← Prod.mk.eta (p := SubscriptionManager.unregisterStep
      d (m', checks) f), hc]
    exact ih

theorem unregisterDapp (h : HoldsTheSame m m') (d : UInt32) (order : List UInt32) :
    SameOutcome (m.unregisterDapp d order) (m'.unregisterDapp d order) := by
  obtain ⟨hm, hc⟩ := unregister_loop d order [] h
  unfold SubscriptionManager.unregisterDapp
  rw [h.registeredDapps, h.dappSubscriptions]
  by_cases hd : d ∈ m.registeredDapps
  · by_cases hs : d ∈ m.dappSubscriptions
    · simp only [hd, hs, not_true_eq_false, if_false, if_true]
      refine ⟨⟨?_, ?_, hm.ranFunctionSubscribers, hm.subscriptionIds, hm.subscriptionIdReverse,
        hm.subscriptionDetails⟩, rfl, hc⟩
      · rw [hm.registeredDapps]
      · rw [hm.dappSubscriptions]
    · simp only [hd, hs, not_true_eq_false, if_false]
      exact ⟨⟨by rw [h.registeredDapps], h.dappSubscriptions, h.ranFunctionSubscribers,
        h.subscriptionIds, h.subscriptionIdReverse, h.subscriptionDetails⟩, rfl, rfl⟩
  · simp only [hd, not_false_eq_true, if_true]
    exact ⟨h, rfl, rfl⟩

theorem addExisting (h : HoldsTheSame m m') (started : TimePoint) (k : UInt64)
    (details : SubscriptionDetails) :
    SameOutcome (m.addExisting started k details) (m'.addExisting started k details) := by
  have href := h.ranFunctionSubscribers
  rw [h.eq_with]
  unfold SubscriptionManager.addExisting
  dsimp only
  cases m.subscriptionDetails.lookup k with
  | none => exact ⟨⟨rfl, rfl, href, rfl, rfl, rfl⟩, rfl, rfl⟩
  | some old =>
    dsimp only
    split_ifs
    · exact ⟨⟨rfl, rfl, href, rfl, rfl, rfl⟩, rfl, rfl⟩
    · exact ⟨⟨rfl, rfl, href, rfl, rfl, rfl⟩, rfl, rfl⟩

theorem addNew (h : HoldsTheSame m m') (d f : UInt32) (k : UInt64)
    (details : SubscriptionDetails) :
    SameOutcome (m.addNew d f k details) (m'.addNew d f k details) := by
  have href := h.ranFunctionSubscribers
  have htouch : ∀ g, (m'.ranFunctionSubscribers.touch f).ref g =
      (m.ranFunctionSubscribers.touch f).ref g := by
    intro g
    rw [Finmap.ref_touch, Finmap.ref_touch, href]
  rw [h.eq_with]
  unfold SubscriptionManager.addNew
  dsimp only
  rw [href f]
  by_cases h0 : lowestFreeId m.subscriptionIds = 0
  · simp only [h0, if_true]
    exact ⟨⟨rfl, rfl, htouch, rfl, rfl, rfl⟩, rfl, rfl⟩
  · simp only [h0, if_false]
    refine ⟨⟨rfl, rfl, fun g => ?_, rfl, rfl, rfl⟩, rfl, rfl⟩
    rw [Finmap.ref_insert, Finmap.ref_insert, htouch, htouch]

theorem addSubscription (h : HoldsTheSame m m') (now : TimePoint) (d f : UInt32)
    (ts cs : List UInt32) (p s : UInt32) :
    SameOutcome (m.addSubscription now d f ts cs p s) (m'.addSubscription now d f ts cs p s) := by
  have htouch : HoldsTheSame { m with dappSubscriptions := m.dappSubscriptions.touch d }
      { m' with dappSubscriptions := m'.dappSubscriptions.touch d } :=
    ⟨h.registeredDapps, by simp only [h.dappSubscriptions], h.ranFunctionSubscribers,
      h.subscriptionIds, h.subscriptionIdReverse, h.subscriptionDetails⟩
  unfold SubscriptionManager.addSubscription
  dsimp only
  simp only [h.registeredDapps, h.dappSubscriptions] at htouch ⊢
  by_cases hd : d ∈ m.registeredDapps
  · by_cases hf : f ∈ (m.dappSubscriptions.touch d).ref d
    · simp only [hd, hf, not_true_eq_false, if_false, if_true]
      exact htouch.addExisting _ _ _
    · simp only [hd, hf, not_true_eq_false, if_false]
      exact htouch.addNew _ _ _ _
  · simp only [hd, not_false_eq_true, if_true]
    exact ⟨h, rfl, rfl⟩

theorem expireStep (h : HoldsTheSame m m') (time : TimePoint) (emptied : List UInt32)
    (expired : List ExpiredSubscription) (k : UInt64) :
    HoldsTheSame (expireStep time ⟨m, emptied, expired⟩ k).mgr
        (expireStep time ⟨m', emptied, expired⟩ k).mgr ∧
      (expireStep time ⟨m', emptied, expired⟩ k).emptiedRanFunctions =
        (expireStep time ⟨m, emptied, expired⟩ k).emptiedRanFunctions ∧
      (expireStep time ⟨m', emptied, expired⟩ k).expired =
        (expireStep time ⟨m, emptied, expired⟩ k).expired := by
  have he := ((h.eraseSubId k).eraseDappSub (keyDapp k) (keyRanFunction k)).eraseSubscriber
    (keyDapp k) (keyRanFunction k)
  unfold SubscriptionManager.expireStep
  dsimp only
  rw [h.subscriptionDetails]
  cases m.subscriptionDetails.lookup k with
  | none => exact ⟨h, rfl, rfl⟩
  | some details =>
    dsimp only
    rw [h.subscriptionIdReverse, he.ranFunctionSubscribers]
    by_cases hx : isExpired details time = true
    · simp only [hx, if_true]
      exact ⟨he.eraseDetails k, trivial, trivial⟩
    · simp only [hx, Bool.false_eq_true, if_false]
      exact ⟨h, trivial, trivial⟩

theorem expire_loop (time : TimePoint) : ∀ (l : List UInt64) (emptied : List UInt32)
    (expired : List ExpiredSubscription) {m m' : SubscriptionManager}, HoldsTheSame m m' →
    HoldsTheSame (l.foldl (SubscriptionManager.expireStep time) ⟨m, emptied, expired⟩).mgr
        (l.foldl (SubscriptionManager.expireStep time) ⟨m', emptied, expired⟩).mgr ∧
      (l.foldl (SubscriptionManager.expireStep time) ⟨m', emptied, expired⟩).emptiedRanFunctions =
        (l.foldl (SubscriptionManager.expireStep time) ⟨m, emptied, expired⟩).emptiedRanFunctions ∧
      (l.foldl (SubscriptionManager.expireStep time) ⟨m', emptied, expired⟩).expired =
        (l.foldl (SubscriptionManager.expireStep time) ⟨m, emptied, expired⟩).expired
  | [], emptied, expired, m, m', h => ⟨h, rfl, rfl⟩
  | k :: l, emptied, expired, m, m', h => by
    obtain ⟨hm, he, hx⟩ := h.expireStep time emptied expired k
    rw [List.foldl_cons, List.foldl_cons]
    generalize SubscriptionManager.expireStep time ⟨m, emptied, expired⟩ k = st at hm he hx
    generalize SubscriptionManager.expireStep time ⟨m', emptied, expired⟩ k = st' at hm he hx
    obtain ⟨n, em, ex⟩ := st
    obtain ⟨n', em', ex'⟩ := st'
    obtain rfl : em' = em := he
    obtain rfl : ex' = ex := hx
    exact expire_loop time l _ _ hm

theorem expireSubscriptions (h : HoldsTheSame m m') (time : TimePoint) (order : List UInt64) :
    SameOutcome (m.expireSubscriptions time order) (m'.expireSubscriptions time order) := by
  obtain ⟨hm, he, hx⟩ := expire_loop time order [] [] h
  exact ⟨hm, hx, congrArg (List.map fun f => (f, true)) he⟩

theorem removeSubscription (h : HoldsTheSame m m') (d f : UInt32) :
    SameOutcome (m.removeSubscription d f) (m'.removeSubscription d f) := by
  have hds := h.eraseDappSub d f
  have hs := hds.eraseSubscriber d f
  unfold SubscriptionManager.removeSubscription
  rw [h.dappSubscriptions]
  cases m.dappSubscriptions.lookup d with
  | none => exact ⟨h, rfl, rfl⟩
  | some subs =>
    dsimp only
    by_cases hf : f ∈ subs
    · simp only [hf, not_true_eq_false, if_false]
      exact ⟨(hs.eraseSubId _).eraseDetails _, rfl, hds.lastGone_eq hs f⟩
    · simp only [hf, not_false_eq_true, if_true]
      exact ⟨h, rfl, rfl⟩

theorem removeSubscriptionById (h : HoldsTheSame m m') (d id : UInt32) :
    SameOutcome (m.removeSubscriptionById d id) (m'.removeSubscriptionById d id) := by
  unfold SubscriptionManager.removeSubscriptionById
  rw [h.subscriptionIds]
  cases m.subscriptionIds.lookup id with
  | none => exact ⟨h, rfl, rfl⟩
  | some pair =>
    obtain ⟨d', f⟩ := pair
    have hds := h.eraseDappSub d f
    have hs := hds.eraseSubscriber d f
    dsimp only
    by_cases hd : d' = d
    · simp only [hd, ne_eq, not_true_eq_false, if_false]
      refine ⟨⟨hs.registeredDapps, hs.dappSubscriptions, hs.ranFunctionSubscribers, ?_, ?_, ?_⟩,
        rfl, hds.lastGone_eq hs f⟩
      · rw [hs.subscriptionIds]
      · rw [hs.subscriptionIdReverse]
      · rw [hs.subscriptionDetails]
    · simp only [hd, ne_eq, not_false_eq_true, if_true]
      exact ⟨h, rfl, rfl⟩

theorem possible_iff (h : HoldsTheSame m m') (op : Operation) : op.Possible m' ↔ op.Possible m := by
  cases op with
  | unregisterDapp d order =>
    unfold Operation.Possible
    rw [h.dappSubscriptions]
  | expireSubscriptions now order =>
    unfold Operation.Possible
    rw [h.subscriptionDetails]
  | _ => exact Iff.rfl

/-- A call on both returns the same. -/
theorem exec (h : HoldsTheSame m m') (op : Operation) :
    SameOutcome (op.exec m) (op.exec m') ∧ op.returned m' = op.returned m := by
  cases op with
  | registerDapp =>
    obtain ⟨hm, hr, hc⟩ := h.registerDapp
    exact ⟨⟨hm, congrArg Prod.fst hr, hc⟩, by rw [Operation.returned, Operation.returned, hr]⟩
  | unregisterDapp d order =>
    have hs := h.unregisterDapp d order
    exact ⟨hs, congrArg Returned.code hs.ret⟩
  | addSubscription now d f ts cs p s =>
    obtain ⟨hm, hr, hc⟩ := h.addSubscription now d f ts cs p s
    exact ⟨⟨hm, congrArg Prod.fst hr, hc⟩, by rw [Operation.returned, Operation.returned, hr]⟩
  | removeSubscription d f =>
    have hs := h.removeSubscription d f
    exact ⟨hs, congrArg Returned.code hs.ret⟩
  | removeSubscriptionById d id =>
    have hs := h.removeSubscriptionById d id
    exact ⟨hs, congrArg Returned.code hs.ret⟩
  | expireSubscriptions now order =>
    have hs := h.expireSubscriptions now order
    exact ⟨⟨hs.mgr, rfl, hs.checks⟩, congrArg Returned.expired hs.ret⟩
  | clear => exact ⟨⟨.refl _, rfl, rfl⟩, rfl⟩

/-- What is seen on one can be seen on the other. -/
theorem observes {calls : List Call} {seen : List Seen} (h : HoldsTheSame m m')
    (ho : Observes m calls seen) : Observes m' calls seen := by
  induction ho generalizing m' with
  | nil m => exact .nil m'
  | @operation m op calls seen hp ho ih =>
    obtain ⟨hs, hr⟩ := h.exec op
    rw [← hr, ← hs.callbacks]
    exact .operation ((h.possible_iff op).mpr hp) (ih hs.mgr)
  | query ha ho ih => exact .query (h.answers ha) (ih h)

end HoldsTheSame

/-! ## Calls that fail -/

theorem addSubscription_exists {e : Entry} (h : Represents m T) (he : T.entry d f = some e)
    {now : TimePoint} (hx : isExpired e.details now = false) (ts cs : List UInt32) (p s : UInt32) :
    (m.addSubscription now d f ts cs p s).mgr = m := by
  have hdT := T.entry_registered he
  have hreg : d ∈ m.registeredDapps := (h.registered d).mpr hdT
  have hmem : f ∈ m.dappSubscriptions.ref d := by
    rw [h.subs, he]
    rfl
  have hdet : m.subscriptionDetails.lookup (makeSubKey d f) = some e.details := by
    rw [h.details, he]
    rfl
  have hds := Finmap.touch_of_mem ((h.dapps d).mpr hdT)
  have hrev := Finmap.touch_of_mem (h.mem_subscriptionIdReverse.mpr
    (show (T.entry d f).isSome by rw [he]; rfl))
  simp only [addSubscription, hreg, not_true_eq_false, if_false, hmem, if_true, addExisting, hdet,
    hx, Bool.false_eq_true, hds, hrev]

/-- `add_subscription` when no identifier is left: it has only looked up the subscribers. -/
theorem addSubscription_full {m : SubscriptionManager} {T : Table} {d f : UInt32}
    (h : Represents m T) (hd : d ∈ T.registered) (hn : T.entry d f = none)
    (hall : ∀ id, InIdRange id → T.IdInUse id) (now : TimePoint) (ts cs : List UInt32)
    (p s : UInt32) :
    HoldsTheSame m (m.addSubscription now d f ts cs p s).mgr ∧
      (m.addSubscription now d f ts cs p s).checks = [] := by
  have hreg : d ∈ m.registeredDapps := (h.registered d).mpr hd
  have hmem : f ∉ (m.dappSubscriptions.touch d).ref d := by
    rw [Finmap.ref_touch, h.subs, hn]
    exact Bool.false_ne_true
  have hfull : lowestFreeId m.subscriptionIds = 0 := by
    rw [lowestFreeId_eq_zero_iff]
    exact fun id hid => h.mem_subscriptionIds.mpr (hall id hid)
  have htouch := Finmap.touch_of_mem ((h.dapps d).mpr hd)
  simp only [addSubscription, hreg, not_true, if_false, hmem, addNew, hfull, if_true]
  exact ⟨⟨rfl, htouch, fun g => Finmap.ref_touch _ f g, rfl, rfl, rfl⟩, trivial⟩

theorem Represents.failed (h : Represents m T) {op : Operation} (hp : op.Possible m)
    (hfail : (op.exec m).ret ≠ .success) :
    HoldsTheSame m (op.exec m).mgr ∧ (op.exec m).checks = [] := by
  obtain ⟨T', hstep, -, hreports⟩ := exec_refines h hp
  obtain rfl := hstep.eq_of_ne_success hfail
  have hclear : op ≠ .clear := by
    rintro rfl
    exact hfail rfl
  refine ⟨?_, (hreports hclear).eq_nil fun _ => Iff.rfl⟩
  cases op with
  | registerDapp =>
    by_cases hfull : ∀ id, InIdRange id → id ∈ T'.registered
    · rw [Operation.exec, registerDapp_full h hfull]
      exact .refl m
    · push Not at hfull
      obtain ⟨id, hid, hret, -⟩ := registerDapp_free h hfull
      exact absurd (congrArg Prod.fst hret) hfail
  | unregisterDapp d order =>
    have hd : d ∉ T'.registered := fun hd => hfail (unregisterDapp_some h hd hp).1
    rw [Operation.exec, unregisterDapp_none h hd]
    exact .refl m
  | addSubscription now d f ts cs p s =>
    obtain ⟨T'', ha, -⟩ := addSubscription_spec h now d f ts cs p s
    change (m.addSubscription now d f ts cs p s).ret.1 ≠ .success at hfail
    change HoldsTheSame m (m.addSubscription now d f ts cs p s).mgr
    generalize hret : (m.addSubscription now d f ts cs p s).ret = ret at ha hfail
    cases ha with
    | unregistered hd =>
      have hnot : d ∉ m.registeredDapps := mt (h.registered d).mp hd
      simp only [addSubscription, hnot, not_false_eq_true, if_true]
      exact .refl m
    | held he hx =>
      rw [addSubscription_exists h he hx]
      exact .refl m
    | renewed he hx hg => exact absurd rfl hfail
    | full hd hn hall => exact (addSubscription_full h hd hn hall now ts cs p s).1
    | new hn hid hg => exact absurd rfl hfail
  | removeSubscription d f =>
    have hn : T'.entry d f = none := by
      rw [← Option.not_isSome_iff_eq_none]
      exact fun hs => hfail (removeSubscription_some h hs).1
    rw [Operation.exec, removeSubscription_none h hn]
    exact .refl m
  | removeSubscriptionById d id =>
    have hn : ∀ f e, T'.entry d f = some e → e.id ≠ id := by
      rintro f e he rfl
      exact hfail (removeSubscriptionById_some h he).1
    rw [Operation.exec, removeSubscriptionById_none h hn]
    exact .refl m
  | expireSubscriptions now order => exact absurd rfl hfail
  | clear => exact absurd rfl hclear

/-- In every reachable state a call that fails makes no callback, leaves the answers of every query
as they were, and is not seen in any later sequence of calls. -/
theorem failed_call_unseen {ops : List Operation} (hrun : run step fresh ops = some m)
    {op : Operation} (hp : op.Possible m) (hfail : (op.exec m).ret ≠ .success) :
    (op.exec m).callbacks = [] ∧
      (∀ (q : Query) a, q.Answers (op.exec m).mgr a ↔ q.Answers m a) ∧
      ∀ calls seen, Observes (op.exec m).mgr calls seen ↔ Observes m calls seen := by
  obtain ⟨T, h⟩ := run_represents hrun
  obtain ⟨hsame, hchecks⟩ := h.failed hp hfail
  refine ⟨?_, fun q a => hsame.symm.answers_iff, fun calls seen => ?_⟩
  · rw [Locked.callbacks, hchecks]
    rfl
  · exact ⟨hsame.symm.observes, hsame.observes⟩

/-- A dApp asks again for what it has, is refused, and then deletes it. -/
theorem failed_call_unseen_repeated :
    ∃ m, run step fresh [.registerDapp, .addSubscription 0 1 7 [1] [] 0 0] = some m ∧
      (Operation.exec m (.addSubscription 5 1 7 [2] [] 0 9)).ret = .subscriptionExists ∧
      ∀ seen, Observes (Operation.exec m (.addSubscription 5 1 7 [2] [] 0 9)).mgr
          [.query (.getSubscriptionDetails 1 7), .operation (.removeSubscriptionById 1 1)] seen ↔
        Observes m [.query (.getSubscriptionDetails 1 7), .operation (.removeSubscriptionById 1 1)]
          seen := by
  refine exists_run (fun m => (Operation.exec m (.addSubscription 5 1 7 [2] [] 0 9)).ret =
    .subscriptionExists) (by decide +kernel) fun m hm hret => ⟨hret, fun seen => ?_⟩
  have hp : Operation.Possible m (.addSubscription 5 1 7 [2] [] 0 9) := trivial
  exact (failed_call_unseen hm hp (by simp [hret])).2.2 _ seen

end LibE3
