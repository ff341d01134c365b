import LibE3.Proofs.LifecycleTrace

/-!
# A sweep removes what has run out

`expire_subscriptions` and `remove_subscription` erase from the same maps in different orders, and
the sweep makes its callbacks at its end. Two managers that describe one table with the same keys
are equal, so the order of the removals does not matter.
-/

namespace LibE3

open SubscriptionManager Runs

variable {m m' : SubscriptionManager} {T T' : Table} {d f : UInt32} {time : TimePoint}

/-! ## Managers that describe one table -/

/-- What a removal leaves alone and a table does not tell. -/
structure SameKeys (m m' : SubscriptionManager) : Prop where
  registeredDapps : m'.registeredDapps = m.registeredDapps
  ranFunctions : ∀ f, f ∈ m'.ranFunctionSubscribers ↔ f ∈ m.ranFunctionSubscribers

namespace SameKeys

theorem refl (m : SubscriptionManager) : SameKeys m m := ⟨rfl, fun _ => Iff.rfl⟩

theorem trans {m'' : SubscriptionManager} (h : SameKeys m m') (h' : SameKeys m' m'') :
    SameKeys m m'' :=
  ⟨h'.registeredDapps.trans h.registeredDapps, fun f => (h'.ranFunctions f).trans
    (h.ranFunctions f)⟩

/-- Taking a dApp out of a subscriber set that is there. -/
theorem eraseSubscriber (hf : f ∈ m.ranFunctionSubscribers) : SameKeys m (m.eraseSubscriber d f) :=
  ⟨rfl, fun g => by
    rw [SubscriptionManager.eraseSubscriber, Finmap.mem_insert, or_iff_right_of_imp]
    rintro rfl
    exact hf⟩

end SameKeys

theorem Indexed.mem_ranFunctionSubscribers (h : Indexed m T) (hs : (T.entry d f).isSome) :
    f ∈ m.ranFunctionSubscribers := by
  by_contra hf
  have hd := (h.subscribers d f).mpr hs
  rw [Finmap.ref_of_notMem hf] at hd
  exact absurd hd (Finset.notMem_empty d)

theorem Represents.eq_of_sameKeys (h : Represents m T) (h' : Represents m' T)
    (hk : SameKeys m m') : m' = m := by
  have hds : m'.dappSubscriptions = m.dappSubscriptions := by
    refine Finmap.ext_mem_ref (fun d => (h'.dapps d).trans (h.dapps d).symm) fun d => ?_
    ext f
    rw [h'.subs, h.subs]
  have hsub : m'.ranFunctionSubscribers = m.ranFunctionSubscribers := by
    refine Finmap.ext_mem_ref hk.ranFunctions fun f => ?_
    ext d
    rw [h'.subscribers, h.subscribers]
  have hids : m'.subscriptionIds = m.subscriptionIds := by
    refine Finmap.ext_lookup fun id => Option.ext fun ⟨d, f⟩ => ?_
    rw [h'.ids, h.ids]
  have hrev : m'.subscriptionIdReverse = m.subscriptionIdReverse := by
    refine Finmap.ext_lookup fun k => ?_
    rw [← makeSubKey_key k, h'.reverse, h.reverse]
  have hdet : m'.subscriptionDetails = m.subscriptionDetails := by
    refine Finmap.ext_lookup fun k => ?_
    rw [← makeSubKey_key k, h'.details, h.details]
  have hreg := hk.registeredDapps
  obtain ⟨r, ds, s, i, rv, dt⟩ := m
  obtain ⟨r', ds', s', i', rv', dt'⟩ := m'
  simp only at hreg hds hsub hids hrev hdet
  rw [hreg, hds, hsub, hids, hrev, hdet]

/-! ## The pieces of the two paths -/

theorem removeSubscription_sameKeys (h : Represents m T) (hs : (T.entry d f).isSome) :
    SameKeys m (m.removeSubscription d f).mgr := by
  have hf := SameKeys.eraseSubscriber (d := d) (h.mem_ranFunctionSubscribers hs)
  unfold removeSubscription
  split
  · exact .refl m
  · by_cases hmem : f ∈ ‹Finset UInt32›
    · simp only [hmem, not_true_eq_false, if_false]
      rw [eraseDappSub_eq]
      constructor
      · simp [eraseDetails, SubscriptionManager.eraseSubscriber]
      · intro g
        simpa [eraseDetails, SubscriptionManager.eraseSubscriber] using hf.ranFunctions g
    · simp only [hmem, not_false_eq_true, if_true]
      exact .refl m

theorem expireStep_sameKeys {st : Sweep} (h : Represents st.mgr T) (time : TimePoint) (k : UInt64) :
    SameKeys st.mgr (expireStep time st k).mgr := by
  unfold expireStep
  split
  · exact .refl _
  · rename_i details hdet
    rw [← makeSubKey_key k, h.details] at hdet
    have hs : (T.entry (keyDapp k) (keyRanFunction k)).isSome := by
      rw [← Option.isSome_map, hdet]
      rfl
    have hf := SameKeys.eraseSubscriber (d := keyDapp k) (h.mem_ranFunctionSubscribers hs)
    split_ifs
    · dsimp only
      rw [eraseDappSub_eq]
      constructor
      · simp [eraseDetails, SubscriptionManager.eraseSubscriber]
      · intro g
        simpa [eraseDetails, SubscriptionManager.eraseSubscriber] using hf.ranFunctions g
    · exact .refl _

/-! ## What a sweep returns -/

def Table.expiredAt (T : Table) (time : TimePoint) (k : UInt64) : Option ExpiredSubscription :=
  ((T.entry (keyDapp k) (keyRanFunction k)).filter fun e => isExpired e.details time).map fun e =>
    ⟨keyDapp k, keyRanFunction k, e.id⟩

theorem Table.expiredAt_eq_some {k : UInt64} {x : ExpiredSubscription} :
    T.expiredAt time k = some x ↔ k = makeSubKey x.dappId x.ranFunctionId ∧
      ∃ e, T.entry x.dappId x.ranFunctionId = some e ∧ isExpired e.details time = true ∧
        e.id = x.subscriptionId := by
  unfold Table.expiredAt
  rw [Option.map_eq_some_iff]
  constructor
  · rintro ⟨e, he, rfl⟩
    rw [Option.filter_eq_some_iff] at he
    exact ⟨(makeSubKey_key k).symm, e, he.1, he.2, rfl⟩
  · rintro ⟨rfl, e, he, hx, hid⟩
    refine ⟨e, ?_, ?_⟩
    · rw [Option.filter_eq_some_iff, keyDapp_makeSubKey, keyRanFunction_makeSubKey]
      exact ⟨he, hx⟩
    · rw [keyDapp_makeSubKey, keyRanFunction_makeSubKey, hid]

theorem Table.expiredAt_drop {k : UInt64} (hk : k ≠ makeSubKey d f) :
    (T.drop d f).expiredAt time k = T.expiredAt time k := by
  unfold Table.expiredAt
  rw [Table.entry_drop, if_neg]
  rintro ⟨rfl, rfl⟩
  exact hk (makeSubKey_key k).symm

variable {T₀ : Table}

theorem expire_loop_expired : ∀ (l : List UInt64) {T : Table} {st : Sweep}, l.Nodup →
    Represents st.mgr T → Emptied T₀ T (st.emptiedRanFunctions.map fun f => (f, true)) →
    (l.foldl (expireStep time) st).expired = st.expired ++ l.filterMap (T.expiredAt time) ∧
      SameKeys st.mgr (l.foldl (expireStep time) st).mgr
  | [], T, st, _, _, _ => by simp [SameKeys.refl]
  | k :: l, T, st, hn, h, hc => by
    have hkeys := expireStep_sameKeys h time k
    obtain ⟨d, f, rfl⟩ : ∃ d f, k = makeSubKey d f := ⟨_, _, (makeSubKey_key k).symm⟩
    rw [List.nodup_cons] at hn
    rw [List.foldl_cons]
    by_cases hx : ∃ e, T.entry d f = some e ∧ isExpired e.details time = true
    · obtain ⟨e, he, hx⟩ := hx
      obtain ⟨hrep, hc', hexp⟩ := expireStep_expired h he hx hc
      obtain ⟨ih, ihk⟩ := expire_loop_expired l hn.2 hrep hc'
      have hone : T.expiredAt time (makeSubKey d f) = some ⟨d, f, e.id⟩ :=
        Table.expiredAt_eq_some.mpr ⟨rfl, e, he, hx, rfl⟩
      have hrest : l.filterMap ((T.drop d f).expiredAt time) = l.filterMap (T.expiredAt time) := by
        refine List.filterMap_congr fun k hk => Table.expiredAt_drop ?_
        rintro rfl
        exact hn.1 hk
      rw [ih, hexp, hrest, List.filterMap_cons_some hone, List.append_assoc]
      exact ⟨rfl, hkeys.trans ihk⟩
    · have hlive : ∀ e, T.entry d f = some e → isExpired e.details time = false := by
        intro e he
        exact Bool.eq_false_iff.mpr fun hx' => hx ⟨e, he, hx'⟩
      have hnone : T.expiredAt time (makeSubKey d f) = none := by
        rw [Option.eq_none_iff_forall_ne_some]
        intro x hx'
        obtain ⟨hk, e, he, hxe, -⟩ := Table.expiredAt_eq_some.mp hx'
        obtain ⟨rfl, rfl⟩ := makeSubKey_inj.mp hk
        exact hx ⟨e, he, hxe⟩
      rw [expireStep_live h.toIndexed hlive, List.filterMap_cons_none hnone]
      exact expire_loop_expired l hn.2 h hc

/-! ## The removals, one after another -/

def ExpiredSubscription.removal (x : ExpiredSubscription) : Operation :=
  .removeSubscription x.dappId x.ranFunctionId

def ExpiredSubscription.pair (x : ExpiredSubscription) : UInt32 × UInt32 :=
  (x.dappId, x.ranFunctionId)

open ExpiredSubscription (pair removal)

def Table.dropPairs (T : Table) (l : List ExpiredSubscription) : Table :=
  l.foldl (fun T x => T.drop x.dappId x.ranFunctionId) T

theorem Table.dropPairs_cons (x : ExpiredSubscription) (l : List ExpiredSubscription) :
    T.dropPairs (x :: l) = (T.drop x.dappId x.ranFunctionId).dropPairs l := rfl

theorem Table.registered_dropPairs : ∀ (l : List ExpiredSubscription) (T : Table),
    (T.dropPairs l).registered = T.registered
  | [], _ => rfl
  | _ :: l, _ => registered_dropPairs l _

theorem Table.entry_dropPairs (d f : UInt32) : ∀ (l : List ExpiredSubscription) (T : Table),
    (T.dropPairs l).entry d f = if (d, f) ∈ l.map pair then none else T.entry d f
  | [], T => by simp [Table.dropPairs]
  | x :: l, T => by
    rw [dropPairs_cons, entry_dropPairs d f l, Table.entry_drop]
    by_cases hx : d = x.dappId ∧ f = x.ranFunctionId
    · simp [pair, hx]
    · simp [pair, hx]

theorem Table.dropPairs_eq_sweep {l : List ExpiredSubscription}
    (hl : ∀ d f, (d, f) ∈ l.map pair ↔
      ∃ e, T.entry d f = some e ∧ isExpired e.details time = true) :
    T.dropPairs l = T.sweep time := by
  apply Table.ext
  · exact registered_dropPairs l T
  · funext d f
    apply Option.ext
    intro e
    rw [entry_dropPairs, entry_sweep_eq_some]
    split_ifs with hp
    · obtain ⟨e', he', hx'⟩ := (hl d f).mp hp
      refine iff_of_false (fun hn => nomatch hn) ?_
      rintro ⟨he, hx⟩
      obtain rfl := Option.some.inj (he'.symm.trans he)
      rw [hx'] at hx
      exact nomatch hx
    · refine ⟨fun he => ⟨he, ?_⟩, fun h => h.1⟩
      exact Bool.eq_false_iff.mpr fun hx => hp ((hl d f).mpr ⟨e, he, hx⟩)

theorem Emptied.append {checks checks' : List (UInt32 × Bool)} (h : Emptied T₀ T checks)
    (hr : Reports T T' checks') (hs : ∀ f, T'.Served f → T.Served f) :
    Emptied T₀ T' (checks ++ checks') := by
  have hmem : ∀ f had, (f, had) ∈ checks' ↔ had = true ∧ T.Served f ∧ ¬ T'.Served f := by
    intro f had
    rw [hr.mem_iff]
    have := hs f
    cases had with
    | true => simp
    | false => simpa using mt this
  refine ⟨fun f hf => h.shrinks f (hs f hf), ?_, fun f had => ?_⟩
  · rw [List.map_append, List.nodup_append]
    refine ⟨h.nodup, hr.nodup, ?_⟩
    rintro f hf f' hf' rfl
    obtain ⟨⟨f, had⟩, hc, rfl⟩ := List.mem_map.mp hf
    obtain ⟨⟨f', had'⟩, hc', rfl⟩ := List.mem_map.mp hf'
    exact ((h.mem_iff _ _).mp hc).2.2 ((hmem _ _).mp hc').2.1
  · rw [List.mem_append, h.mem_iff, hmem]
    have h₁ := h.shrinks f
    have h₂ := hs f
    tauto

theorem Emptied.perm_stops {checks checks' : List (UInt32 × Bool)} (h : Emptied T₀ T checks)
    (h' : Emptied T₀ T checks') :
    (checks.map fun c => (c.1, !c.2)).Perm (checks'.map fun c => (c.1, !c.2)) := by
  refine List.Perm.map _ ((List.perm_ext_iff_of_nodup h.nodup.of_map h'.nodup.of_map).mpr ?_)
  rintro ⟨f, had⟩
  rw [h.mem_iff, h'.mem_iff]

theorem removals_run : ∀ (l : List ExpiredSubscription) {T : Table} {h : History}
    {checks : List (UInt32 × Bool)}, Represents h.mgr T → (l.map pair).Nodup →
    (∀ x ∈ l, (T.entry x.dappId x.ranFunctionId).isSome) → Emptied T₀ T checks →
    h.trace = checks.map (fun c => (c.1, !c.2)) →
    ∃ h' checks', run History.step h (l.map removal) = some h' ∧
      Represents h'.mgr (T.dropPairs l) ∧ SameKeys h.mgr h'.mgr ∧
      Emptied T₀ (T.dropPairs l) checks' ∧ h'.trace = checks'.map fun c => (c.1, !c.2)
  | [], T, h, checks, hr, _, _, hc, ht => ⟨h, checks, rfl, hr, .refl _, hc, ht⟩
  | x :: l, T, h, checks, hr, hn, hs, hc, ht => by
    obtain ⟨mgr, trace⟩ := h
    have hx := hs x List.mem_cons_self
    rw [List.map_cons, List.nodup_cons] at hn
    obtain ⟨-, hrep, hreports⟩ := removeSubscription_some hr hx
    have hstep : History.step ⟨mgr, trace⟩ x.removal = some
        ⟨(mgr.removeSubscription x.dappId x.ranFunctionId).mgr,
          trace ++ (mgr.removeSubscription x.dappId x.ranFunctionId).callbacks⟩ :=
      if_pos ⟨trivial, (fun hne => nomatch hne)⟩
    have hs' : ∀ y ∈ l,
        ((T.drop x.dappId x.ranFunctionId).entry y.dappId y.ranFunctionId).isSome := by
      intro y hy
      rw [Table.entry_drop, if_neg]
      · exact hs y (List.mem_cons_of_mem x hy)
      · rintro ⟨hd, hf⟩
        refine hn.1 (List.mem_map.mpr ⟨y, hy, ?_⟩)
        rw [pair, pair, hd, hf]
    have hc' := hc.append hreports fun f => Table.served_of_drop
    have ht' : trace ++ (mgr.removeSubscription x.dappId x.ranFunctionId).callbacks =
        (checks ++ (mgr.removeSubscription x.dappId x.ranFunctionId).checks).map
          fun c => (c.1, !c.2) := by
      rw [Locked.callbacks, callbacks_eq_map hrep hreports, List.map_append]
      exact congrArg (· ++ _) ht
    obtain ⟨h', checks', hrun, hrep', hkeys, hc'', ht''⟩ := removals_run l
      (h := ⟨_, trace ++ (mgr.removeSubscription x.dappId x.ranFunctionId).callbacks⟩)
      hrep hn.2 hs' hc' ht'
    refine ⟨h', checks', ?_, hrep', (removeSubscription_sameKeys hr hx).trans hkeys, hc'', ht''⟩
    exact run_cons.mpr ⟨_, hstep, hrun⟩

/-! ## The law -/

/-- What a sweep at `time` that visits the details in `order` does from `m`. -/
structure SweepLaw (m : SubscriptionManager) (time : TimePoint) (order : List UInt64) : Prop where
  /-- No subscription is returned twice. -/
  nodup : ((m.expireSubscriptions time order).ret.map pair).Nodup
  /-- What is returned is a subscription whose deadline has come, with its identifier. -/
  mem_iff : ∀ x, x ∈ (m.expireSubscriptions time order).ret ↔
    m.isSubscribed x.dappId x.ranFunctionId = true ∧
      m.subscriptionIds.lookup x.subscriptionId = some (x.dappId, x.ranFunctionId) ∧
      ∃ details deadline, m.getSubscriptionDetails x.dappId x.ranFunctionId = some details ∧
        details.expiresAt = some deadline ∧ deadline ≤ time
  /-- The removals of what is returned, in any order, leave the same state and make the same
  callbacks. -/
  removals : ∀ l : List ExpiredSubscription, l.Perm (m.expireSubscriptions time order).ret →
    ∃ h, run History.step ⟨m, []⟩ (l.map removal) = some h ∧
      h.mgr = (m.expireSubscriptions time order).mgr ∧
      h.trace.Perm (m.expireSubscriptions time order).callbacks
  /-- Every other subscription keeps its identifier and its details, its deadline among them. -/
  kept : ∀ d f, m.isSubscribed d f = true →
    (d, f) ∉ (m.expireSubscriptions time order).ret.map pair →
    (m.expireSubscriptions time order).mgr.isSubscribed d f = true ∧
      (m.expireSubscriptions time order).mgr.subscriptionIdReverse.lookup (makeSubKey d f) =
        m.subscriptionIdReverse.lookup (makeSubKey d f) ∧
      (m.expireSubscriptions time order).mgr.getSubscriptionDetails d f =
        m.getSubscriptionDetails d f
  registered : (m.expireSubscriptions time order).mgr.registeredDapps = m.registeredDapps
  again : ∀ order', Operation.Possible (m.expireSubscriptions time order).mgr
      (.expireSubscriptions time order') →
    ((m.expireSubscriptions time order).mgr.expireSubscriptions time order').ret = []

theorem isExpired_iff {details : SubscriptionDetails} :
    isExpired details time = true ↔ ∃ deadline, details.expiresAt = some deadline ∧
      deadline ≤ time := by
  unfold isExpired
  cases details.expiresAt <;> simp

variable {order : List UInt64}

theorem expireSubscriptions_ret (h : Represents m T) (time : TimePoint)
    (ho : Visits order m.subscriptionDetails.keys) :
    (m.expireSubscriptions time order).ret = order.filterMap (T.expiredAt time) ∧
      SameKeys m (m.expireSubscriptions time order).mgr := by
  have hstart : Represents (⟨m, [], []⟩ : Sweep).mgr T := h
  exact expire_loop_expired order ho.nodup hstart (Emptied.nil T)

theorem mem_expireSubscriptions (h : Represents m T) (time : TimePoint)
    (ho : Visits order m.subscriptionDetails.keys) {x : ExpiredSubscription} :
    x ∈ (m.expireSubscriptions time order).ret ↔
      ∃ e, T.entry x.dappId x.ranFunctionId = some e ∧ isExpired e.details time = true ∧
        e.id = x.subscriptionId := by
  rw [(expireSubscriptions_ret h time ho).1, List.mem_filterMap]
  constructor
  · rintro ⟨k, -, hx⟩
    exact (Table.expiredAt_eq_some.mp hx).2
  · rintro ⟨e, he, hx⟩
    refine ⟨makeSubKey x.dappId x.ranFunctionId, ?_, Table.expiredAt_eq_some.mpr ⟨rfl, e, he, hx⟩⟩
    rw [ho.mem_iff, Finmap.mem_keys, h.mem_subscriptionDetails, he]
    rfl

theorem mem_pairs_expireSubscriptions (h : Represents m T) (time : TimePoint)
    (ho : Visits order m.subscriptionDetails.keys) {d f : UInt32} :
    (d, f) ∈ (m.expireSubscriptions time order).ret.map pair ↔
      ∃ e, T.entry d f = some e ∧ isExpired e.details time = true := by
  rw [List.mem_map]
  constructor
  · rintro ⟨x, hx, hp⟩
    obtain ⟨e, he, hexp, -⟩ := (mem_expireSubscriptions h time ho).mp hx
    obtain ⟨rfl, rfl⟩ := Prod.mk.inj hp
    exact ⟨e, he, hexp⟩
  · rintro ⟨e, he, hexp⟩
    exact ⟨⟨d, f, e.id⟩, (mem_expireSubscriptions h time ho).mpr ⟨e, he, hexp, rfl⟩, rfl⟩

theorem nodup_expireSubscriptions (h : Represents m T) (time : TimePoint)
    (ho : Visits order m.subscriptionDetails.keys) :
    ((m.expireSubscriptions time order).ret.map pair).Nodup := by
  rw [(expireSubscriptions_ret h time ho).1, List.map_filterMap]
  refine ho.nodup.filterMap fun k k' p hp hp' => ?_
  obtain ⟨x, hx, rfl⟩ := Option.map_eq_some_iff.mp hp
  obtain ⟨x', hx', hxx⟩ := Option.map_eq_some_iff.mp hp'
  obtain ⟨hd, hf⟩ := Prod.mk.inj hxx
  rw [(Table.expiredAt_eq_some.mp hx).1, (Table.expiredAt_eq_some.mp hx').1, hd, hf]

theorem sweepLaw (h : Represents m T) (time : TimePoint)
    (ho : Visits order m.subscriptionDetails.keys) : SweepLaw m time order := by
  obtain ⟨hrep, hreports⟩ := expireSubscriptions_spec h time ho
  have hkeys := (expireSubscriptions_ret h time ho).2
  have hnodup := nodup_expireSubscriptions h time ho
  refine ⟨hnodup, fun x => ?_, fun l hl => ?_, fun d f hs hn => ?_, hkeys.registeredDapps,
    fun order' ho' => ?_⟩
  · rw [mem_expireSubscriptions h time ho, h.isSubscribed_iff, h.ids, h.getSubscriptionDetails_eq]
    constructor
    · rintro ⟨e, he, hx, hid⟩
      obtain ⟨deadline, hd, hle⟩ := isExpired_iff.mp hx
      rw [he]
      exact ⟨rfl, ⟨e, rfl, hid⟩, e.details, deadline, rfl, hd, hle⟩
    · rintro ⟨-, ⟨e, he, hid⟩, details, deadline, hdet, hd, hle⟩
      rw [he] at hdet
      obtain rfl := Option.some.inj hdet
      exact ⟨e, he, isExpired_iff.mpr ⟨deadline, hd, hle⟩, hid⟩
  · have hmem : ∀ d f, (d, f) ∈ l.map pair ↔
        ∃ e, T.entry d f = some e ∧ isExpired e.details time = true := fun d f =>
      (hl.map pair).mem_iff.trans (mem_pairs_expireSubscriptions h time ho)
    have hstart : Represents (⟨m, []⟩ : History).mgr T := h
    obtain ⟨h', checks', hrun, hrep', hkeys', hc', ht'⟩ := removals_run l hstart
      ((hl.map pair).nodup_iff.mpr hnodup) (fun x hx => by
        obtain ⟨e, he, -⟩ := (hmem x.dappId x.ranFunctionId).mp (List.mem_map_of_mem hx)
        rw [he]
        rfl) (Emptied.nil T) rfl
    rw [Table.dropPairs_eq_sweep hmem] at hrep' hc'
    refine ⟨h', hrun, hrep.eq_of_sameKeys hrep' ?_, ?_⟩
    · exact ⟨hkeys'.registeredDapps.trans hkeys.registeredDapps.symm, fun f =>
        (hkeys'.ranFunctions f).trans (hkeys.ranFunctions f).symm⟩
    · rw [ht', Locked.callbacks, callbacks_eq_map hrep hreports]
      have hc := (Emptied.nil T).append hreports fun f hf => hc'.shrinks f hf
      exact hc'.perm_stops hc
  · rw [h.isSubscribed_iff] at hs
    obtain ⟨e, he⟩ := Option.isSome_iff_exists.mp hs
    have hlive : isExpired e.details time = false := Bool.eq_false_iff.mpr fun hx =>
      hn ((mem_pairs_expireSubscriptions h time ho).mpr ⟨e, he, hx⟩)
    have he' := Table.entry_sweep_eq_some.mpr ⟨he, hlive⟩
    rw [hrep.isSubscribed_iff, hrep.reverse, h.reverse, hrep.getSubscriptionDetails_eq,
      h.getSubscriptionDetails_eq, he, he']
    exact ⟨rfl, rfl, rfl⟩
  · rw [List.eq_nil_iff_forall_not_mem]
    intro x hx
    obtain ⟨e, he, hexp, -⟩ := (mem_expireSubscriptions hrep time ho').mp hx
    have hlive := (Table.entry_sweep_eq_some.mp he).2
    rw [hexp] at hlive
    cases hlive

/-- In every reachable state, at every time and in every order it can take, a sweep is the removal
of what has run out. -/
theorem expiry_is_deletion {ops : List Operation} (hrun : run step fresh ops = some m)
    (time : TimePoint) {order : List UInt64}
    (hp : Operation.Possible m (.expireSubscriptions time order)) : SweepLaw m time order := by
  obtain ⟨T, h⟩ := run_represents hrun
  exact sweepLaw h time hp

/-- Two of three subscriptions have run out, one of them the only one to its RAN function. -/
theorem expiry_is_deletion_two :
    ∃ m, run step fresh [.registerDapp, .registerDapp, .addSubscription 0 1 7 [1] [] 0 5,
        .addSubscription 0 1 8 [1] [] 0 5, .addSubscription 0 2 8 [1] [] 0 0] = some m ∧
      (m.expireSubscriptions 5000000000 [makeSubKey 1 8, makeSubKey 2 8, makeSubKey 1 7]).ret =
        [⟨1, 8, 2⟩, ⟨1, 7, 1⟩] ∧
      SweepLaw m 5000000000 [makeSubKey 1 8, makeSubKey 2 8, makeSubKey 1 7] := by
  exact exists_run (fun m => Operation.Possible m (.expireSubscriptions 5000000000
      [makeSubKey 1 8, makeSubKey 2 8, makeSubKey 1 7]) ∧
    (m.expireSubscriptions 5000000000 [makeSubKey 1 8, makeSubKey 2 8, makeSubKey 1 7]).ret =
      [⟨1, 8, 2⟩, ⟨1, 7, 1⟩]) (by decide +kernel)
    fun m hm h => ⟨h.2, expiry_is_deletion hm _ h.1⟩

end LibE3
