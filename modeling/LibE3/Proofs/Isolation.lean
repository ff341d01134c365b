import LibE3.Observations
import LibE3.Proofs.Consistent

/-!
# A dApp does not see what another one asks for

The dApps share one space of subscription identifiers, one subscriber set for each RAN function and
three maps. A call that names one dApp leaves what the table holds for every other dApp as it is.
-/

namespace LibE3

open SubscriptionManager Runs

variable {m m' : SubscriptionManager} {T T' : Table} {a d f id : UInt32}

/-- The dApp whose registration or subscriptions a call is about. -/
def Operation.names : Operation → Option UInt32
  | .unregisterDapp d _ => some d
  | .addSubscription _ d .. => some d
  | .removeSubscription d _ => some d
  | .removeSubscriptionById d _ => some d
  | _ => none

/-- What can be seen of the dApp `a` in two managers is the same. -/
structure SeesTheSame (a : UInt32) (m m' : SubscriptionManager) : Prop where
  registered : m'.isDappRegistered a = m.isDappRegistered a
  subscribed : ∀ f, m'.isSubscribed a f = m.isSubscribed a f
  ranFunctions : ∀ answer, Query.Answers m' (.getDappSubscriptions a) answer ↔
    Query.Answers m (.getDappSubscriptions a) answer
  id : ∀ f, m'.subscriptionIdReverse.lookup (makeSubKey a f) =
    m.subscriptionIdReverse.lookup (makeSubKey a f)
  idHolder : ∀ id f, m'.subscriptionIds.lookup id = some (a, f) ↔
    m.subscriptionIds.lookup id = some (a, f)
  details : ∀ f, m'.getSubscriptionDetails a f = m.getSubscriptionDetails a f
  listed : ∀ time f order order', Visits order (m.ranFunctionSubscribers.ref f) →
    Visits order' (m'.ranFunctionSubscribers.ref f) →
    (a ∈ m'.getSubscribedDapps time f order' ↔ a ∈ m.getSubscribedDapps time f order)

/-- What calls of `remove_subscription_by_id` by the dApp return, one after another. -/
def removalResults (a : UInt32) : SubscriptionManager → List UInt32 → List ErrorCode
  | _, [] => []
  | m, id :: ids =>
    (m.removeSubscriptionById a id).ret ::
      removalResults a (m.removeSubscriptionById a id).mgr ids

structure Table.SameFor (a : UInt32) (T T' : Table) : Prop where
  registered : a ∈ T'.registered ↔ a ∈ T.registered
  entry : T'.entry a = T.entry a

namespace Table.SameFor

theorem refl (a : UInt32) (T : Table) : SameFor a T T := ⟨Iff.rfl, rfl⟩

theorem unregister (h : a ≠ d) : SameFor a T (T.unregister d) := by
  refine ⟨?_, ?_⟩
  · rw [Table.registered_unregister, Set.mem_sdiff, Set.mem_singleton_iff]
    exact and_iff_left h
  · funext f
    rw [Table.entry_unregister, if_neg h]

theorem drop (h : a ≠ d) (f : UInt32) : SameFor a T (T.drop d f) :=
  ⟨Iff.rfl, Table.entry_drop_of_ne f h⟩

theorem grant {e : Entry} (h : a ≠ d) (hg : T.Grantable d f e) :
    SameFor a T (T.grant d f e hg) :=
  ⟨Iff.rfl, Table.entry_grant_of_ne h⟩

theorem drop_both (h : SameFor a T T') (f : UInt32) : SameFor a (T.drop a f) (T'.drop a f) := by
  refine ⟨h.registered, ?_⟩
  rw [Table.entry_drop_self, Table.entry_drop_self, h.entry]

end Table.SameFor

theorem Table.Step.sameFor {op : Operation} {ret : ErrorCode} (h : T.Step op ret T')
    (hn : op.names = some d) (ha : a ≠ d) : T.SameFor a T' := by
  cases h with
  | registerFull _ => exact nomatch hn
  | register _ => exact nomatch hn
  | expire => exact nomatch hn
  | clear => exact nomatch hn
  | unregisterNone _ => exact .refl a T
  | removeNone _ => exact .refl a T
  | removeByIdNone _ => exact .refl a T
  | unregister _ =>
    obtain rfl := Option.some.inj hn
    exact .unregister ha
  | remove _ =>
    obtain rfl := Option.some.inj hn
    exact .drop ha _
  | removeById _ =>
    obtain rfl := Option.some.inj hn
    exact .drop ha _
  | add hadd =>
    obtain rfl := Option.some.inj hn
    cases hadd with
    | unregistered _ => exact .refl a T
    | held _ _ => exact .refl a T
    | full _ _ _ => exact .refl a T
    | renewed _ _ hg => exact .grant ha hg
    | new _ _ hg => exact .grant ha hg

/-- The answers of `get_dapp_subscriptions` list the dApp's set, if it has one or not. -/
theorem answers_getDappSubscriptions {answer : Query.Answer} :
    Query.Answers m (.getDappSubscriptions a) answer ↔
      ∃ order : List UInt32, Visits order (m.dappSubscriptions.ref a) ∧ answer = .ids order := by
  have hlist : ∀ {order : List UInt32}, Visits order (m.dappSubscriptions.ref a) →
      m.getDappSubscriptions a order = order := by
    intro order ho
    unfold getDappSubscriptions
    cases hl : m.dappSubscriptions.lookup a with
    | some subs => rfl
    | none =>
      rw [Finmap.ref_of_notMem (Finmap.lookup_eq_none.mp hl)] at ho
      have hnil : order = [] := List.eq_nil_iff_forall_not_mem.mpr fun f hf =>
        Finset.notMem_empty f (ho.mem_iff.mp hf)
      rw [hnil]
  constructor
  · intro h
    cases h with
    | getDappSubscriptions _ ho => exact ⟨_, ho, by rw [hlist ho]⟩
  · rintro ⟨order, ho, rfl⟩
    have h := Query.Answers.getDappSubscriptions a ho
    rw [hlist ho] at h
    exact h

theorem Represents.seesTheSame (h : Represents m T) (h' : Represents m' T')
    (hs : T.SameFor a T') : SeesTheSame a m m' := by
  have hsubs : m'.dappSubscriptions.ref a = m.dappSubscriptions.ref a := by
    ext f
    rw [h'.subs, h.subs, hs.entry]
  constructor
  · rw [Bool.eq_iff_iff]
    simp only [isDappRegistered, decide_eq_true_eq, h.registered, h'.registered, hs.registered]
  · intro f
    rw [Bool.eq_iff_iff, h'.isSubscribed_iff, h.isSubscribed_iff, hs.entry]
  · intro answer
    rw [answers_getDappSubscriptions, answers_getDappSubscriptions, hsubs]
  · intro f
    rw [h'.reverse, h.reverse, hs.entry]
  · intro id f
    rw [h'.ids, h.ids, hs.entry]
  · intro f
    rw [h'.getSubscriptionDetails_eq, h.getSubscriptionDetails_eq, hs.entry]
  · intro time f order order' ho ho'
    rw [h'.mem_getSubscribedDapps ho', h.mem_getSubscribedDapps ho, hs.entry]

/-- A removal by the dApp succeeds in both managers or in neither, and leaves it the same. -/
theorem removeSubscriptionById_sameFor (h : Represents m T) (h' : Represents m' T')
    (hs : T.SameFor a T') (id : UInt32) :
    (m'.removeSubscriptionById a id).ret = (m.removeSubscriptionById a id).ret ∧
      ∃ U U', Represents (m.removeSubscriptionById a id).mgr U ∧
        Represents (m'.removeSubscriptionById a id).mgr U' ∧ U.SameFor a U' := by
  by_cases hx : ∃ f e, T.entry a f = some e ∧ e.id = id
  · obtain ⟨f, e, he, rfl⟩ := hx
    have he' : T'.entry a f = some e := by rw [hs.entry, he]
    obtain ⟨hret, hrep, -⟩ := removeSubscriptionById_some h he
    obtain ⟨hret', hrep', -⟩ := removeSubscriptionById_some h' he'
    exact ⟨hret'.trans hret.symm, _, _, hrep, hrep', hs.drop_both f⟩
  · push Not at hx
    have hx' : ∀ f e, T'.entry a f = some e → e.id ≠ id := by
      rw [hs.entry]
      exact hx
    rw [removeSubscriptionById_none h hx, removeSubscriptionById_none h' hx']
    exact ⟨rfl, T, T', h, h', hs⟩

theorem removalResults_eq : ∀ (ids : List UInt32) {m m' : SubscriptionManager} {T T' : Table},
    Represents m T → Represents m' T' → T.SameFor a T' →
    removalResults a m' ids = removalResults a m ids
  | [], _, _, _, _, _, _, _ => rfl
  | id :: ids, _, _, _, _, h, h', hs => by
    obtain ⟨hret, U, U', hrep, hrep', hs'⟩ := removeSubscriptionById_sameFor h h' hs id
    rw [removalResults, removalResults, hret, removalResults_eq ids hrep hrep' hs']

/-- In every reachable state, a call that names a dApp leaves every other dApp as it was: its
registration, its RAN functions, the identifier and the details of each subscription, where it is
listed, and what its later removals by identifier return. -/
theorem other_dapps_unchanged {ops : List Operation} (hrun : run step fresh ops = some m)
    {op : Operation} (hp : op.Possible m) (hn : op.names = some d) (ha : a ≠ d) :
    SeesTheSame a m (op.exec m).mgr ∧
      ∀ ids, removalResults a (op.exec m).mgr ids = removalResults a m ids := by
  obtain ⟨T, h⟩ := run_represents hrun
  obtain ⟨T', hstep, h', -⟩ := exec_refines h hp
  have hs := hstep.sameFor hn ha
  exact ⟨h.seesTheSame h' hs, fun ids => removalResults_eq ids h h' hs⟩

/-- A dApp asks for the removal of a subscription that another one holds. -/
theorem other_dapps_unchanged_foreign :
    ∃ m, run step fresh [.registerDapp, .registerDapp, .addSubscription 0 1 7 [1] [] 0 5,
        .addSubscription 0 2 7 [1] [] 0 0] = some m ∧
      SeesTheSame 1 m (Operation.exec m (.removeSubscriptionById 2 1)).mgr ∧
      removalResults 1 (Operation.exec m (.removeSubscriptionById 2 1)).mgr [1, 2] =
        [.success, .subscriptionNotFound] := by
  refine exists_run (fun m => removalResults 1 m [1, 2] = [.success, .subscriptionNotFound])
    (by decide +kernel) fun m hm hr => ?_
  have hp : Operation.Possible m (.removeSubscriptionById 2 1) := trivial
  obtain ⟨hsame, hresults⟩ := other_dapps_unchanged hm hp rfl (show (1 : UInt32) ≠ 2 by decide)
  exact ⟨hsame, (hresults [1, 2]).trans hr⟩

end LibE3
