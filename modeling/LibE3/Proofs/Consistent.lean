import LibE3.Lib.Runs
import LibE3.Proofs.Operations

/-!
# The six maps describe one set of subscriptions

In every state a manager can reach, the maps agree on one set of pairs of a dApp and a RAN
function and on a bijection between it and a set of identifiers, and every identifier it newly
gives out is the least one that is not in use.
-/

namespace LibE3

open SubscriptionManager Runs

/-- The maps of the manager describe one and the same set of subscriptions. -/
structure Consistent (m : SubscriptionManager) : Prop where
  dapps_eq_registered : ∀ d, d ∈ m.dappSubscriptions ↔ d ∈ m.registeredDapps
  registered_range : ∀ d ∈ m.registeredDapps, InIdRange d
  subs_iff_subscriber : ∀ d f,
    f ∈ m.dappSubscriptions.ref d ↔ d ∈ m.ranFunctionSubscribers.ref f
  subscriber_iff_details : ∀ d f,
    d ∈ m.ranFunctionSubscribers.ref f ↔ makeSubKey d f ∈ m.subscriptionDetails
  details_iff_reverse : ∀ k, k ∈ m.subscriptionDetails ↔ k ∈ m.subscriptionIdReverse
  ids_iff_reverse : ∀ id d f, m.subscriptionIds.lookup id = some (d, f) ↔
    m.subscriptionIdReverse.lookup (makeSubKey d f) = some id
  ids_range : ∀ id ∈ m.subscriptionIds, InIdRange id

/-- The manager gives out the least free identifiers, and refuses exactly when none is free. -/
structure GivesLeastFree (m : SubscriptionManager) : Prop where
  /-- A dApp identifier that a call brings into use was the least free one. -/
  dapp_new : ∀ op : Operation, op.Possible m → ∀ id ∈ (op.exec m).mgr.registeredDapps,
    id ∉ m.registeredDapps → LeastFree (· ∈ m.registeredDapps) id
  dapp_given : m.registerDapp.ret.1 = .success →
    LeastFree (· ∈ m.registeredDapps) m.registerDapp.ret.2 ∧
      m.registerDapp.ret.2 ∈ m.registerDapp.mgr.registeredDapps
  dapp_refused : m.registerDapp.ret.1 ≠ .success ↔ ∀ id, InIdRange id → id ∈ m.registeredDapps
  /-- A subscription identifier that a call brings into use was the least free one. -/
  sub_new : ∀ op : Operation, op.Possible m → ∀ id ∈ (op.exec m).mgr.subscriptionIds,
    id ∉ m.subscriptionIds → LeastFree (· ∈ m.subscriptionIds) id
  sub_given : ∀ (now : TimePoint) (d f : UInt32) (ts cs : List UInt32) (p s : UInt32),
    d ∈ m.registeredDapps → f ∉ m.dappSubscriptions.ref d →
    (m.addSubscription now d f ts cs p s).ret.1 = .success →
    LeastFree (· ∈ m.subscriptionIds) (m.addSubscription now d f ts cs p s).ret.2 ∧
      (m.addSubscription now d f ts cs p s).mgr.subscriptionIds.lookup
        (m.addSubscription now d f ts cs p s).ret.2 = some (d, f)
  sub_refused : ∀ (now : TimePoint) (d f : UInt32) (ts cs : List UInt32) (p s : UInt32),
    d ∈ m.registeredDapps → f ∉ m.dappSubscriptions.ref d →
    ((m.addSubscription now d f ts cs p s).ret.1 ≠ .success ↔
      ∀ id, InIdRange id → id ∈ m.subscriptionIds)

variable {m m' : SubscriptionManager} {T : Table}

theorem Represents.consistent (h : Represents m T) : Consistent m where
  dapps_eq_registered d := (h.dapps d).trans (h.registered d).symm
  registered_range d hd := T.registered_range d ((h.registered d).mp hd)
  subs_iff_subscriber d f := (h.subs d f).trans (h.subscribers d f).symm
  subscriber_iff_details d f := (h.subscribers d f).trans h.mem_subscriptionDetails.symm
  details_iff_reverse k := by
    rw [← makeSubKey_key k]
    exact h.mem_subscriptionDetails.trans h.mem_subscriptionIdReverse.symm
  ids_iff_reverse id d f := by
    rw [h.ids, h.reverse, Option.map_eq_some_iff]
  ids_range id hid := by
    obtain ⟨d, f, e, he, rfl⟩ := h.mem_subscriptionIds.mp hid
    exact T.id_range he

theorem Table.Step.registered_new {T' : Table} {op : Operation} {ret : ErrorCode}
    (h : T.Step op ret T') {id : UInt32} (hid : id ∈ T'.registered) (hn : id ∉ T.registered) :
    LeastFree (· ∈ T.registered) id := by
  cases h with
  | register hlf =>
    rcases hid with rfl | hid
    · exact hlf
    · exact absurd hid hn
  | unregister hd => exact absurd hid.1 hn
  | add ha =>
    cases ha with
    | unregistered _ => exact absurd hid hn
    | held _ _ => exact absurd hid hn
    | renewed _ _ _ => exact absurd hid hn
    | full _ _ _ => exact absurd hid hn
    | new _ _ _ => exact absurd hid hn
  | clear => exact absurd hid (Set.notMem_empty id)
  | registerFull _ => exact absurd hid hn
  | unregisterNone _ => exact absurd hid hn
  | removeNone _ => exact absurd hid hn
  | remove _ => exact absurd hid hn
  | removeByIdNone _ => exact absurd hid hn
  | removeById _ => exact absurd hid hn
  | expire => exact absurd hid hn

theorem Table.IdInUse.of_filter {keep} {id : UInt32} (h : (T.filter keep).IdInUse id) :
    T.IdInUse id := by
  obtain ⟨d, f, e, he, hid⟩ := h
  exact ⟨d, f, e, (Option.filter_eq_some_iff.mp he).1, hid⟩

theorem Table.IdInUse.of_grant {d f id : UInt32} {e : Entry} {hg : T.Grantable d f e}
    (h : (T.grant d f e hg).IdInUse id) : id = e.id ∨ T.IdInUse id := by
  obtain ⟨d', f', e', he, rfl⟩ := h
  rw [Table.entry_grant] at he
  split_ifs at he
  · left
    rw [Option.some.inj he]
  · exact .inr ⟨d', f', e', he, rfl⟩

theorem Table.Step.id_new {T' : Table} {op : Operation} {ret : ErrorCode}
    (h : T.Step op ret T') {id : UInt32} (hid : T'.IdInUse id) (hn : ¬ T.IdInUse id) :
    LeastFree T.IdInUse id := by
  cases h with
  | add ha =>
    cases ha with
    | unregistered _ => exact absurd hid hn
    | held _ _ => exact absurd hid hn
    | full _ _ _ => exact absurd hid hn
    | renewed he _ _ =>
      rcases hid.of_grant with rfl | hid
      · exact absurd ⟨_, _, _, he, rfl⟩ hn
      · exact absurd hid hn
    | new _ hlf _ =>
      rcases hid.of_grant with rfl | hid
      · exact hlf
      · exact absurd hid hn
  | unregister hd =>
    obtain ⟨d', f, e, he, hi⟩ := hid
    rw [Table.entry_unregister] at he
    split_ifs at he
    exact absurd ⟨d', f, e, he, hi⟩ hn
  | remove _ => exact absurd hid.of_filter hn
  | removeById _ => exact absurd hid.of_filter hn
  | expire => exact absurd hid.of_filter hn
  | clear =>
    obtain ⟨d, f, e, he, -⟩ := hid
    exact nomatch he
  | registerFull _ => exact absurd hid hn
  | register _ => exact absurd hid hn
  | unregisterNone _ => exact absurd hid hn
  | removeNone _ => exact absurd hid hn
  | removeByIdNone _ => exact absurd hid hn

theorem leastFree_registered (h : Represents m T) {id : UInt32} :
    LeastFree (· ∈ m.registeredDapps) id ↔ LeastFree (· ∈ T.registered) id := by
  simp only [h.registered]

theorem leastFree_ids (h : Represents m T) {id : UInt32} :
    LeastFree (· ∈ m.subscriptionIds) id ↔ LeastFree T.IdInUse id := by
  simp only [h.mem_subscriptionIds]

theorem Represents.dapp_given (h : Represents m T) :
    (m.registerDapp.ret.1 = .success →
      LeastFree (· ∈ m.registeredDapps) m.registerDapp.ret.2 ∧
        m.registerDapp.ret.2 ∈ m.registerDapp.mgr.registeredDapps) ∧
    (m.registerDapp.ret.1 ≠ .success ↔ ∀ id, InIdRange id → id ∈ m.registeredDapps) := by
  simp only [h.registered]
  by_cases hfull : ∀ id, InIdRange id → id ∈ T.registered
  · rw [registerDapp_full h hfull]
    exact ⟨(fun hs => nomatch hs), iff_of_true (by simp) hfull⟩
  · obtain ⟨id, hid, hret, -, hrep⟩ := registerDapp_free h (by push Not at hfull; exact hfull)
    rw [hret]
    refine ⟨fun _ => ⟨hid, ?_⟩, iff_of_false (by simp) hfull⟩
    exact (hrep.registered id).mpr (Set.mem_insert id _)

theorem Represents.sub_given (h : Represents m T) (now : TimePoint) (d f : UInt32)
    (ts cs : List UInt32) (p s : UInt32) (hd : d ∈ m.registeredDapps)
    (hf : f ∉ m.dappSubscriptions.ref d) :
    ((m.addSubscription now d f ts cs p s).ret.1 = .success →
      LeastFree (· ∈ m.subscriptionIds) (m.addSubscription now d f ts cs p s).ret.2 ∧
        (m.addSubscription now d f ts cs p s).mgr.subscriptionIds.lookup
          (m.addSubscription now d f ts cs p s).ret.2 = some (d, f)) ∧
    ((m.addSubscription now d f ts cs p s).ret.1 ≠ .success ↔
      ∀ id, InIdRange id → id ∈ m.subscriptionIds) := by
  rw [h.registered] at hd
  rw [h.subs] at hf
  simp only [h.mem_subscriptionIds]
  obtain ⟨T', ha, hrep, -⟩ := addSubscription_spec h now d f ts cs p s
  generalize m.addSubscription now d f ts cs p s = r at ha hrep ⊢
  obtain ⟨mgr, ret, checks⟩ := r
  cases ha with
  | unregistered hd' => exact absurd hd hd'
  | held he _ => exact absurd (by rw [he]; rfl) hf
  | renewed he _ _ => exact absurd (by rw [he]; rfl) hf
  | full _ _ hall => exact ⟨(fun hs => nomatch hs), iff_of_true (by simp) hall⟩
  | new hn hlf hg =>
    refine ⟨fun _ => ⟨hlf, ?_⟩, iff_of_false (by simp) fun hall => hlf.free (hall _ hlf.range)⟩
    exact (hrep.ids _ d f).mpr ⟨_, Table.entry_grant_pair, rfl⟩

theorem Represents.givesLeastFree (h : Represents m T) : GivesLeastFree m where
  dapp_new op hp id hid hn := by
    obtain ⟨T', hstep, hrep, -⟩ := exec_refines h hp
    rw [leastFree_registered h]
    exact hstep.registered_new ((hrep.registered id).mp hid) fun hi =>
      hn ((h.registered id).mpr hi)
  dapp_given := h.dapp_given.1
  dapp_refused := h.dapp_given.2
  sub_new op hp id hid hn := by
    obtain ⟨T', hstep, hrep, -⟩ := exec_refines h hp
    rw [leastFree_ids h]
    exact hstep.id_new (hrep.mem_subscriptionIds.mp hid) fun hi =>
      hn (h.mem_subscriptionIds.mpr hi)
  sub_given now d f ts cs p s hd hf := (h.sub_given now d f ts cs p s hd hf).1
  sub_refused now d f ts cs p s hd hf := (h.sub_given now d f ts cs p s hd hf).2

theorem step_represents {op : Operation} (h : ∃ T, Represents m T) (hs : m.step op = some m') :
    ∃ T', Represents m' T' := by
  obtain ⟨T, h⟩ := h
  unfold SubscriptionManager.step at hs
  split_ifs at hs with hp
  obtain ⟨T', -, hrep, -⟩ := exec_refines h hp
  exact ⟨T', Option.some.inj hs ▸ hrep⟩

theorem run_represents {ops : List Operation} (h : run step fresh ops = some m) :
    ∃ T, Represents m T :=
  inv step_represents ⟨_, represents_fresh⟩ h

/-- After any calls on a fresh manager, the maps agree and new identifiers are the least free. -/
theorem reachable_consistent {ops : List Operation} (h : run step fresh ops = some m) :
    Consistent m ∧ GivesLeastFree m := by
  obtain ⟨T, hrep⟩ := run_represents h
  exact ⟨hrep.consistent, hrep.givesLeastFree⟩

/-- Two dApps share a RAN function, one subscription runs out and is swept, its dApp leaves. -/
theorem reachable_consistent_after_sweep :
    ∃ m, run step fresh [.registerDapp, .registerDapp, .addSubscription 0 1 7 [1] [] 0 5,
        .addSubscription 1 2 7 [1] [2] 10 0, .expireSubscriptions 5000000000
          [makeSubKey 2 7, makeSubKey 1 7], .unregisterDapp 1 []] = some m ∧
      Consistent m ∧ GivesLeastFree m := by
  obtain ⟨m, hm⟩ := Option.isSome_iff_exists.mp (show (run step fresh [.registerDapp,
    .registerDapp, .addSubscription 0 1 7 [1] [] 0 5, .addSubscription 1 2 7 [1] [2] 10 0,
    .expireSubscriptions 5000000000 [makeSubKey 2 7, makeSubKey 1 7],
    .unregisterDapp 1 []]).isSome = true by decide +kernel)
  exact ⟨m, hm, reachable_consistent hm⟩

end LibE3
