import LibE3.Table

/-!
# The maps of a manager and the table they stand for

The six maps of a manager describe a table. This is kept in two parts, since the loop of
`unregister_dapp` leaves `dapp_subscriptions_` behind until its end. The removals of the source
erase in different orders; `Drops` says what all of them come to.
-/

namespace LibE3

open SubscriptionManager

/-- The maps that are indexed by RAN function, key or subscription identifier describe `T`. -/
structure Indexed (m : SubscriptionManager) (T : Table) : Prop where
  subscribers : ∀ d f, d ∈ m.ranFunctionSubscribers.ref f ↔ (T.entry d f).isSome
  reverse : ∀ d f, m.subscriptionIdReverse.lookup (makeSubKey d f) = (T.entry d f).map Entry.id
  details : ∀ d f, m.subscriptionDetails.lookup (makeSubKey d f) = (T.entry d f).map Entry.details
  ids : ∀ id d f, m.subscriptionIds.lookup id = some (d, f) ↔ ∃ e, T.entry d f = some e ∧ e.id = id

/-- All the maps of `m` describe `T`. -/
structure Represents (m : SubscriptionManager) (T : Table) : Prop extends Indexed m T where
  registered : ∀ d, d ∈ m.registeredDapps ↔ d ∈ T.registered
  dapps : ∀ d, d ∈ m.dappSubscriptions ↔ d ∈ T.registered
  subs : ∀ d f, f ∈ m.dappSubscriptions.ref d ↔ (T.entry d f).isSome

variable {m m' : SubscriptionManager} {T T' : Table} {d f : UInt32}

theorem represents_fresh : Represents fresh Table.empty where
  subscribers d f := by simp [fresh, Table.empty]
  reverse d f := by simp [fresh, Table.empty]
  details d f := by simp [fresh, Table.empty]
  ids id d f := by simp [fresh, Table.empty]
  registered _ := iff_of_false Finmap.notMem_empty (Set.notMem_empty _)
  dapps _ := iff_of_false Finmap.notMem_empty (Set.notMem_empty _)
  subs d f := by simp [fresh, Table.empty]

namespace Indexed

theorem mem_subscriptionIds (h : Indexed m T) {id : UInt32} :
    id ∈ m.subscriptionIds ↔ T.IdInUse id := by
  rw [Finmap.mem_iff]
  constructor
  · rintro ⟨⟨d, f⟩, hl⟩
    obtain ⟨e, he, hid⟩ := (h.ids id d f).mp hl
    exact ⟨d, f, e, he, hid⟩
  · rintro ⟨d, f, e, he, hid⟩
    exact ⟨(d, f), (h.ids id d f).mpr ⟨e, he, hid⟩⟩

theorem mem_subscriptionDetails (h : Indexed m T) :
    makeSubKey d f ∈ m.subscriptionDetails ↔ (T.entry d f).isSome := by
  rw [← Finmap.lookup_isSome, h.details]
  simp

theorem mem_subscriptionIdReverse (h : Indexed m T) :
    makeSubKey d f ∈ m.subscriptionIdReverse ↔ (T.entry d f).isSome := by
  rw [← Finmap.lookup_isSome, h.reverse]
  simp

theorem ref_subscribers_ne_empty (h : Indexed m T) :
    m.ranFunctionSubscribers.ref f ≠ ∅ ↔ T.Served f := by
  rw [← Finset.nonempty_iff_ne_empty, Table.served_iff_isSome]
  exact exists_congr fun d => h.subscribers d f

theorem hasSubscribers_iff (h : Indexed m T) : m.hasSubscribers f = true ↔ T.Served f := by
  rw [← h.ref_subscribers_ne_empty]
  unfold hasSubscribers Finmap.ref
  cases m.ranFunctionSubscribers.lookup f with
  | none => simp
  | some subscribers => simp

theorem congr_entry (h : Indexed m T) (he : T.entry = T'.entry) : Indexed m T' := by
  obtain ⟨h₁, h₂, h₃, h₄⟩ := h
  rw [he] at h₁ h₂ h₃ h₄
  exact ⟨h₁, h₂, h₃, h₄⟩

end Indexed

namespace Represents

theorem isSubscribed_iff (h : Represents m T) :
    m.isSubscribed d f = true ↔ (T.entry d f).isSome := by
  rw [← h.subs]
  unfold isSubscribed Finmap.ref
  cases m.dappSubscriptions.lookup d with
  | none => simp
  | some subs => simp

theorem getSubscriptionDetails_eq (h : Represents m T) :
    m.getSubscriptionDetails d f = (T.entry d f).map Entry.details :=
  h.details d f

theorem mem_getSubscribedDapps (h : Represents m T) {time : TimePoint} {order : List UInt32}
    (ho : Visits order (m.ranFunctionSubscribers.ref f)) :
    d ∈ m.getSubscribedDapps time f order ↔
      ∃ e, T.entry d f = some e ∧ isExpired e.details time = false := by
  have hmem := ho.mem_iff.trans (h.subscribers d f)
  unfold getSubscribedDapps
  cases hl : m.ranFunctionSubscribers.lookup f with
  | none =>
    rw [Finmap.ref_of_notMem (Finmap.lookup_eq_none.mp hl)] at ho
    have hnot : d ∉ order := by rw [ho.mem_iff]; exact Finset.notMem_empty d
    rw [hmem, Option.not_isSome_iff_eq_none] at hnot
    simp [hnot]
  | some subscribers =>
    simp only [List.mem_filter, hmem, h.details]
    cases T.entry d f with
    | none => simp
    | some e => cases hx : e.details.expiresAt <;> simp [isExpired, hx]

end Represents

theorem nodup_getSubscribedDapps {time : TimePoint} {order : List UInt32}
    (ho : Visits order (m.ranFunctionSubscribers.ref f)) :
    (m.getSubscribedDapps time f order).Nodup := by
  unfold getSubscribedDapps
  split
  · exact List.nodup_nil
  · exact ho.nodup.filter _

/-- `m'` is `m` without the pair, in the maps that are not indexed by dApp. -/
structure Drops (m m' : SubscriptionManager) (d f : UInt32) : Prop where
  subscribers : ∀ g, m'.ranFunctionSubscribers.ref g =
    if g = f then (m.ranFunctionSubscribers.ref f).erase d else m.ranFunctionSubscribers.ref g
  reverse : ∀ k, m'.subscriptionIdReverse.lookup k =
    if k = makeSubKey d f then none else m.subscriptionIdReverse.lookup k
  details : ∀ k, m'.subscriptionDetails.lookup k =
    if k = makeSubKey d f then none else m.subscriptionDetails.lookup k
  ids : ∀ i, m'.subscriptionIds.lookup i =
    if m.subscriptionIdReverse.lookup (makeSubKey d f) = some i then none
    else m.subscriptionIds.lookup i

theorem Indexed.drop (h : Indexed m T) (hd : Drops m m' d f) : Indexed m' (T.drop d f) where
  subscribers d' f' := by
    rw [hd.subscribers, Table.entry_drop]
    by_cases hf : f' = f
    · subst hf
      by_cases hdd : d' = d
      · simp [hdd]
      · simp [hdd, h.subscribers]
    · simp [hf, h.subscribers]
  reverse d' f' := by
    simp only [hd.reverse, Table.entry_drop, makeSubKey_inj, h.reverse]
    split_ifs <;> rfl
  details d' f' := by
    simp only [hd.details, Table.entry_drop, makeSubKey_inj, h.details]
    split_ifs <;> rfl
  ids id d' f' := by
    rw [hd.ids, h.reverse, Table.entry_drop]
    by_cases hp : d' = d ∧ f' = f
    · obtain ⟨rfl, rfl⟩ := hp
      simp only [and_self, if_true]
      constructor
      · intro hl
        split_ifs at hl with hid
        obtain ⟨e, he, hi⟩ := (h.ids id d' f').mp hl
        exact absurd (by rw [he, ← hi]; rfl) hid
      · rintro ⟨e, he, -⟩
        cases he
    · rw [if_neg hp]
      split_ifs with hid
      · obtain ⟨e₀, he₀, rfl⟩ := Option.map_eq_some_iff.mp hid
        refine iff_of_false ?_ ?_
        · rintro ⟨⟩
        · rintro ⟨e, he, hi⟩
          exact hp (T.id_inj he he₀ hi)
      · exact h.ids id d' f'

section Frame

variable (m : SubscriptionManager) (d f : UInt32) (k : UInt64)

theorem eraseSubscriber_ref (g : UInt32) :
    (m.eraseSubscriber d f).ranFunctionSubscribers.ref g =
      if g = f then (m.ranFunctionSubscribers.ref f).erase d
      else m.ranFunctionSubscribers.ref g :=
  Finmap.ref_insert _ _ _ _

theorem eraseSubId_lookup_reverse (j : UInt64) :
    (m.eraseSubId k).subscriptionIdReverse.lookup j =
      if j = k then none else m.subscriptionIdReverse.lookup j := by
  unfold eraseSubId
  split
  · rename_i hnone
    split_ifs with hj
    · rw [hj, hnone]
    · rfl
  · exact Finmap.lookup_erase_ite _ _ _

theorem eraseSubId_lookup_ids (i : UInt32) :
    (m.eraseSubId k).subscriptionIds.lookup i =
      if m.subscriptionIdReverse.lookup k = some i then none else m.subscriptionIds.lookup i := by
  unfold eraseSubId
  split
  · rename_i hnone
    simp [hnone]
  · rename_i id hid
    simp only [Finmap.lookup_erase_ite, hid, Option.some.injEq, eq_comm]

@[simp] theorem eraseSubId_registeredDapps :
    (m.eraseSubId k).registeredDapps = m.registeredDapps := by
  unfold eraseSubId
  split <;> rfl

@[simp] theorem eraseSubId_dappSubscriptions :
    (m.eraseSubId k).dappSubscriptions = m.dappSubscriptions := by
  unfold eraseSubId
  split <;> rfl

@[simp] theorem eraseSubId_ranFunctionSubscribers :
    (m.eraseSubId k).ranFunctionSubscribers = m.ranFunctionSubscribers := by
  unfold eraseSubId
  split <;> rfl

@[simp] theorem eraseSubId_subscriptionDetails :
    (m.eraseSubId k).subscriptionDetails = m.subscriptionDetails := by
  unfold eraseSubId
  split <;> rfl

theorem eraseDappSub_eq :
    m.eraseDappSub d f =
      { m with dappSubscriptions := (m.eraseDappSub d f).dappSubscriptions } := by
  unfold eraseDappSub
  split <;> rfl

theorem eraseDappSub_eraseSubId :
    ((m.eraseSubId k).eraseDappSub d f).dappSubscriptions =
      (m.eraseDappSub d f).dappSubscriptions := by
  unfold eraseDappSub
  rw [eraseSubId_dappSubscriptions]
  split <;> simp

theorem eraseDappSub_ref (d' : UInt32) :
    (m.eraseDappSub d f).dappSubscriptions.ref d' =
      if d' = d then (m.dappSubscriptions.ref d).erase f else m.dappSubscriptions.ref d' := by
  unfold eraseDappSub
  split
  · rename_i hnone
    have hd : m.dappSubscriptions.ref d = ∅ :=
      Finmap.ref_of_notMem (Finmap.lookup_eq_none.mp hnone)
    split_ifs with hd'
    · rw [hd', hd, Finset.erase_empty]
    · rfl
  · rename_i subs hsubs
    rw [Finmap.ref_insert, Finmap.ref_of_lookup hsubs]

theorem mem_eraseDappSub {d' : UInt32} :
    d' ∈ (m.eraseDappSub d f).dappSubscriptions ↔ d' ∈ m.dappSubscriptions := by
  unfold eraseDappSub
  split
  · rfl
  · rename_i subs hsubs
    rw [Finmap.mem_insert, or_iff_right_of_imp]
    rintro rfl
    exact Finmap.mem_of_lookup_eq_some hsubs

end Frame

theorem Indexed.eraseDappSub (h : Indexed m T) (d f : UInt32) : Indexed (m.eraseDappSub d f) T := by
  rw [eraseDappSub_eq]
  exact ⟨h.subscribers, h.reverse, h.details, h.ids⟩

theorem drops_eraseSubscriber (m : SubscriptionManager) (d f : UInt32) :
    Drops m (((m.eraseSubscriber d f).eraseSubId (makeSubKey d f)).eraseDetails (makeSubKey d f))
      d f where
  subscribers g := by
    simpa [eraseDetails] using eraseSubscriber_ref m d f g
  reverse k := eraseSubId_lookup_reverse _ _ _
  details k := by
    simp only [eraseDetails, eraseSubId_subscriptionDetails]
    exact Finmap.lookup_erase_ite m.subscriptionDetails _ _
  ids i := eraseSubId_lookup_ids _ _ _

theorem Drops.congr_left {m₀ : SubscriptionManager} (h : Drops m m' d f)
    (hm : ∃ s, m = { m₀ with dappSubscriptions := s }) : Drops m₀ m' d f := by
  obtain ⟨s, rfl⟩ := hm
  exact ⟨h.subscribers, h.reverse, h.details, h.ids⟩

/-- A removal that also leaves the dApp's set without the RAN function keeps the maps in step. -/
theorem Represents.drop (h : Represents m T) (hd : Drops m m' d f)
    (hreg : m'.registeredDapps = m.registeredDapps)
    (hsubs : m'.dappSubscriptions = (m.eraseDappSub d f).dappSubscriptions) :
    Represents m' (T.drop d f) where
  toIndexed := h.toIndexed.drop hd
  registered d' := by
    rw [hreg]
    exact h.registered d'
  dapps d' := by
    rw [hsubs, mem_eraseDappSub]
    exact h.dapps d'
  subs d' f' := by
    rw [hsubs, eraseDappSub_ref, Table.entry_drop]
    by_cases hd' : d' = d
    · subst hd'
      by_cases hf' : f' = f
      · simp [hf']
      · simp [hf', h.subs]
    · simp [hd', h.subs]

end LibE3
