import LibE3.Proofs.Represents

/-!
# The operations of the manager, on tables

One specification for each operation: what it returns, which table it leaves, and which checks it
asks for. `Reports` is the same for all of them: an operation asks about exactly the RAN functions
that it gave a first subscriber or took the last one from, once each.
-/

namespace LibE3

open SubscriptionManager

/-- `checks` asks once about each RAN function that `T` and `T'` serve differently, and says
whether `T` served it. -/
structure Reports (T T' : Table) (checks : List (UInt32 × Bool)) : Prop where
  nodup : (checks.map Prod.fst).Nodup
  mem_iff : ∀ f had, (f, had) ∈ checks ↔ (T.Served f ↔ had = true) ∧ ¬ (T'.Served f ↔ had = true)

variable {m m' : SubscriptionManager} {T T' : Table} {d f id : UInt32}

theorem Reports.of_served_iff (h : ∀ f, T.Served f ↔ T'.Served f) : Reports T T' [] where
  nodup := List.nodup_nil
  mem_iff f had := by
    rw [h f]
    simp

theorem Reports.refl (T : Table) : Reports T T [] := .of_served_iff fun _ => Iff.rfl

/-! ## Registration -/

theorem registerDapp_full (h : Represents m T) (hfull : ∀ id, InIdRange id → id ∈ T.registered) :
    m.registerDapp = ⟨m, (.internalError, 0), []⟩ := by
  have h0 : lowestFreeId m.registeredDapps = 0 :=
    lowestFreeId_eq_zero_iff.mpr fun id hid => (h.registered id).mpr (hfull id hid)
  simp only [registerDapp, h0, if_true]

theorem registerDapp_free (h : Represents m T) (hfree : ∃ id, InIdRange id ∧ id ∉ T.registered) :
    ∃ id, ∃ hid : LeastFree (· ∈ T.registered) id,
      m.registerDapp.ret = (.success, id) ∧ m.registerDapp.checks = [] ∧
        Represents m.registerDapp.mgr (T.register id hid.range) := by
  have hne : lowestFreeId m.registeredDapps ≠ 0 := by
    intro h0
    obtain ⟨id, hid, hnot⟩ := hfree
    exact hnot ((h.registered id).mp (lowestFreeId_eq_zero_iff.mp h0 id hid))
  have hlf := leastFree_lowestFreeId hne
  simp only [h.registered] at hlf
  refine ⟨lowestFreeId m.registeredDapps, hlf, ?_⟩
  simp only [registerDapp, hne, if_false, true_and]
  generalize lowestFreeId m.registeredDapps = id at hlf
  refine ⟨⟨h.subscribers, h.reverse, h.details, h.ids⟩, ?_, ?_, ?_⟩
  · intro d
    simp only [Finmap.mem_insert, h.registered, Table.registered_register, Set.mem_insert_iff]
  · intro d
    simp only [Finmap.mem_insert, h.dapps, Table.registered_register, Set.mem_insert_iff]
  · intro d f
    rw [Finmap.ref_insert, Table.entry_register]
    split_ifs with hd
    · simp [hd, Table.entry_eq_none_of_notMem hlf.free]
    · exact h.subs d f

/-! ## Removals -/

/-- What a sequence of removals has reported: the RAN functions that `T₀` served and `T` does
not. -/
structure Emptied (T₀ T : Table) (checks : List (UInt32 × Bool)) : Prop where
  shrinks : ∀ f, T.Served f → T₀.Served f
  nodup : (checks.map Prod.fst).Nodup
  mem_iff : ∀ f had, (f, had) ∈ checks ↔ had = true ∧ T₀.Served f ∧ ¬ T.Served f

theorem Emptied.nil (T : Table) : Emptied T T [] where
  shrinks _ h := h
  nodup := List.nodup_nil
  mem_iff f had := by simp

variable {T₀ : Table}

theorem Emptied.reports {checks : List (UInt32 × Bool)} (h : Emptied T₀ T checks) :
    Reports T₀ T checks where
  nodup := h.nodup
  mem_iff f had := by
    rw [h.mem_iff]
    have := h.shrinks f
    cases had with
    | true => simp
    | false => simpa using mt this

/-- One more removal reports its RAN function exactly when it took the last subscriber. -/
theorem Emptied.drop {checks : List (UInt32 × Bool)} (h : Emptied T₀ T checks)
    (hs : (T.entry d f).isSome) (hi : Indexed m' (T.drop d f)) :
    Emptied T₀ (T.drop d f)
      (checks ++ if m'.ranFunctionSubscribers.ref f = ∅ then [(f, true)] else []) := by
  have hserved : T.Served f := Table.served_iff_isSome.mpr ⟨d, hs⟩
  have hlast : m'.ranFunctionSubscribers.ref f = ∅ ↔ ¬ (T.drop d f).Served f := by
    rw [← hi.ref_subscribers_ne_empty, not_not]
  refine ⟨fun g hg => h.shrinks g (Table.served_of_drop hg), ?_, ?_⟩
  · split_ifs
    · rw [List.map_append, List.nodup_append]
      refine ⟨h.nodup, by simp, ?_⟩
      rintro g hg g' hg' rfl
      obtain ⟨⟨g, had⟩, hmem, rfl⟩ := List.mem_map.mp hg
      simp only [List.map_cons, List.map_nil, List.mem_singleton] at hg'
      exact ((h.mem_iff g had).mp hmem).2.2 (hg' ▸ hserved)
    · simpa using h.nodup
  · intro g had
    rw [List.mem_append, h.mem_iff]
    by_cases hg : g = f
    · subst hg
      have := h.shrinks g hserved
      split_ifs with hdrop <;> rw [hlast] at hdrop <;> simp [hserved, hdrop, this]
    · rw [Table.served_drop_of_ne hg]
      split_ifs <;> simp [hg]

theorem lastGone_eq (h : Indexed m T) (hs : T.Served f) :
    lastGone m m' f = if m'.ranFunctionSubscribers.ref f = ∅ then [(f, true)] else [] := by
  have hhad := h.ref_subscribers_ne_empty.mpr hs
  simp only [lastGone, hhad, true_and, ne_eq, not_not, not_false_eq_true]

theorem lastGone_reports (h : Indexed m T) (hs : (T.entry d f).isSome)
    {m₂ : SubscriptionManager} (hi : Indexed m' (T.drop d f))
    (href : m₂.ranFunctionSubscribers = m'.ranFunctionSubscribers) :
    Reports T (T.drop d f) (lastGone m m₂ f) := by
  rw [lastGone_eq h (Table.served_iff_isSome.mpr ⟨d, hs⟩), href]
  exact ((Emptied.nil T).drop hs hi).reports

theorem removeSubscription_none (h : Represents m T) (hn : T.entry d f = none) :
    m.removeSubscription d f = ⟨m, .subscriptionNotFound, []⟩ := by
  have hnot : f ∉ m.dappSubscriptions.ref d := by simp [h.subs, hn]
  unfold removeSubscription
  split
  · rfl
  · rename_i subs hsubs
    rw [Finmap.ref_of_lookup hsubs] at hnot
    rw [if_pos hnot]

theorem removeSubscription_some (h : Represents m T) (hs : (T.entry d f).isSome) :
    (m.removeSubscription d f).ret = .success ∧
      Represents (m.removeSubscription d f).mgr (T.drop d f) ∧
      Reports T (T.drop d f) (m.removeSubscription d f).checks := by
  have hmem := (h.subs d f).mpr hs
  have hsubs : m.dappSubscriptions.lookup d = some (m.dappSubscriptions.ref d) := by
    obtain ⟨s, hl⟩ := Finmap.mem_iff.mp ((h.dapps d).mpr (T.entry_registered
      (Option.eq_some_of_isSome hs)))
    rw [Finmap.ref_of_lookup hl, hl]
  simp only [removeSubscription, hsubs, hmem, not_true_eq_false, if_false, true_and]
  have hdrops : Drops m ((((m.eraseDappSub d f).eraseSubscriber d f).eraseSubId
      (makeSubKey d f)).eraseDetails (makeSubKey d f)) d f :=
    (drops_eraseSubscriber (m.eraseDappSub d f) d f).congr_left ⟨_, eraseDappSub_eq m d f⟩
  have hrep := h.drop hdrops (by rw [eraseDappSub_eq]; simp [eraseDetails, eraseSubscriber])
    (by simp [eraseDetails, eraseSubscriber])
  exact ⟨hrep, lastGone_reports (h.toIndexed.eraseDappSub d f) hs hrep.toIndexed
    (by simp [eraseDetails])⟩

theorem removeSubscriptionById_none (h : Represents m T)
    (hn : ∀ f e, T.entry d f = some e → e.id ≠ id) :
    m.removeSubscriptionById d id = ⟨m, .subscriptionNotFound, []⟩ := by
  unfold removeSubscriptionById
  split
  · rfl
  · rename_i d' f hid
    obtain ⟨e, he, hi⟩ := (h.ids id d' f).mp hid
    have hd : d' ≠ d := by
      rintro rfl
      exact hn f e he hi
    rw [if_pos hd]

variable {e : Entry}

theorem removeSubscriptionById_some (h : Represents m T) (he : T.entry d f = some e) :
    (m.removeSubscriptionById d e.id).ret = .success ∧
      Represents (m.removeSubscriptionById d e.id).mgr (T.drop d f) ∧
      Reports T (T.drop d f) (m.removeSubscriptionById d e.id).checks := by
  have hid : m.subscriptionIds.lookup e.id = some (d, f) := (h.ids e.id d f).mpr ⟨e, he, rfl⟩
  have hs : (T.entry d f).isSome := by rw [he]; rfl
  simp only [removeSubscriptionById, hid, ne_eq, not_true_eq_false, if_false, true_and]
  have hdrops : Drops m { (m.eraseDappSub d f).eraseSubscriber d f with
      subscriptionIdReverse := m.subscriptionIdReverse.erase (makeSubKey d f)
      subscriptionIds := m.subscriptionIds.erase e.id
      subscriptionDetails := m.subscriptionDetails.erase (makeSubKey d f) } d f := by
    refine ⟨fun g => ?_, fun k => Finmap.lookup_erase_ite _ _ _,
      fun k => Finmap.lookup_erase_ite _ _ _, fun i => ?_⟩
    · rw [eraseSubscriber_ref, eraseDappSub_eq]
    · simp only [Finmap.lookup_erase_ite, h.reverse, he, Option.map_some, Option.some.injEq,
        eq_comm]
  have hrep := h.drop hdrops (by rw [eraseDappSub_eq]; rfl) rfl
  rw [eraseDappSub_eq]
  rw [eraseDappSub_eq] at hrep
  exact ⟨hrep, lastGone_reports ⟨h.subscribers, h.reverse, h.details, h.ids⟩ hs hrep.toIndexed rfl⟩

/-! ## The loop of `unregister_dapp` -/

theorem unregisterStep_spec {checks : List (UInt32 × Bool)} (h : Indexed m T)
    (hs : (T.entry d f).isSome) (hc : Emptied T₀ T checks) :
    Indexed (unregisterStep d (m, checks) f).1 (T.drop d f) ∧
      Emptied T₀ (T.drop d f) (unregisterStep d (m, checks) f).2 ∧
      (unregisterStep d (m, checks) f).1.dappSubscriptions = m.dappSubscriptions ∧
      (unregisterStep d (m, checks) f).1.registeredDapps = m.registeredDapps := by
  have hi := h.drop (drops_eraseSubscriber m d f)
  refine ⟨hi, ?_, ?_, ?_⟩
  · simp only [unregisterStep]
    rw [lastGone_eq h (Table.served_iff_isSome.mpr ⟨d, hs⟩)]
    have href : (m.eraseSubscriber d f).ranFunctionSubscribers =
        (((m.eraseSubscriber d f).eraseSubId (makeSubKey d f)).eraseDetails
          (makeSubKey d f)).ranFunctionSubscribers := by
      simp [eraseDetails]
    rw [href]
    exact hc.drop hs hi
  · simp [unregisterStep, eraseDetails, eraseSubscriber]
  · simp [unregisterStep, eraseDetails, eraseSubscriber]

theorem unregister_loop : ∀ (l : List UInt32) {T : Table} {m : SubscriptionManager}
    {checks : List (UInt32 × Bool)}, Indexed m T → l.Nodup →
    (∀ f ∈ l, (T.entry d f).isSome) → Emptied T₀ T checks →
    Indexed (l.foldl (unregisterStep d) (m, checks)).1 (T.dropAll d l) ∧
      Emptied T₀ (T.dropAll d l) (l.foldl (unregisterStep d) (m, checks)).2 ∧
      (l.foldl (unregisterStep d) (m, checks)).1.dappSubscriptions = m.dappSubscriptions ∧
      (l.foldl (unregisterStep d) (m, checks)).1.registeredDapps = m.registeredDapps
  | [], T, m, checks, h, _, _, hc => ⟨h, hc, rfl, rfl⟩
  | f :: l, T, m, checks, h, hn, hs, hc => by
    obtain ⟨hi, hc', hds, hrd⟩ := unregisterStep_spec h (hs f List.mem_cons_self) hc
    rw [List.nodup_cons] at hn
    have hs' : ∀ g ∈ l, ((T.drop d f).entry d g).isSome := by
      intro g hg
      have hgf : g ≠ f := by
        rintro rfl
        exact hn.1 hg
      rw [Table.entry_drop, if_neg fun hp => hgf hp.2]
      exact hs g (List.mem_cons_of_mem f hg)
    obtain ⟨hi₂, hc₂, hds₂, hrd₂⟩ := unregister_loop l hi hn.2 hs' hc'
    exact ⟨hi₂, hc₂, hds₂.trans hds, hrd₂.trans hrd⟩

theorem unregisterDapp_none (h : Represents m T) (hn : d ∉ T.registered) (order : List UInt32) :
    m.unregisterDapp d order = ⟨m, .dappNotRegistered, []⟩ := by
  have hnot : d ∉ m.registeredDapps := fun hd => hn ((h.registered d).mp hd)
  simp [unregisterDapp, hnot]

theorem unregisterDapp_some {order : List UInt32} (h : Represents m T) (hd : d ∈ T.registered)
    (ho : Visits order (m.dappSubscriptions.ref d)) :
    (m.unregisterDapp d order).ret = .success ∧
      Represents (m.unregisterDapp d order).mgr (T.unregister d) ∧
      Reports T (T.unregister d) (m.unregisterDapp d order).checks := by
  have hreg := (h.registered d).mpr hd
  have hsubs := (h.dapps d).mpr hd
  simp only [unregisterDapp, hreg, not_true_eq_false, if_false, hsubs, if_true, true_and]
  have hmem : ∀ f, f ∈ order ↔ (T.entry d f).isSome := fun f => ho.mem_iff.trans (h.subs d f)
  obtain ⟨hi, hc, hds, hrd⟩ := unregister_loop (d := d) order h.toIndexed ho.nodup
    (fun f => (hmem f).mp) (Emptied.nil T)
  -- the loop has dropped every subscription of the dApp, so the entries are those left
  have hentry : (T.dropAll d order).entry = (T.unregister d).entry := by
    funext d' f
    rw [Table.entry_dropAll, Table.entry_unregister]
    by_cases hd' : d' = d
    · subst hd'
      by_cases hf : f ∈ order
      · simp [hf]
      · have hnone := mt (hmem f).mpr hf
        simp only [hf, and_false, if_false, if_true]
        simpa using hnone
    · simp [hd']
  have hserved : ∀ f, (T.dropAll d order).Served f ↔ (T.unregister d).Served f := by
    intro f
    simp only [Table.Served, hentry]
  have hi' := hi.congr_entry hentry
  refine ⟨⟨⟨hi'.subscribers, hi'.reverse, hi'.details, hi'.ids⟩, ?_, ?_, ?_⟩,
    hc.reports.nodup, fun f had => ?_⟩
  · intro d'
    simp only [hrd, Finmap.mem_erase, h.registered, Table.registered_unregister, Set.mem_sdiff,
      Set.mem_singleton_iff, and_comm]
  · intro d'
    simp only [hds, Finmap.mem_erase, h.dapps, Table.registered_unregister, Set.mem_sdiff,
      Set.mem_singleton_iff, and_comm]
  · intro d' f
    simp only [hds, Finmap.ref_erase, Table.entry_unregister]
    split_ifs with hd'
    · simp
    · exact h.subs d' f
  · rw [hc.reports.mem_iff, hserved]

/-! ## The loop of `expire_subscriptions` -/

variable {time : TimePoint}

theorem expireStep_live {st : Sweep} (h : Indexed st.mgr T)
    (hx : ∀ e, T.entry d f = some e → isExpired e.details time = false) :
    expireStep time st (makeSubKey d f) = st := by
  unfold expireStep
  split
  · rfl
  · rename_i details hdet
    rw [h.details] at hdet
    obtain ⟨e, he, rfl⟩ := Option.map_eq_some_iff.mp hdet
    simp [hx e he]

theorem expireStep_expired {st : Sweep} (h : Represents st.mgr T) (he : T.entry d f = some e)
    (hx : isExpired e.details time = true)
    (hc : Emptied T₀ T (st.emptiedRanFunctions.map fun f => (f, true))) :
    Represents (expireStep time st (makeSubKey d f)).mgr (T.drop d f) ∧
      Emptied T₀ (T.drop d f)
        ((expireStep time st (makeSubKey d f)).emptiedRanFunctions.map fun f => (f, true)) ∧
      (expireStep time st (makeSubKey d f)).expired = st.expired ++ [⟨d, f, e.id⟩] := by
  have hdet : st.mgr.subscriptionDetails.lookup (makeSubKey d f) = some e.details := by
    rw [h.details, he]
    rfl
  have hid : st.mgr.subscriptionIdReverse.ref (makeSubKey d f) = e.id :=
    Finmap.ref_of_lookup (by rw [h.reverse, he]; rfl)
  simp only [expireStep, hdet, hx, if_true, keyDapp_makeSubKey, keyRanFunction_makeSubKey, hid,
    and_true]
  have hdrops : Drops st.mgr ((((st.mgr.eraseSubId (makeSubKey d f)).eraseDappSub d f
      ).eraseSubscriber d f).eraseDetails (makeSubKey d f)) d f := by
    rw [eraseDappSub_eq]
    refine ⟨fun g => ?_, fun k => eraseSubId_lookup_reverse _ _ _, fun k => ?_,
      fun i => eraseSubId_lookup_ids _ _ _⟩
    · simp [eraseDetails, eraseSubscriber_ref]
    · simp [eraseDetails, eraseSubscriber, Finmap.lookup_erase_ite]
  have hrep := h.drop hdrops (by rw [eraseDappSub_eq]; simp [eraseDetails, eraseSubscriber])
    (eraseDappSub_eraseSubId _ _ _ _)
  refine ⟨hrep, ?_⟩
  have hlast := hc.drop (by rw [he]; rfl) hrep.toIndexed
  rw [List.map_append]
  split_ifs at hlast ⊢ with hempty
  · exact hlast
  · exact absurd hempty ‹_›
  · exact absurd ‹_› hempty
  · exact hlast

theorem expire_loop : ∀ (l : List UInt64) {T : Table} {st : Sweep},
    Represents st.mgr T → Emptied T₀ T (st.emptiedRanFunctions.map fun f => (f, true)) →
    Represents (l.foldl (expireStep time) st).mgr (T.sweepKeys time l) ∧
      Emptied T₀ (T.sweepKeys time l)
        ((l.foldl (expireStep time) st).emptiedRanFunctions.map fun f => (f, true))
  | [], T, st, h, hc => by
    rw [Table.sweepKeys_nil]
    exact ⟨h, hc⟩
  | k :: l, T, st, h, hc => by
    obtain ⟨d, f, rfl⟩ : ∃ d f, k = makeSubKey d f := ⟨_, _, (makeSubKey_key k).symm⟩
    rw [List.foldl_cons]
    by_cases hx : ∃ e, T.entry d f = some e ∧ isExpired e.details time = true
    · obtain ⟨e, he, hx⟩ := hx
      obtain ⟨hrep, hc', -⟩ := expireStep_expired h he hx hc
      rw [Table.sweepKeys_cons_expired l he hx]
      exact expire_loop l hrep hc'
    · have hlive : ∀ e, T.entry d f = some e → isExpired e.details time = false := by
        intro e he
        exact Bool.eq_false_iff.mpr fun hx' => hx ⟨e, he, hx'⟩
      rw [expireStep_live h.toIndexed hlive, Table.sweepKeys_cons_live l hlive]
      exact expire_loop l h hc

theorem expireSubscriptions_spec {order : List UInt64} (h : Represents m T) (time : TimePoint)
    (ho : Visits order m.subscriptionDetails.keys) :
    Represents (m.expireSubscriptions time order).mgr (T.sweep time) ∧
      Reports T (T.sweep time) (m.expireSubscriptions time order).checks := by
  have hall : ∀ d f, (T.entry d f).isSome → makeSubKey d f ∈ order := by
    intro d f hs
    rw [ho.mem_iff, Finmap.mem_keys]
    exact h.mem_subscriptionDetails.mpr hs
  have hstart : Represents (⟨m, [], []⟩ : Sweep).mgr T := h
  obtain ⟨hrep, hc⟩ := expire_loop order hstart (Emptied.nil T)
  rw [Table.sweepKeys_eq_sweep hall] at hrep hc
  exact ⟨hrep, hc.reports⟩

/-! ## `add_subscription` -/

theorem Represents.touch (h : Represents m T) (hd : d ∈ T.registered) :
    Represents { m with dappSubscriptions := m.dappSubscriptions.touch d } T where
  toIndexed := ⟨h.subscribers, h.reverse, h.details, h.ids⟩
  registered := h.registered
  dapps d' := by
    rw [Finmap.mem_touch, h.dapps, or_iff_right_of_imp]
    rintro rfl
    exact hd
  subs d' f := by
    rw [Finmap.ref_touch]
    exact h.subs d' f

theorem Represents.touch_reverse (h : Represents m T) (hs : (T.entry d f).isSome) :
    Represents { m with subscriptionIdReverse := m.subscriptionIdReverse.touch (makeSubKey d f) }
      T where
  toIndexed := ⟨h.subscribers, fun d' f' => by
    rw [Finmap.lookup_touch_of_mem (h.mem_subscriptionIdReverse.mpr hs)]
    exact h.reverse d' f', h.details, h.ids⟩
  registered := h.registered
  dapps := h.dapps
  subs := h.subs

theorem Represents.grant_details {details : SubscriptionDetails} (h : Represents m T)
    (he : T.entry d f = some e) (hg : T.Grantable d f ⟨e.id, details⟩) :
    Represents { m with
      subscriptionDetails := m.subscriptionDetails.insert (makeSubKey d f) details }
      (T.grant d f ⟨e.id, details⟩ hg) := by
  have hisSome : ∀ d' f', ((T.grant d f ⟨e.id, details⟩ hg).entry d' f').isSome =
      (T.entry d' f').isSome := by
    intro d' f'
    rw [Table.entry_grant]
    split_ifs with hp
    · rw [hp.1, hp.2, he]
      rfl
    · rfl
  refine ⟨⟨fun d' f' => ?_, fun d' f' => ?_, fun d' f' => ?_, fun id d' f' => ?_⟩,
    h.registered, h.dapps, fun d' f' => ?_⟩
  · rw [hisSome]
    exact h.subscribers d' f'
  · rw [h.reverse, Table.entry_grant]
    split_ifs with hp
    · rw [hp.1, hp.2, he]
      rfl
    · rfl
  · simp only [Finmap.lookup_insert_ite, makeSubKey_inj, Table.entry_grant, h.details]
    split_ifs <;> rfl
  · rw [h.ids, Table.entry_grant]
    split_ifs with hp
    · rw [hp.1, hp.2, he]
      simp
    · rfl
  · rw [hisSome]
    exact h.subs d' f'

theorem addExisting_spec (h : Represents m T) (started : TimePoint) (details : SubscriptionDetails)
    (he : T.entry d f = some e) :
    ∃ T', T.Added started d f details (m.addExisting started (makeSubKey d f) details).ret T' ∧
      Represents (m.addExisting started (makeSubKey d f) details).mgr T' ∧
      (m.addExisting started (makeSubKey d f) details).checks = [] ∧
      ∀ f', T.Served f' ↔ T'.Served f' := by
  have hs : (T.entry d f).isSome := by rw [he]; rfl
  have hid : m.subscriptionIdReverse.ref (makeSubKey d f) = e.id :=
    Finmap.ref_of_lookup (by rw [h.reverse, he]; rfl)
  have hdet : m.subscriptionDetails.lookup (makeSubKey d f) = some e.details := by
    rw [h.details, he]
    rfl
  simp only [addExisting, hid, hdet]
  split_ifs with hx
  · refine ⟨_, .renewed he hx (Table.grantable_renew he details), ?_, rfl, fun f' => ?_⟩
    · exact (h.touch_reverse hs).grant_details he _
    · simp only [Table.served_iff_isSome, Table.entry_grant]
      refine exists_congr fun d' => ?_
      split_ifs with hp
      · simp [hp.1, hp.2, he]
      · rfl
  · exact ⟨T, .held he (Bool.eq_false_iff.mpr hx), h.touch_reverse hs, rfl, fun _ => Iff.rfl⟩

theorem lowestFreeId_subscriptionIds (h : Indexed m T)
    (hne : lowestFreeId m.subscriptionIds ≠ 0) :
    LeastFree T.IdInUse (lowestFreeId m.subscriptionIds) := by
  have hlf := leastFree_lowestFreeId hne
  simp only [h.mem_subscriptionIds] at hlf
  exact hlf

theorem Represents.grant_new (h : Represents m T) (hn : T.entry d f = none) (hg : T.Grantable d f e)
    :
    Represents { m with
      dappSubscriptions := m.dappSubscriptions.insert d (insert f (m.dappSubscriptions.ref d))
      ranFunctionSubscribers := (m.ranFunctionSubscribers.touch f).insert f
        (insert d ((m.ranFunctionSubscribers.touch f).ref f))
      subscriptionIds := m.subscriptionIds.insert e.id (d, f)
      subscriptionIdReverse := m.subscriptionIdReverse.insert (makeSubKey d f) e.id
      subscriptionDetails := m.subscriptionDetails.insert (makeSubKey d f) e.details }
      (T.grant d f e hg) := by
  refine ⟨⟨fun d' f' => ?_, fun d' f' => ?_, fun d' f' => ?_, fun id d' f' => ?_⟩,
    h.registered, fun d' => ?_, fun d' f' => ?_⟩
  · rw [Finmap.ref_insert, Finmap.ref_touch, Finmap.ref_touch, Table.entry_grant]
    by_cases hf : f' = f
    · subst hf
      by_cases hd : d' = d
      · simp [hd]
      · simp [hd, h.subscribers]
    · simp [hf, h.subscribers]
  · simp only [Finmap.lookup_insert_ite, makeSubKey_inj, Table.entry_grant, h.reverse]
    split_ifs <;> rfl
  · simp only [Finmap.lookup_insert_ite, makeSubKey_inj, Table.entry_grant, h.details]
    split_ifs <;> rfl
  · rw [Finmap.lookup_insert_ite, Table.entry_grant]
    by_cases hp : d' = d ∧ f' = f
    · obtain ⟨rfl, rfl⟩ := hp
      simp only [and_self, if_true, Option.some.injEq, exists_eq_left']
      split_ifs with hid
      · simp [hid]
      · simp [h.ids, hn, Ne.symm hid]
    · rw [if_neg hp]
      split_ifs with hid
      · subst hid
        refine iff_of_false (fun hpair => ?_) ?_
        · simp only [Option.some.injEq, Prod.mk.injEq] at hpair
          exact hp ⟨hpair.1.symm, hpair.2.symm⟩
        · rintro ⟨e', he', hid'⟩
          exact hp (hg.id_free he' hid')
      · exact h.ids id d' f'
  · rw [Finmap.mem_insert, h.dapps, or_iff_right_of_imp]
    · rfl
    · rintro rfl
      exact hg.registered
  · rw [Finmap.ref_insert, Table.entry_grant]
    by_cases hd : d' = d
    · subst hd
      by_cases hf : f' = f
      · simp [hf]
      · simp [hf, h.subs]
    · simp [hd, h.subs]

theorem served_grant_of_ne {hg : T.Grantable d f e} {g : UInt32} (h : g ≠ f) :
    (T.grant d f e hg).Served g ↔ T.Served g := by
  simp only [Table.Served, Table.entry_grant, h, and_false, if_false]

theorem served_grant {hg : T.Grantable d f e} : (T.grant d f e hg).Served f :=
  ⟨d, e, by simp [Table.entry_grant]⟩

theorem reports_grant_further (hg : T.Grantable d f e) (hs : T.Served f) :
    Reports T (T.grant d f e hg) [] := by
  refine .of_served_iff fun g => ?_
  by_cases hgf : g = f
  · subst hgf
    exact iff_of_true hs served_grant
  · exact (served_grant_of_ne hgf).symm

theorem reports_grant_first (hg : T.Grantable d f e) (hs : ¬ T.Served f) :
    Reports T (T.grant d f e hg) [(f, false)] := by
  refine ⟨by simp, fun g had => ?_⟩
  by_cases hgf : g = f
  · subst hgf
    cases had <;> simp [hs, served_grant]
  · rw [served_grant_of_ne hgf]
    simp [hgf]

theorem addNew_spec (h : Represents m T) (started : TimePoint) (details : SubscriptionDetails)
    (hd : d ∈ T.registered) (hn : T.entry d f = none) :
    ∃ T', T.Added started d f details (m.addNew d f (makeSubKey d f) details).ret T' ∧
      Represents (m.addNew d f (makeSubKey d f) details).mgr T' ∧
      Reports T T' (m.addNew d f (makeSubKey d f) details).checks := by
  simp only [addNew]
  split_ifs with h0 hhad
  · refine ⟨T, .full hd hn fun id hid => ?_, ?_, .refl T⟩
    · exact h.mem_subscriptionIds.mp (lowestFreeId_eq_zero_iff.mp h0 id hid)
    · refine ⟨⟨fun d' f' => ?_, h.reverse, h.details, h.ids⟩, h.registered, h.dapps, h.subs⟩
      rw [Finmap.ref_touch]
      exact h.subscribers d' f'
  all_goals
    have hid := lowestFreeId_subscriptionIds h.toIndexed h0
    have hg := Table.grantable_new (f := f) hd hid details
    refine ⟨T.grant d f ⟨_, details⟩ hg, .new hn hid hg, h.grant_new hn hg, ?_⟩
    rw [decide_eq_true_eq, h.ref_subscribers_ne_empty] at hhad
    first | exact reports_grant_further hg hhad | exact reports_grant_first hg hhad

theorem addSubscription_spec (h : Represents m T) (started : TimePoint) (d f : UInt32)
    (telemetryIds controlIds : List UInt32) (periodicityUs subscriptionTimeS : UInt32) :
    let r := m.addSubscription started d f telemetryIds controlIds periodicityUs subscriptionTimeS
    let details := makeDetails started telemetryIds controlIds periodicityUs subscriptionTimeS
    ∃ T', T.Added started d f details r.ret T' ∧ Represents r.mgr T' ∧ Reports T T' r.checks := by
  intro r details
  by_cases hd : d ∈ T.registered
  · have hreg := (h.registered d).mpr hd
    have ht := h.touch hd
    cases he : T.entry d f with
    | some e =>
      have hmem : f ∈ (m.dappSubscriptions.touch d).ref d := (ht.subs d f).mpr (by rw [he]; rfl)
      have hr : r = ({ m with dappSubscriptions := m.dappSubscriptions.touch d } :
          SubscriptionManager).addExisting started (makeSubKey d f) details := by
        simp only [r, details, addSubscription, hreg, not_true_eq_false, if_false, hmem, if_true]
      obtain ⟨T', ha, hrep, hc, hserved⟩ :=
        addExisting_spec ht started details he
      rw [hr]
      exact ⟨T', ha, hrep, hc ▸ .of_served_iff hserved⟩
    | none =>
      have hmem : f ∉ (m.dappSubscriptions.touch d).ref d := by
        rw [ht.subs d f, he]
        simp
      have hr : r = ({ m with dappSubscriptions := m.dappSubscriptions.touch d } :
          SubscriptionManager).addNew d f (makeSubKey d f) details := by
        simp only [r, details, addSubscription, hreg, not_true_eq_false, if_false, hmem]
      rw [hr]
      exact addNew_spec ht started details hd he
  · have hnot : d ∉ m.registeredDapps := fun hd' => hd ((h.registered d).mp hd')
    have hr : r = ⟨m, (.dappNotRegistered, 0), []⟩ := by
      simp only [r, addSubscription, hnot, not_false_eq_true, if_true]
    rw [hr]
    exact ⟨T, .unregistered hd, h, .refl T⟩

/-! ## Every call -/

/-- The steps of a table: a call, the answer it gets and the table after it. -/
inductive Table.Step (T : Table) : Operation → ErrorCode → Table → Prop
  | registerFull (hall : ∀ id, InIdRange id → id ∈ T.registered) :
    Step T .registerDapp .internalError T
  | register {id : UInt32} (hid : LeastFree (· ∈ T.registered) id) :
    Step T .registerDapp .success (T.register id hid.range)
  | unregisterNone {d : UInt32} {order : List UInt32} (hd : d ∉ T.registered) :
    Step T (.unregisterDapp d order) .dappNotRegistered T
  | unregister {d : UInt32} {order : List UInt32} (hd : d ∈ T.registered) :
    Step T (.unregisterDapp d order) .success (T.unregister d)
  | add {now : TimePoint} {d f : UInt32} {ts cs : List UInt32} {p s : UInt32}
      {ret : ErrorCode × UInt32} {T' : Table}
      (h : T.Added now d f (makeDetails now ts cs p s) ret T') :
    Step T (.addSubscription now d f ts cs p s) ret.1 T'
  | removeNone {d f : UInt32} (hn : T.entry d f = none) :
    Step T (.removeSubscription d f) .subscriptionNotFound T
  | remove {d f : UInt32} (hs : (T.entry d f).isSome) :
    Step T (.removeSubscription d f) .success (T.drop d f)
  | removeByIdNone {d id : UInt32} (hn : ∀ f e, T.entry d f = some e → e.id ≠ id) :
    Step T (.removeSubscriptionById d id) .subscriptionNotFound T
  | removeById {d f : UInt32} {e : Entry} (he : T.entry d f = some e) :
    Step T (.removeSubscriptionById d e.id) .success (T.drop d f)
  | expire {now : TimePoint} {order : List UInt64} :
    Step T (.expireSubscriptions now order) .success (T.sweep now)
  | clear : Step T .clear .success Table.empty

/-- Every call takes a manager that represents a table to one that represents the table after a
step, with the table's answer; and, `clear` apart, it reports what the step changed. -/
theorem exec_refines {op : Operation} (h : Represents m T) (hp : op.Possible m) :
    ∃ T', T.Step op (op.exec m).ret T' ∧ Represents (op.exec m).mgr T' ∧
      (op ≠ .clear → Reports T T' (op.exec m).checks) := by
  cases op with
  | registerDapp =>
    by_cases hfull : ∀ id, InIdRange id → id ∈ T.registered
    · have heq := registerDapp_full h hfull
      simp only [Operation.exec, heq]
      exact ⟨T, .registerFull hfull, h, fun _ => .refl T⟩
    · push Not at hfull
      obtain ⟨id, hid, hret, hchecks, hrep⟩ := registerDapp_free h hfull
      simp only [Operation.exec, hret, hchecks]
      exact ⟨_, .register hid, hrep, fun _ => .of_served_iff fun _ => Iff.rfl⟩
  | unregisterDapp d order =>
    by_cases hd : d ∈ T.registered
    · obtain ⟨hret, hrep, hc⟩ := unregisterDapp_some h hd hp
      simp only [Operation.exec, hret]
      exact ⟨_, .unregister hd, hrep, fun _ => hc⟩
    · simp only [Operation.exec, unregisterDapp_none h hd]
      exact ⟨T, .unregisterNone hd, h, fun _ => .refl T⟩
  | addSubscription now d f ts cs p s =>
    obtain ⟨T', ha, hrep, hc⟩ := addSubscription_spec h now d f ts cs p s
    exact ⟨T', .add ha, hrep, fun _ => hc⟩
  | removeSubscription d f =>
    cases he : T.entry d f with
    | none =>
      simp only [Operation.exec, removeSubscription_none h he]
      exact ⟨T, .removeNone he, h, fun _ => .refl T⟩
    | some e =>
      have hs : (T.entry d f).isSome := by rw [he]; rfl
      obtain ⟨hret, hrep, hc⟩ := removeSubscription_some h hs
      simp only [Operation.exec, hret]
      exact ⟨_, .remove hs, hrep, fun _ => hc⟩
  | removeSubscriptionById d id =>
    by_cases hx : ∃ f e, T.entry d f = some e ∧ e.id = id
    · obtain ⟨f, e, he, rfl⟩ := hx
      obtain ⟨hret, hrep, hc⟩ := removeSubscriptionById_some h he
      simp only [Operation.exec, hret]
      exact ⟨_, .removeById he, hrep, fun _ => hc⟩
    · push Not at hx
      simp only [Operation.exec, removeSubscriptionById_none h hx]
      exact ⟨T, .removeByIdNone hx, h, fun _ => .refl T⟩
  | expireSubscriptions now order =>
    obtain ⟨hrep, hc⟩ := expireSubscriptions_spec h now hp
    exact ⟨_, .expire, hrep, fun _ => hc⟩
  | clear => exact ⟨_, .clear, represents_fresh, fun hne => absurd rfl hne⟩

end LibE3
