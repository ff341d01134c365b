import LibE3.Observations
import LibE3.Proofs.Expiry

/-!
# Who is listed for a RAN function

The history of a manager says which grants stand, without its maps. `get_subscribed_dapps` lists the
dApps with a standing grant whose time has not elapsed, and since the clock does not go back it
makes no difference when the sweeps ran.
-/

namespace LibE3

open SubscriptionManager Runs

variable {m : SubscriptionManager} {T T' : Table} {d f : UInt32} {e : Entry} {g : Grant}
  {log : List Logged} {c : Logged} {ended : Grant → Logged → Bool} {time : TimePoint}

theorem stands_concat : Stands ended d f g (log ++ [c]) ↔
    c.grants d f = some g ∨ Stands ended d f g log ∧ c.grants d f = none ∧ ended g c = false := by
  constructor
  · rintro ⟨before, c', after, hlog, hg, hafter⟩
    rcases List.eq_nil_or_concat after with rfl | ⟨after, c'', rfl⟩
    · obtain ⟨-, hc⟩ := List.append_inj' hlog rfl
      obtain rfl := List.singleton_inj.mp hc
      exact .inl hg
    · rw [List.concat_eq_append, ← List.cons_append, ← List.append_assoc] at hlog
      obtain ⟨hinit, hc⟩ := List.append_inj' hlog rfl
      obtain rfl := List.singleton_inj.mp hc
      rw [List.concat_eq_append] at hafter
      refine .inr ⟨⟨before, c', after, hinit, hg, fun c'' hc'' => ?_⟩, hafter c (by simp)⟩
      exact hafter c'' (List.mem_append_left _ hc'')
  · rintro (hg | ⟨⟨before, c', after, rfl, hg, hafter⟩, hc⟩)
    · exact ⟨log, c, [], rfl, hg, fun c' hc' => absurd hc' List.not_mem_nil⟩
    · refine ⟨before, c', after ++ [c], by simp, hg, fun c'' hc'' => ?_⟩
      rcases List.mem_append.mp hc'' with hmem | hmem
      · exact hafter c'' hmem
      · rw [List.mem_singleton.mp hmem]
        exact hc

/-! ## Entries and grants -/

def Grant.deadline (g : Grant) : Option TimePoint :=
  if 0 < g.subscriptionTimeS then some (g.started + seconds g.subscriptionTimeS) else none

structure Entry.Records (e : Entry) (g : Grant) : Prop where
  id : e.id = g.subscriptionId
  expiresAt : e.details.expiresAt = g.deadline

theorem Entry.Records.isExpired_eq_false (h : e.Records g) :
    isExpired e.details time = false ↔ g.LiveAt time := by
  unfold isExpired
  rw [h.expiresAt]
  unfold Grant.deadline Grant.LiveAt
  by_cases hs : g.subscriptionTimeS = 0
  · simp [hs]
  · have hpos : 0 < g.subscriptionTimeS := UInt32.pos_iff_ne_zero.mpr hs
    simp [hs, hpos]

/-- What the table holds for the pair is the grant that stands. -/
structure Told (o : Option Entry) (log : List Logged) (d f : UInt32) : Prop where
  of_entry : ∀ e, o = some e → ∃ g, Stands (Logged.ends d f) d f g log ∧ e.Records g
  of_stands : ∀ g, Stands (Logged.ends d f) d f g log → ∃ e, o = some e ∧ e.Records g

namespace Told

variable {o : Option Entry}

theorem nil (d f : UInt32) : Told none [] d f where
  of_entry _ h := by cases h
  of_stands g h := by
    obtain ⟨before, c, after, hlog, -⟩ := h
    simp at hlog

theorem grant (hg : c.grants d f = some g) (hr : e.Records g) :
    Told (some e) (log ++ [c]) d f where
  of_entry e' he := by
    obtain rfl := Option.some.inj he
    exact ⟨g, stands_concat.mpr (.inl hg), hr⟩
  of_stands g' hs := by
    rcases stands_concat.mp hs with hg' | ⟨-, hn, -⟩
    · obtain rfl := Option.some.inj (hg.symm.trans hg')
      exact ⟨e, rfl, hr⟩
    · rw [hg] at hn
      cases hn

theorem keep (h : Told o log d f) (hg : c.grants d f = none)
    (he : ∀ e g, o = some e → e.Records g → c.ends d f g = false) : Told o (log ++ [c]) d f where
  of_entry e ho := by
    obtain ⟨g, hs, hr⟩ := h.of_entry e ho
    exact ⟨g, stands_concat.mpr (.inr ⟨hs, hg, he e g ho hr⟩), hr⟩
  of_stands g hs := by
    rcases stands_concat.mp hs with hg' | ⟨hs, -, -⟩
    · rw [hg] at hg'
      cases hg'
    · exact h.of_stands g hs

theorem drop (h : Told o log d f) (hg : c.grants d f = none)
    (he : ∀ e g, o = some e → e.Records g → c.ends d f g = true) :
    Told none (log ++ [c]) d f where
  of_entry e ho := by cases ho
  of_stands g hs := by
    rcases stands_concat.mp hs with hg' | ⟨hs, -, hends⟩
    · rw [hg] at hg'
      cases hg'
    · obtain ⟨e, ho, hr⟩ := h.of_stands g hs
      rw [he e g ho hr] at hends
      cases hends

end Told

/-! ## One call -/

def Tells (log : List Logged) (T : Table) : Prop := ∀ d f, Told (T.entry d f) log d f

theorem Tells.skip (h : Tells log T) (hentry : T'.entry = T.entry)
    (hg : ∀ d f, c.grants d f = none) (he : ∀ d f g, c.ends d f g = false) :
    Tells (log ++ [c]) T' := by
  intro d f
  rw [hentry]
  exact (h d f).keep (hg d f) fun _ g _ _ => he d f g

theorem Tells.unregister (h : Tells log T) (d₀ : UInt32) (order : List UInt32) :
    Tells (log ++ [⟨.unregisterDapp d₀ order, .code .success⟩]) (T.unregister d₀) := by
  intro d f
  rw [Table.entry_unregister]
  split_ifs with hd
  · exact (h d f).drop rfl fun _ g _ _ => by simp [Logged.ends, Logged.removes, hd]
  · exact (h d f).keep rfl fun _ g _ _ => by
      simp [Logged.ends, Logged.removes, Logged.sweeps, Ne.symm hd]

theorem Tells.grant {d₀ f₀ : UInt32} (h : Tells log T) (hg : T.Grantable d₀ f₀ e)
    (hc : ∀ d f, c.grants d f = if d₀ = d ∧ f₀ = f then some g else none)
    (he : ∀ d f g, c.ends d f g = false) (hr : e.Records g) :
    Tells (log ++ [c]) (T.grant d₀ f₀ e hg) := by
  intro d f
  rw [Table.entry_grant]
  split_ifs with hp
  · obtain ⟨rfl, rfl⟩ := hp
    exact Told.grant ((hc d f).trans (if_pos ⟨rfl, rfl⟩)) hr
  · have hn : c.grants d f = none := by
      rw [hc, if_neg]
      rintro ⟨rfl, rfl⟩
      exact hp ⟨rfl, rfl⟩
    exact (h d f).keep hn fun _ g _ _ => he d f g

theorem Tells.added {d₀ f₀ : UInt32} {ts cs : List UInt32} {p s : UInt32}
    {ret : ErrorCode × UInt32} (h : Tells log T)
    (ha : T.Added time d₀ f₀ (makeDetails time ts cs p s) ret T') :
    Tells (log ++ [⟨.addSubscription time d₀ f₀ ts cs p s, .assigned ret.1 ret.2⟩]) T' := by
  cases ha with
  | unregistered _ => exact h.skip rfl (fun _ _ => rfl) fun _ _ _ => rfl
  | held _ _ => exact h.skip rfl (fun _ _ => rfl) fun _ _ _ => rfl
  | full _ _ _ => exact h.skip rfl (fun _ _ => rfl) fun _ _ _ => rfl
  | renewed _ _ hg => exact h.grant hg (fun _ _ => rfl) (fun _ _ _ => rfl) ⟨rfl, rfl⟩
  | new _ _ hg => exact h.grant hg (fun _ _ => rfl) (fun _ _ _ => rfl) ⟨rfl, rfl⟩

theorem Tells.remove (h : Tells log T) (d₀ f₀ : UInt32) :
    Tells (log ++ [⟨.removeSubscription d₀ f₀, .code .success⟩]) (T.drop d₀ f₀) := by
  intro d f
  rw [Table.entry_drop]
  split_ifs with hp
  · exact (h d f).drop rfl fun _ g _ _ => by simp [Logged.ends, Logged.removes, hp]
  · refine (h d f).keep rfl fun _ g _ _ => ?_
    have hp' : ¬ (d₀ = d ∧ f₀ = f) := fun hq => hp ⟨hq.1.symm, hq.2.symm⟩
    simp only [Logged.ends, Logged.removes, Logged.sweeps, hp', decide_false, Bool.or_self]

theorem Tells.removeById {d₀ f₀ : UInt32} {e₀ : Entry} (h : Tells log T)
    (he₀ : T.entry d₀ f₀ = some e₀) :
    Tells (log ++ [⟨.removeSubscriptionById d₀ e₀.id, .code .success⟩]) (T.drop d₀ f₀) := by
  intro d f
  rw [Table.entry_drop]
  split_ifs with hp
  · obtain ⟨rfl, rfl⟩ := hp
    refine (h d f).drop rfl fun e g he hr => ?_
    obtain rfl := Option.some.inj (he₀.symm.trans he)
    simp [Logged.ends, Logged.removes, hr.id]
  · refine (h d f).keep rfl fun e g he hr => ?_
    have hother : ¬ (d₀ = d ∧ e₀.id = g.subscriptionId) := by
      rintro ⟨-, hid⟩
      exact hp (T.id_inj he he₀ (hr.id.trans hid.symm))
    simp only [Logged.ends, Logged.removes, Logged.sweeps, hother, decide_false, Bool.or_self]

theorem sweeps_iff {order : List UInt64} (h : Represents m T)
    (ho : Visits order m.subscriptionDetails.keys) (time : TimePoint) (d f : UInt32) :
    Logged.sweeps d f ⟨.expireSubscriptions time order,
        .expired (m.expireSubscriptions time order).ret⟩ = true ↔
      ∃ e, T.entry d f = some e ∧ isExpired e.details time = true := by
  rw [← mem_pairs_expireSubscriptions h time ho, Logged.sweeps, List.any_eq_true, List.mem_map]
  simp only [decide_eq_true_eq, ExpiredSubscription.pair, Prod.mk.injEq]

theorem Tells.sweep {order : List UInt64} (h : Tells log T) (hrep : Represents m T)
    (ho : Visits order m.subscriptionDetails.keys) :
    Tells (log ++ [⟨.expireSubscriptions time order,
      .expired (m.expireSubscriptions time order).ret⟩]) (T.sweep time) := by
  intro d f
  have hsweeps := sweeps_iff hrep ho time d f
  cases he : T.entry d f with
  | none =>
    have hgone : (T.sweep time).entry d f = none := by
      refine Table.entry_sweep_eq_none.mpr fun e he' => ?_
      cases he.symm.trans he'
    rw [hgone]
    have htold := h d f
    rw [he] at htold
    refine htold.keep rfl fun e g ho _ => ?_
    cases ho
  | some e =>
    have htold := h d f
    by_cases hx : isExpired e.details time = true
    · have hgone : ∀ e', T.entry d f = some e' → isExpired e'.details time = true := by
        intro e' he'
        obtain rfl := Option.some.inj (he.symm.trans he')
        exact hx
      rw [Table.entry_sweep_eq_none.mpr hgone]
      refine htold.drop rfl fun _ g _ _ => ?_
      rw [Logged.ends, hsweeps.mpr ⟨e, he, hx⟩, Bool.or_true]
    · have hlive := Bool.eq_false_iff.mpr hx
      rw [Table.entry_sweep_eq_some.mpr ⟨he, hlive⟩, ← he]
      refine htold.keep rfl fun _ g _ _ => ?_
      have hnot := mt hsweeps.mp (by
        rintro ⟨e', he', hx'⟩
        obtain rfl := Option.some.inj (he.symm.trans he')
        exact hx hx')
      rw [Logged.ends, Bool.eq_false_iff.mpr hnot]
      rfl

theorem Tells.clear : Tells (log ++ [⟨.clear, .nothing⟩]) Table.empty := by
  intro d f
  refine ⟨(fun e he => nomatch he), fun g hs => ?_⟩
  rcases stands_concat.mp hs with hg | ⟨-, -, hends⟩
  · exact nomatch hg
  · exact nomatch hends

theorem exec_tells {op : Operation} (hrep : Represents m T) (h : Tells log T)
    (hp : op.Possible m) :
    ∃ T', Represents (op.exec m).mgr T' ∧ Tells (log ++ [⟨op, op.returned m⟩]) T' := by
  cases op with
  | registerDapp =>
    by_cases hfull : ∀ id, InIdRange id → id ∈ T.registered
    · rw [Operation.returned, Operation.exec, registerDapp_full hrep hfull]
      exact ⟨T, hrep, h.skip rfl (fun _ _ => rfl) fun _ _ _ => rfl⟩
    · push Not at hfull
      obtain ⟨id, hid, -, -, hrep'⟩ := registerDapp_free hrep hfull
      exact ⟨_, hrep', h.skip rfl (fun _ _ => rfl) fun _ _ _ => rfl⟩
  | unregisterDapp d order =>
    by_cases hd : d ∈ T.registered
    · obtain ⟨hret, hrep', -⟩ := unregisterDapp_some hrep hd hp
      refine ⟨_, hrep', ?_⟩
      rw [Operation.returned, hret]
      exact h.unregister d order
    · rw [Operation.returned, Operation.exec, unregisterDapp_none hrep hd]
      exact ⟨T, hrep, h.skip rfl (fun _ _ => rfl) fun _ _ _ => rfl⟩
  | addSubscription now d f ts cs p s =>
    obtain ⟨T', ha, hrep', -⟩ := addSubscription_spec hrep now d f ts cs p s
    exact ⟨T', hrep', h.added ha⟩
  | removeSubscription d f =>
    cases he : T.entry d f with
    | none =>
      rw [Operation.returned, Operation.exec, removeSubscription_none hrep he]
      exact ⟨T, hrep, h.skip rfl (fun _ _ => rfl) fun _ _ _ => rfl⟩
    | some e =>
      obtain ⟨hret, hrep', -⟩ := removeSubscription_some hrep (by rw [he]; rfl)
      refine ⟨_, hrep', ?_⟩
      rw [Operation.returned, hret]
      exact h.remove d f
  | removeSubscriptionById d id =>
    by_cases hx : ∃ f e, T.entry d f = some e ∧ e.id = id
    · obtain ⟨f, e, he, rfl⟩ := hx
      obtain ⟨hret, hrep', -⟩ := removeSubscriptionById_some hrep he
      refine ⟨_, hrep', ?_⟩
      rw [Operation.returned, hret]
      exact h.removeById he
    · push Not at hx
      rw [Operation.returned, Operation.exec, removeSubscriptionById_none hrep hx]
      exact ⟨T, hrep, h.skip rfl (fun _ _ => rfl) fun _ _ _ => rfl⟩
  | expireSubscriptions now order =>
    obtain ⟨hrep', -⟩ := expireSubscriptions_spec hrep now hp
    exact ⟨_, hrep', h.sweep hrep hp⟩
  | clear => exact ⟨_, represents_fresh, Tells.clear⟩

/-! ## Whole histories -/

/-- No call of the history read the clock after `time`. -/
def ReadBy (time : TimePoint) (log : List Logged) : Prop :=
  ∀ c ∈ log, ∀ now ∈ c.op.clock, now ≤ time

/-- The manager holds the grants that stand, and a grant whose time has not elapsed was not ended
by a sweep. -/
structure JournalInv (j : Journal) : Prop where
  tells : ∃ T, Represents j.mgr T ∧ Tells j.log T
  unswept : ∀ time, ReadBy time j.log → ∀ d f g, g.LiveAt time →
    Stands (Logged.removes d f) d f g j.log → Stands (Logged.ends d f) d f g j.log

theorem journalInv_fresh : JournalInv .fresh where
  tells := ⟨_, represents_fresh, fun d f => Told.nil d f⟩
  unswept time _ d f g _ h := by
    obtain ⟨before, c, after, hlog, -⟩ := h
    simp [Journal.fresh] at hlog

theorem journalInv_step {j j' : Journal} {op : Operation} (hi : JournalInv j)
    (hs : j.step op = some j') : JournalInv j' := by
  obtain ⟨hp, rfl⟩ := Partial.of_check hs
  obtain ⟨T, hrep, htells⟩ := hi.tells
  refine ⟨exec_tells hrep htells hp, fun time hread d f g hlive hstands => ?_⟩
  have hread' : ReadBy time j.log := fun c hc => hread c (List.mem_append_left _ hc)
  rcases stands_concat.mp hstands with hg | ⟨hstands, hn, hremoves⟩
  · exact stands_concat.mpr (.inl hg)
  · have hends := hi.unswept time hread' d f g hlive hstands
    refine stands_concat.mpr (.inr ⟨hends, hn, ?_⟩)
    rw [Logged.ends, hremoves, Bool.false_or, Bool.eq_false_iff]
    intro hsweeps
    -- only a sweep ends the pair now, at a time when the deadline has come
    cases op with
    | expireSubscriptions now order =>
      obtain ⟨e, he, hx⟩ := (sweeps_iff hrep hp now d f).mp hsweeps
      obtain ⟨e', he', hr⟩ := (htells d f).of_stands g hends
      obtain rfl := Option.some.inj (he.symm.trans he')
      have hnow : now ≤ time := hread _ (List.mem_append_right _ (List.mem_singleton_self _)) now rfl
      obtain ⟨deadline, hd, hle⟩ := isExpired_iff.mp hx
      have hlate : isExpired e.details time = true :=
        isExpired_iff.mpr ⟨deadline, hd, hle.trans hnow⟩
      rw [hr.isExpired_eq_false.mpr hlive] at hlate
      exact nomatch hlate
    | registerDapp => exact nomatch hsweeps
    | unregisterDapp d order => exact nomatch hsweeps
    | addSubscription now d f ts cs p s => exact nomatch hsweeps
    | removeSubscription d f => exact nomatch hsweeps
    | removeSubscriptionById d id => exact nomatch hsweeps
    | clear => exact nomatch hsweeps

theorem Stands.of_ends (h : Stands (Logged.ends d f) d f g log) :
    Stands (Logged.removes d f) d f g log := by
  obtain ⟨before, c, after, hlog, hg, hafter⟩ := h
  refine ⟨before, c, after, hlog, hg, fun c' hc' => ⟨(hafter c' hc').1, ?_⟩⟩
  exact (Bool.or_eq_false_iff.mp (hafter c' hc').2).1

theorem readBy_of_pairwise
    (h : (log.filterMap (fun c => c.op.clock) ++ [time]).Pairwise (· ≤ ·)) : ReadBy time log := by
  intro c hc now hnow
  rw [List.pairwise_append] at h
  exact h.2.2 now (List.mem_filterMap.mpr ⟨c, hc, hnow⟩) time (List.mem_singleton_self time)

/-- After any history whose clock does not go back, a RAN function's dApps are listed once each, and
they are those with a standing grant whose time has not elapsed; leaving the sweeps out of account
gives the same dApps. -/
theorem listed_iff_granted {ops : List Operation} {j : Journal}
    (hrun : run Journal.step .fresh ops = some j)
    (hclock : (j.log.filterMap (fun c => c.op.clock) ++ [time]).Pairwise (· ≤ ·))
    {order : List UInt32} (ho : Visits order (j.mgr.ranFunctionSubscribers.ref f)) :
    (j.mgr.getSubscribedDapps time f order).Nodup ∧
      ∀ d, (d ∈ j.mgr.getSubscribedDapps time f order ↔
          ∃ g, Stands (Logged.ends d f) d f g j.log ∧ g.LiveAt time) ∧
        (d ∈ j.mgr.getSubscribedDapps time f order ↔
          ∃ g, Stands (Logged.removes d f) d f g j.log ∧ g.LiveAt time) := by
  have hi := inv journalInv_step journalInv_fresh hrun
  obtain ⟨T, hrep, htells⟩ := hi.tells
  have hends : ∀ d, d ∈ j.mgr.getSubscribedDapps time f order ↔
      ∃ g, Stands (Logged.ends d f) d f g j.log ∧ g.LiveAt time := by
    intro d
    rw [hrep.mem_getSubscribedDapps ho]
    constructor
    · rintro ⟨e, he, hx⟩
      obtain ⟨g, hs, hr⟩ := (htells d f).of_entry e he
      exact ⟨g, hs, hr.isExpired_eq_false.mp hx⟩
    · rintro ⟨g, hs, hlive⟩
      obtain ⟨e, he, hr⟩ := (htells d f).of_stands g hs
      exact ⟨e, he, hr.isExpired_eq_false.mpr hlive⟩
  refine ⟨nodup_getSubscribedDapps ho, fun d => ⟨hends d, (hends d).trans ?_⟩⟩
  constructor
  · rintro ⟨g, hs, hlive⟩
    exact ⟨g, hs.of_ends, hlive⟩
  · rintro ⟨g, hs, hlive⟩
    exact ⟨g, hi.unswept time (readBy_of_pairwise hclock) d f g hlive hs, hlive⟩

/-- One grant is renewed after it ran out, one is swept, one has no end. -/
theorem listed_iff_granted_renewed :
    ∃ j, run Journal.step .fresh [.registerDapp, .registerDapp, .registerDapp,
        .addSubscription 0 1 7 [1] [] 0 5, .addSubscription 0 2 7 [1] [] 0 5,
        .addSubscription 1 3 7 [1] [] 0 0, .addSubscription 5000000000 1 7 [1] [] 0 5,
        .expireSubscriptions 6000000000 [makeSubKey 3 7, makeSubKey 1 7, makeSubKey 2 7]]
          = some j ∧
      j.mgr.getSubscribedDapps 7000000000 7 [3, 1] = [3, 1] ∧
      ∀ d, (d ∈ j.mgr.getSubscribedDapps 7000000000 7 [3, 1] ↔
        ∃ g, Stands (Logged.ends d 7) d 7 g j.log ∧ g.LiveAt 7000000000) := by
  refine exists_run (fun j => j.mgr.getSubscribedDapps 7000000000 7 [3, 1] = [3, 1] ∧
    Visits [3, 1] (j.mgr.ranFunctionSubscribers.ref 7) ∧
    (j.log.filterMap fun c => c.op.clock) = [0, 0, 1, 5000000000, 6000000000])
    (by decide +kernel) fun j hj hq => ?_
  obtain ⟨hlist, ho, hclock⟩ := hq
  refine ⟨hlist, fun d => ?_⟩
  exact ((listed_iff_granted hj (by rw [hclock]; decide) ho).2 d).1

end LibE3
