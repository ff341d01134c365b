import LibE3.Lifecycle
import LibE3.Proofs.Consistent
import LibE3.Proofs.Registry

/-!
# The Service Model lifecycle on two threads

The decision to start or stop is acted on after the lock is gone, so a stop that the expiry thread
decided can be delivered after the start of a new subscription. If no thread delivers a callback
that is right while the other one has already decided on the opposite, a Service Model runs exactly
when its RAN function has a subscriber, whenever no call is in progress.
-/

namespace LibE3

open SubscriptionManager Runs

/-- The RAN functions a thread still has a check or a callback for. -/
def Worker.pending (w : Worker) : List UInt32 :=
  w.checks.map Prod.fst ++ w.callback.toList.map Prod.fst

theorem Thread.eq_or_eq_other (t t' : Thread) : t' = t ∨ t' = t.other := by
  cases t <;> cases t' <;> simp [Thread.other]

@[simp] theorem Thread.other_ne (t : Thread) : t.other ≠ t := by
  cases t <;> simp [Thread.other]

@[simp] theorem Thread.other_other (t : Thread) : t.other.other = t := by
  cases t <;> rfl

namespace Threads

/-- The thread is about to make a callback that agrees with the subscribers, while the other
thread has already decided on the opposite callback for the same RAN function. -/
def overtakes (s : Threads) (t : Thread) : Bool :=
  match (s.worker t).callback with
  | some (f, b) => s.mgr.hasSubscribers f == b && (s.worker t.other).callback == some (f, !b)
  | none => false

/-- The step delivers no callback that a decided one of the other thread will undo. -/
def NoOvertaking (s : Threads) : Label → Prop
  | .deliver t => s.overtakes t = false
  | _ => True

instance (s : Threads) : ∀ a, Decidable (s.NoOvertaking a)
  | .deliver t => inferInstanceAs (Decidable (s.overtakes t = false))
  | .setup | .inbound _ | .expiry _ _ | .recheck _ => inferInstanceAs (Decidable True)

/-- The thread will set the Service Model of `f` right: it has a check to make that will find a
change, or a callback to make that agrees with the subscribers. -/
def Fixes (s : Threads) (t : Thread) (f : UInt32) : Prop :=
  (f, !s.mgr.hasSubscribers f) ∈ (s.worker t).checks ∨
    (s.worker t).callback = some (f, s.mgr.hasSubscribers f)

structure RaceInv (s : Threads) : Prop where
  represents : ∃ T, Represents s.mgr T
  startable : s.registry.Startable
  nodup : ∀ t, (s.worker t).pending.Nodup
  /-- A Service Model that disagrees with the subscribers will be set right. -/
  fixed : ∀ f ∈ s.registry.sms, s.registry.isSmRunning f ≠ s.mgr.hasSubscribers f →
    ∃ t, s.Fixes t f
  /-- A callback that has become wrong will be followed by one of the other thread. -/
  stale : ∀ t f, (s.worker t).callback = some (f, !s.mgr.hasSubscribers f) → s.Fixes t.other f

variable {s s' : Threads} {t : Thread} {f : UInt32}

/-! ## One check or callback for each RAN function -/

theorem notMem_checks_of_callback {w : Worker} (hn : w.pending.Nodup) {b : Bool}
    (hc : w.callback = some (f, b)) (b' : Bool) : (f, b') ∉ w.checks := by
  intro hmem
  rw [Worker.pending, List.nodup_append] at hn
  refine hn.2.2 f (List.mem_map_of_mem hmem) f ?_ rfl
  simp [hc]

theorem nodup_pending_of_check {g : UInt32} {had : Bool} {cs : List (UInt32 × Bool)}
    {callback : Option (UInt32 × Bool)} (hn : (Worker.mk ((g, had) :: cs) none).pending.Nodup)
    (hc : ∀ change ∈ callback, change.1 = g) : (Worker.mk cs callback).pending.Nodup := by
  simp only [Worker.pending, Option.toList_none, List.map_nil, List.append_nil, List.map_cons,
    List.nodup_cons] at hn
  cases callback with
  | none => simpa [Worker.pending] using hn.2
  | some change =>
    have hg : change.1 = g := hc change rfl
    simp only [Worker.pending, Option.toList_some, List.map_cons, List.map_nil, hg]
    rw [List.nodup_append]
    refine ⟨hn.2, List.nodup_singleton g, ?_⟩
    rintro a ha b hb rfl
    rw [List.mem_singleton] at hb
    exact hn.1 (hb ▸ ha)

/-! ## Who sets a Service Model right -/

theorem checkSmLifecycle_eq_some {m : SubscriptionManager} {g : UInt32} {had b : Bool}
    (hc : m.checkSmLifecycle (g, had) = some (f, b)) : f = g ∧ b = m.hasSubscribers f := by
  cases hb : m.hasSubscribers g <;> cases had <;> simp_all [checkSmLifecycle]

theorem fixes_other_iff {registry : SmRegistry} {w : Worker} :
    Fixes { s with registry := registry, worker := Function.update s.worker t w } t.other f ↔
      s.Fixes t.other f := by
  simp [Fixes]

theorem Fixes.recheck {g : UInt32} {had : Bool} {cs : List (UInt32 × Bool)} (h : s.Fixes t f)
    (hw : s.worker t = ⟨(g, had) :: cs, none⟩) :
    Fixes { s with
      worker := Function.update s.worker t ⟨cs, s.mgr.checkSmLifecycle (g, had)⟩ } t f := by
  rcases h with hmem | hcb
  · rw [hw, List.mem_cons] at hmem
    rcases hmem with heq | hmem
    · -- the check that is made is the one for `f`
      obtain ⟨rfl, rfl⟩ := Prod.mk.inj heq
      right
      cases hb : s.mgr.hasSubscribers f <;> simp [checkSmLifecycle, hb]
    · exact .inl (by simpa using hmem)
  · rw [hw] at hcb
    exact nomatch hcb

theorem Fixes.deliver {g : UInt32} {b : Bool} {cs : List (UInt32 × Bool)} {registry : SmRegistry}
    (h : s.Fixes t f) (hw : s.worker t = ⟨cs, some (g, b)⟩) (hfg : f ≠ g) :
    Fixes { s with registry := registry, worker := Function.update s.worker t ⟨cs, none⟩ } t f := by
  rcases h with hmem | hcb
  · rw [hw] at hmem
    exact .inl (by simpa using hmem)
  · rw [hw, Option.some.injEq, Prod.mk.injEq] at hcb
    exact absurd hcb.1.symm hfg

/-! ## The steps -/

theorem raceInv_start {registry : SmRegistry} (hs : registry.Startable)
    (hr : ∀ f, registry.isSmRunning f = false) : RaceInv (start registry) where
  represents := ⟨_, represents_fresh⟩
  startable := hs
  nodup t := by simp [start, Worker.pending, Worker.idle]
  fixed f _ hne := by simp [start, hr, hasSubscribers, fresh] at hne
  stale t f hc := by simp [start, Worker.idle] at hc

theorem hasSubscribers_registerDapp (m : SubscriptionManager) (f : UInt32) :
    m.registerDapp.mgr.hasSubscribers f = m.hasSubscribers f := by
  unfold registerDapp hasSubscribers
  simp only
  split_ifs <;> rfl

theorem raceInv_setup (h : RaceInv s) : RaceInv { s with mgr := s.mgr.registerDapp.mgr } := by
  obtain ⟨T, hrep⟩ := h.represents
  obtain ⟨T', -, hrep', -⟩ := exec_refines hrep
    (show Operation.Possible s.mgr .registerDapp from trivial)
  refine ⟨⟨T', hrep'⟩, h.startable, h.nodup, fun f hf hne => ?_, fun t f hc => ?_⟩
  · rw [hasSubscribers_registerDapp] at hne
    obtain ⟨t, ht⟩ := h.fixed f hf hne
    exact ⟨t, by simpa only [Fixes, hasSubscribers_registerDapp] using ht⟩
  · rw [hasSubscribers_registerDapp] at hc
    simpa only [Fixes, hasSubscribers_registerDapp] using h.stale t f hc

/-- The locked section of a call: every RAN function whose having a subscriber changes gets a
check on the calling thread. -/
theorem raceInv_call {op : Operation} (h : RaceInv s) (hop : op ≠ .clear)
    (hs : s.call t op = some s') : RaceInv s' := by
  unfold call at hs
  split_ifs at hs with hcond
  obtain ⟨hidle, hp⟩ := hcond
  obtain rfl := Option.some.inj hs
  obtain ⟨T, hrep⟩ := h.represents
  obtain ⟨T', -, hrep', hreports⟩ := exec_refines hrep hp
  have hr := hreports hop
  have hmem : ∀ f had, (f, had) ∈ (op.exec s.mgr).checks ↔
      s.mgr.hasSubscribers f = had ∧ (op.exec s.mgr).mgr.hasSubscribers f ≠ had := by
    intro f had
    rw [hr.mem_iff, ← hrep.hasSubscribers_iff, ← hrep'.hasSubscribers_iff, ← Bool.eq_iff_iff,
      ← Bool.eq_iff_iff]
  generalize op.exec s.mgr = r at hrep' hr hmem
  have hchanged : ∀ f, s.mgr.hasSubscribers f ≠ r.mgr.hasSubscribers f →
      (f, !r.mgr.hasSubscribers f) ∈ r.checks := by
    intro f hne
    rw [hmem]
    cases hb : r.mgr.hasSubscribers f <;> simp_all
  refine ⟨⟨T', hrep'⟩, h.startable, fun t' => ?_, fun f hf hne => ?_, fun t' f hc => ?_⟩
  · rcases Thread.eq_or_eq_other t t' with rfl | rfl
    · simpa [Worker.pending] using hr.nodup
    · simpa using h.nodup t.other
  · simp only at hne
    by_cases heq : s.mgr.hasSubscribers f = r.mgr.hasSubscribers f
    · obtain ⟨t', ht'⟩ := h.fixed f hf (by rw [heq]; exact hne)
      rcases Thread.eq_or_eq_other t t' with rfl | rfl
      · simp [Fixes, hidle, Worker.idle] at ht'
      · exact ⟨t.other, by simpa [Fixes, ← heq] using ht'⟩
    · exact ⟨t, .inl (by simpa using hchanged f heq)⟩
  · rcases Thread.eq_or_eq_other t t' with rfl | rfl
    · simp at hc
    · simp only [ne_eq, Thread.other_ne, not_false_eq_true, Function.update_of_ne] at hc
      by_cases heq : s.mgr.hasSubscribers f = r.mgr.hasSubscribers f
      · have := h.stale t.other f (by rw [heq]; exact hc)
        simp [Fixes, hidle, Worker.idle] at this
      · exact .inl (by simpa using hchanged f heq)

/-- A check that finds a change decides on the right callback; one that finds none was not
going to set anything right. -/
theorem raceInv_recheck (h : RaceInv s) (hs : s.step (.recheck t) = some s') : RaceInv s' := by
  simp only [step] at hs
  split at hs
  · rename_i c cs hw
    obtain ⟨g, had⟩ := c
    obtain rfl := Option.some.inj hs
    refine ⟨h.represents, h.startable, fun t' => ?_, fun f hf hne => ?_, fun t' f hc => ?_⟩
    · rcases Thread.eq_or_eq_other t t' with rfl | rfl
      · simp only [Function.update_self]
        exact nodup_pending_of_check (hw ▸ h.nodup t') fun _ hc => (checkSmLifecycle_eq_some hc).1
      · simpa using h.nodup t.other
    · obtain ⟨t', ht'⟩ := h.fixed f hf hne
      rcases Thread.eq_or_eq_other t t' with rfl | rfl
      · exact ⟨t', ht'.recheck hw⟩
      · exact ⟨t.other, fixes_other_iff.mpr ht'⟩
    · rcases Thread.eq_or_eq_other t t' with rfl | rfl
      · simp only [Function.update_self] at hc
        have hb := (checkSmLifecycle_eq_some hc).2
        simp at hb
      · simp only [ne_eq, Thread.other_ne, not_false_eq_true, Function.update_of_ne] at hc
        have hfix := h.stale t.other f hc
        rw [Thread.other_other] at hfix ⊢
        exact hfix.recheck hw
  · exact nomatch hs

/-- A callback that agrees with the subscribers sets its Service Model right, and no decided one
undoes it; one that does not is followed by one of the other thread. -/
theorem raceInv_deliver (h : RaceInv s) (hc : s.NoOvertaking (.deliver t))
    (hs : s.step (.deliver t) = some s') : RaceInv s' := by
  simp only [step] at hs
  split at hs
  · rename_i cs change hw
    obtain ⟨g, b⟩ := change
    obtain rfl := Option.some.inj hs
    have hcb : (s.worker t).callback = some (g, b) := by rw [hw]
    refine ⟨h.represents, SmRegistry.startable_onSmLifecycleChange h.startable _, fun t' => ?_,
      fun f hf hne => ?_, fun t' f hc' => ?_⟩
    · rcases Thread.eq_or_eq_other t t' with rfl | rfl
      · have hn := h.nodup t'
        rw [hw, Worker.pending, List.nodup_append] at hn
        simpa [Worker.pending] using hn.1
      · simpa using h.nodup t.other
    · rw [SmRegistry.mem_onSmLifecycleChange h.startable] at hf
      by_cases hfg : f = g
      · subst hfg
        -- the Service Model runs as the callback said, so the callback was wrong
        simp only [SmRegistry.isSmRunning_onSmLifecycleChange_self h.startable b hf] at hne
        have hb : b = !s.mgr.hasSubscribers f := by
          cases b <;> cases hm : s.mgr.hasSubscribers f <;> simp_all
        exact ⟨t.other, fixes_other_iff.mpr (h.stale t f (hb ▸ hcb))⟩
      · simp only [SmRegistry.isSmRunning_onSmLifecycleChange_of_ne h.startable b hfg] at hne
        obtain ⟨t', ht'⟩ := h.fixed f hf hne
        rcases Thread.eq_or_eq_other t t' with rfl | rfl
        · exact ⟨t', ht'.deliver hw hfg⟩
        · exact ⟨t.other, fixes_other_iff.mpr ht'⟩
    · rcases Thread.eq_or_eq_other t t' with rfl | rfl
      · simp at hc'
      · simp only [ne_eq, Thread.other_ne, not_false_eq_true, Function.update_of_ne] at hc'
        have hfix := h.stale t.other f hc'
        rw [Thread.other_other] at hfix ⊢
        by_cases hfg : f = g
        · subst hfg
          rcases hfix with hmem | hcb'
          · exact absurd hmem (notMem_checks_of_callback (h.nodup t) hcb _)
          · simp only [NoOvertaking, overtakes, hcb] at hc
            rw [hcb, Option.some.injEq, Prod.mk.injEq] at hcb'
            rw [hc', ← hcb'.2] at hc
            simp at hc
        · exact hfix.deliver hw hfg
  · exact nomatch hs

theorem raceInv_step {a : Label} (h : RaceInv s) (hc : s.NoOvertaking a)
    (hs : s.step a = some s') : RaceInv s' := by
  cases a with
  | setup =>
    obtain rfl := Option.some.inj hs
    exact raceInv_setup h
  | inbound op =>
    simp only [step] at hs
    split_ifs at hs with hop
    refine raceInv_call h ?_ hs
    rintro rfl
    exact nomatch hop
  | expiry now order => exact raceInv_call h (by simp) hs
  | recheck t => exact raceInv_recheck h hs
  | deliver t => exact raceInv_deliver h hc hs

/-! ## Whole runs -/

/-- In every run of the two threads that never lets a right callback be undone by one already
decided, whenever no call is in progress a registered Service Model runs exactly when its RAN
function has a subscriber. -/
theorem running_iff_subscribed {registry : SmRegistry} (hs : registry.Startable)
    (hr : ∀ f, registry.isSmRunning f = false) {labels : List Label}
    (hm : Meets step NoOvertaking (start registry) labels)
    (hrun : run step (start registry) labels = some s) (hq : s.Quiescent)
    (hf : f ∈ s.registry.sms) :
    s.registry.isSmRunning f = true ↔ s.mgr.hasSubscribers f = true := by
  have hi : RaceInv s := inv_of_meets raceInv_step (raceInv_start hs hr) hm hrun
  by_cases heq : s.registry.isSmRunning f = s.mgr.hasSubscribers f
  · rw [heq]
  · obtain ⟨t, ht⟩ := hi.fixed f hf heq
    simp [Fixes, hq t, Worker.idle] at ht

def oneModel : SmRegistry := (SmRegistry.empty.registerSm (some model7)).2

theorem oneModel_sms : oneModel.sms.keys = {7} := by decide +kernel

theorem oneModel_lookup {sm : ServiceModel} (h : oneModel.sms.lookup f = some sm) :
    sm.startResult = .success ∧ sm.isRunning = false := by
  have hf : f = 7 := by
    have hmem := Finmap.mem_keys.mpr (Finmap.mem_of_lookup_eq_some h)
    rw [oneModel_sms] at hmem
    exact Finset.mem_singleton.mp hmem
  subst hf
  have hl : oneModel.sms.lookup 7 = some model7 := by decide +kernel
  obtain rfl := Option.some.inj (hl.symm.trans h)
  exact ⟨rfl, rfl⟩

/-- A subscription ends and a new one begins, each call done before the next one starts. -/
theorem running_iff_subscribed_in_turn :
    ∃ s, run step (start oneModel) [.setup, .inbound (.addSubscription 0 1 7 [1] [] 0 1),
        .recheck .inbound, .deliver .inbound, .expiry 1000000000 [makeSubKey 1 7],
        .recheck .expiry, .deliver .expiry,
        .inbound (.addSubscription 1000000001 1 7 [1] [] 0 1), .recheck .inbound,
        .deliver .inbound] = some s ∧
      (s.registry.isSmRunning 7 = true ↔ s.mgr.hasSubscribers 7 = true) := by
  refine exists_run (fun s => s.worker .inbound = .idle ∧ s.worker .expiry = .idle ∧
    7 ∈ s.registry.sms) (by decide +kernel) fun s hrun hs => ?_
  have hq : s.Quiescent := by
    intro t
    cases t
    · exact hs.1
    · exact hs.2.1
  refine running_iff_subscribed (fun g sm hg => (oneModel_lookup hg).1) (fun g => ?_)
    (by decide +kernel) hrun hq hs.2.2
  unfold SmRegistry.isSmRunning
  split
  · exact (oneModel_lookup ‹_›).2
  · rfl

/-- The stop of a subscription that ran out is delivered after the start for the next one: the
RAN function has a subscriber, no call is in progress, and its Service Model does not run. -/
theorem stop_overtakes_start :
    ∃ s, run step (start oneModel) [.setup, .inbound (.addSubscription 0 1 7 [1] [] 0 1),
        .recheck .inbound, .deliver .inbound, .expiry 1000000000 [makeSubKey 1 7],
        .recheck .expiry, .inbound (.addSubscription 1000000001 1 7 [1] [] 0 1),
        .recheck .inbound, .deliver .inbound, .deliver .expiry] = some s ∧
      s.Quiescent ∧ 7 ∈ s.registry.sms ∧ s.mgr.hasSubscribers 7 = true ∧
      s.registry.isSmRunning 7 = false := by
  refine exists_run (fun s => s.worker .inbound = .idle ∧ s.worker .expiry = .idle ∧
    7 ∈ s.registry.sms ∧ s.mgr.hasSubscribers 7 = true ∧ s.registry.isSmRunning 7 = false)
    (by decide +kernel) fun s _ hs => ⟨fun t => ?_, hs.2.2⟩
  cases t
  · exact hs.1
  · exact hs.2.1

end Threads

end LibE3
