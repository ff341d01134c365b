import LibE3.Ran
import LibE3.Proofs.LifecycleTrace
import LibE3.Proofs.Registry

/-!
# Running Service Models across restarts

`stop()` forgets the Service Models and keeps the subscriptions. A Service Model that is registered
again for a RAN function that still has a subscriber is not running and will not be started. As long
as every Service Model is registered in step with the subscribers, they stay in step.
-/

namespace LibE3

open SubscriptionManager Runs Partial

variable {r r' : Ran} {T T' : Table} {f : UInt32}

/-! ## The callbacks of a call -/

theorem startable_foldl : ∀ (l : List (UInt32 × Bool)) {registry : SmRegistry},
    registry.Startable →
    (l.foldl (fun registry c => registry.onSmLifecycleChange c) registry).Startable
  | [], _, h => h
  | c :: l, _, h => startable_foldl l (SmRegistry.startable_onSmLifecycleChange h c)

theorem mem_foldl : ∀ (l : List (UInt32 × Bool)) {registry : SmRegistry}, registry.Startable →
    (f ∈ (l.foldl (fun registry c => registry.onSmLifecycleChange c) registry).sms ↔
      f ∈ registry.sms)
  | [], _, _ => Iff.rfl
  | c :: l, _, h =>
    (mem_foldl l (SmRegistry.startable_onSmLifecycleChange h c)).trans
      (SmRegistry.mem_onSmLifecycleChange h c f)

theorem isSmRunning_foldl : ∀ (l : List (UInt32 × Bool)) {registry : SmRegistry},
    registry.Startable → f ∈ registry.sms →
    (l.foldl (fun registry c => registry.onSmLifecycleChange c) registry).isSmRunning f =
      (callbacksFor f l).getLast?.getD (registry.isSmRunning f)
  | [], _, _, _ => rfl
  | c :: l, registry, h, hf => by
    obtain ⟨g, b⟩ := c
    have hf' := (SmRegistry.mem_onSmLifecycleChange h (g, b) f).mpr hf
    rw [List.foldl_cons, isSmRunning_foldl l (SmRegistry.startable_onSmLifecycleChange h _) hf']
    by_cases hg : g = f
    · subst hg
      rw [SmRegistry.isSmRunning_onSmLifecycleChange_self h b hf]
      simp only [callbacksFor, List.filter_cons, decide_true, if_true, List.map_cons,
        List.getLast?_cons, Option.getD_some]
    · rw [SmRegistry.isSmRunning_onSmLifecycleChange_of_ne h b (Ne.symm hg)]
      simp only [callbacksFor, List.filter_cons, hg, decide_false, Bool.false_eq_true, if_false]

theorem factories_onSmLifecycleChange (registry : SmRegistry) (c : UInt32 × Bool) :
    (registry.onSmLifecycleChange c).factories = registry.factories := by
  unfold SmRegistry.onSmLifecycleChange SmRegistry.startSm SmRegistry.stopSm
  split_ifs <;> split <;> (try split_ifs) <;> rfl

theorem factories_foldl : ∀ (l : List (UInt32 × Bool)) (registry : SmRegistry),
    (l.foldl (fun registry c => registry.onSmLifecycleChange c) registry).factories =
      registry.factories
  | [], _ => rfl
  | c :: l, registry =>
    (factories_foldl l _).trans (factories_onSmLifecycleChange registry c)

/-! ## The invariant -/

/-- The Service Models that run are those whose RAN function has a subscriber. -/
structure InStep (r : Ran) : Prop where
  represents : ∃ T, Represents r.mgr T
  startable : r.registry.Startable
  factories : r.registry.factories = ∅
  running : ∀ f ∈ r.registry.sms, r.registry.isSmRunning f = r.mgr.hasSubscribers f

theorem inStep_initialized (config : E3Config) : InStep (.initialized config) where
  represents := ⟨_, represents_fresh⟩
  startable f sm h := by simp [Ran.initialized, SmRegistry.empty] at h
  factories := rfl
  running f h := absurd h Finmap.notMem_empty

theorem InStep.locked {ρ : Type} {l : Locked ρ} (h : InStep r) (op : Operation)
    (hp : op.Possible r.mgr) (hc : op ≠ .clear) (hmgr : l.mgr = (op.exec r.mgr).mgr)
    (hchecks : l.checks = (op.exec r.mgr).checks) : InStep (r.locked l) := by
  obtain ⟨T, hrep⟩ := h.represents
  obtain ⟨T', -, hrep', -⟩ := exec_refines hrep hp
  have hlaw := (callbackLaw hrep hp hc).changes
  have hcb : l.callbacks = (op.exec r.mgr).callbacks := by
    simp only [Locked.callbacks, hmgr, hchecks]
  refine ⟨⟨T', ?_⟩, startable_foldl _ h.startable, ?_, fun f hf => ?_⟩
  · simp only [Ran.locked, hmgr]
    exact hrep'
  · simp only [Ran.locked, factories_foldl, h.factories]
  · simp only [Ran.locked] at hf ⊢
    rw [mem_foldl _ h.startable] at hf
    rw [isSmRunning_foldl _ h.startable hf, hcb, hlaw, h.running f hf, hmgr]
    split_ifs with heq
    · exact heq
    · rfl

theorem getByRanFunction_of_no_factories {registry : SmRegistry} (h : registry.factories = ∅)
    (f : UInt32) : registry.getByRanFunction f = (registry.sms.lookup f, registry) := by
  unfold SmRegistry.getByRanFunction
  cases hl : registry.sms.lookup f with
  | some sm => rfl
  | none => simp [h]

theorem ranFunctionList_registry {registry : SmRegistry} (h : registry.factories = ∅) :
    (Ran.ranFunctionList registry).2 = registry := by
  have hloop : ∀ (l : List UInt32) (st : List RanFunctionDef), ∃ st',
      l.foldl Ran.advertise (st, registry) = (st', registry) := by
    intro l
    induction l with
    | nil => exact fun st => ⟨st, rfl⟩
    | cons id l ih =>
      intro st
      have hstep : ∃ st', Ran.advertise (st, registry) id = (st', registry) := by
        simp only [Ran.advertise, getByRanFunction_of_no_factories h]
        split_ifs <;> exact ⟨_, rfl⟩
      obtain ⟨st', hst'⟩ := hstep
      rw [List.foldl_cons, hst']
      exact ih st'
  obtain ⟨st', hst'⟩ := hloop registry.getAvailableRanFunctions []
  rw [Ran.ranFunctionList, hst']

theorem refusalForSubscription_registry {registry : SmRegistry} (h : registry.factories = ∅)
    (request : SubscriptionRequest) : (refusalForSubscription registry request).2 = registry := by
  simp only [refusalForSubscription, getByRanFunction_of_no_factories h]

/-! ## The steps -/

/-- A Service Model that `register_sm` accepts runs exactly when its RAN function already has a
subscriber. -/
def RegistersInStep (r : Ran) : Ran.Label → Prop
  | .registerSm (some sm) => r.registry.Accepts sm →
      sm.isRunning = r.mgr.hasSubscribers sm.ranFunctionId
  | _ => True

instance (r : Ran) : ∀ a, Decidable (RegistersInStep r a)
  | .registerSm (some sm) => inferInstanceAs (Decidable (r.registry.Accepts sm →
      sm.isRunning = r.mgr.hasSubscribers sm.ranFunctionId))
  | .registerSm none | .start .. | .stop | .setupRequest .. | .subscriptionRequest ..
  | .subscriptionDelete .. | .controlAction .. | .release .. | .sweep .. =>
    inferInstanceAs (Decidable True)

/-- The Service Models of the run start when they are asked to. -/
def StartsOnRequest : Ran.Label → Prop
  | .registerSm (some sm) => sm.startResult = .success
  | _ => True

theorem InStep.registerSm {sm : Option ServiceModel} (h : InStep r)
    (hc : RegistersInStep r (.registerSm sm)) (hs : StartsOnRequest (.registerSm sm)) :
    InStep (r.registerSm sm).2 := by
  rcases SmRegistry.registerSm_cases r.registry sm with ⟨-, heq⟩ | ⟨sm', rfl, hnot, heq⟩
  · simp only [Ran.registerSm, heq]
    exact h
  · have hrun := hc (SmRegistry.registerSm_eq_success.mp (by rw [heq]))
    simp only [Ran.registerSm, heq]
    refine ⟨h.represents, SmRegistry.startable_insert h.startable hs, h.factories, fun f hf => ?_⟩
    simp only [SmRegistry.isSmRunning, Finmap.lookup_insert_ite]
    split_ifs with hff
    · rw [hff]
      exact hrun
    · rw [Finmap.mem_insert, or_iff_right hff] at hf
      exact h.running f hf

theorem InStep.start (h : InStep r) (created connected : ErrorCode) :
    InStep (r.start created connected).2 := by
  unfold Ran.start
  split_ifs <;> exact ⟨h.represents, h.startable, h.factories, h.running⟩

theorem InStep.stop (h : InStep r) : InStep r.stop := by
  unfold Ran.stop
  split_ifs
  · exact h
  · refine ⟨h.represents, ?_, rfl, fun f hf => absurd hf Finmap.notMem_empty⟩
    intro f sm hl
    simp [SmRegistry.clear] at hl

theorem InStep.answerSetup (h : InStep r) (stamp : UInt64) (mid : UInt32) :
    InStep (r.answerSetup stamp mid).1 := by
  have hl : InStep (r.locked r.mgr.registerDapp) :=
    h.locked .registerDapp trivial (by simp) rfl rfl
  simp only [Ran.answerSetup, ranFunctionList_registry hl.factories]
  exact ⟨hl.represents, hl.startable, hl.factories, hl.running⟩

theorem InStep.handleSubscriptionRequest (h : InStep r) (now : TimePoint) (stamp : UInt64)
    (request : SubscriptionRequest) (mid : UInt32) :
    InStep (r.handleSubscriptionRequest now stamp request mid).1 := by
  have hdecide : InStep (r.decideSubscription now request).1 := by
    unfold Ran.decideSubscription
    split_ifs
    · exact h
    · have hreg := refusalForSubscription_registry h.factories request
      have heq : { r with registry := (refusalForSubscription r.registry request).2 } = r := by
        rw [hreg]
      simp only [heq]
      split
      · exact h
      · exact h.locked (.addSubscription now _ _ _ _ _ _) trivial (by simp) rfl rfl
  exact ⟨hdecide.represents, hdecide.startable, hdecide.factories, hdecide.running⟩

theorem InStep.handleSubscriptionDelete (h : InStep r) (stamp : UInt64)
    (del : SubscriptionDelete) (mid : UInt32) :
    InStep (r.handleSubscriptionDelete stamp del mid).1 := by
  have hl : InStep (r.locked (r.mgr.removeSubscriptionById del.dappIdentifier
      del.subscriptionId)) :=
    h.locked (.removeSubscriptionById del.dappIdentifier del.subscriptionId) trivial (by simp)
      rfl rfl
  exact ⟨hl.represents, hl.startable, hl.factories, hl.running⟩

theorem decideControl_registry (h : r.registry.factories = ∅) (action : DAppControlAction) :
    (r.decideControl action).2 = r.registry := by
  unfold Ran.decideControl
  rw [getByRanFunction_of_no_factories h]
  split_ifs
  · rfl
  · simp only
    rcases r.registry.sms.lookup action.ranFunctionIdentifier with _ | sm
    · rfl
    · simp only
      split_ifs <;> rfl

theorem InStep.handleControlAction (h : InStep r) (stamp : UInt64) (action : DAppControlAction)
    (mid : UInt32) : InStep (r.handleControlAction stamp action mid).1 := by
  have hmgr := r.handleControlAction_mgr stamp action mid
  have hreg := (r.handleControlAction_registry stamp action mid).trans
    (decideControl_registry h.factories action)
  refine ⟨?_, ?_, ?_, ?_⟩
  · rw [hmgr]
    exact h.represents
  · rw [hreg]
    exact h.startable
  · rw [hreg]
    exact h.factories
  · rw [hreg, hmgr]
    exact h.running

theorem inStep_step {a : Ran.Label} (h : InStep r) (hc : RegistersInStep r a ∧ StartsOnRequest a)
    (hs : r.step a = some r') : InStep r' := by
  cases a with
  | registerSm sm =>
    obtain rfl := Option.some.inj hs
    exact h.registerSm hc.1 hc.2
  | start created connected =>
    obtain rfl := Option.some.inj hs
    exact h.start created connected
  | stop =>
    obtain rfl := Option.some.inj hs
    exact h.stop
  | setupRequest stamp mid =>
    obtain ⟨-, rfl⟩ := of_check hs
    exact h.answerSetup stamp mid
  | subscriptionRequest now stamp request mid =>
    obtain ⟨-, rfl⟩ := of_check hs
    exact h.handleSubscriptionRequest now stamp request mid
  | subscriptionDelete stamp del mid =>
    obtain ⟨-, rfl⟩ := of_check hs
    exact h.handleSubscriptionDelete stamp del mid
  | controlAction stamp action mid =>
    obtain ⟨-, rfl⟩ := of_check hs
    exact h.handleControlAction stamp action mid
  | release release order =>
    obtain ⟨hcond, rfl⟩ := of_check hs
    exact h.locked (.unregisterDapp release.dappIdentifier order) hcond.2 (by simp) rfl rfl
  | sweep now order =>
    obtain ⟨hcond, rfl⟩ := of_check hs
    exact h.locked (.expireSubscriptions now order) hcond.2 (by simp) rfl rfl

/-! ## Whole runs -/

/-- In every run that registers Service Models in step with the subscribers, each registered
Service Model runs exactly when its RAN function has a subscriber: in every state, and so in
every state in which the interface is running. -/
theorem running_iff_subscribed_across_restarts {config : E3Config} {labels : List Ran.Label}
    (hs : ∀ a ∈ labels, StartsOnRequest a)
    (hm : Meets Ran.step RegistersInStep (.initialized config) labels)
    (hrun : run Ran.step (.initialized config) labels = some r)
    (hf : f ∈ r.registry.sms) :
    r.registry.isSmRunning f = true ↔ r.mgr.hasSubscribers f = true := by
  have hi : InStep r :=
    inv_of_meets inStep_step (inStep_initialized config) (hm.and_of_mem hs) hrun
  rw [hi.running f hf]

/-- A subscription is removed before the restart, and a new one made after it. -/
theorem running_iff_subscribed_across_restarts_of_delete :
    ∃ r, run Ran.step (.initialized {}) [.registerSm (some model7), .start .success .success,
        .setupRequest 0 5, .subscriptionRequest 0 0 ⟨1, 7, [1], [], none, none⟩ 6,
        .subscriptionDelete 0 ⟨1, 1⟩ 7, .stop, .registerSm (some model7),
        .start .success .success,
        .subscriptionRequest 1 0 ⟨1, 7, [1], [], none, none⟩ 8] = some r ∧
      r.state = .running ∧
      (r.registry.isSmRunning 7 = true ↔ r.mgr.hasSubscribers 7 = true) := by
  refine exists_run (fun r => r.state = .running ∧ 7 ∈ r.registry.sms) (by decide +kernel)
    fun r hrun hr => ⟨hr.1, ?_⟩
  refine running_iff_subscribed_across_restarts ?_ (by decide +kernel) hrun hr.2
  simp [StartsOnRequest, model7]

/-- After a restart with a subscriber, the Service Model that is registered again does not run,
while its RAN function still has the subscriber. -/
theorem restart_leaves_model_stopped :
    ∃ r, run Ran.step (.initialized {}) [.registerSm (some model7), .start .success .success,
        .setupRequest 0 5, .subscriptionRequest 0 0 ⟨1, 7, [1], [], none, none⟩ 6, .stop,
        .registerSm (some model7), .start .success .success] = some r ∧
      r.state = .running ∧ 7 ∈ r.registry.sms ∧ r.mgr.hasSubscribers 7 = true ∧
      r.registry.isSmRunning 7 = false := by
  exact exists_run _ (by decide +kernel) fun _ _ h => h

end LibE3
