import LibE3.Proofs.Decision
import LibE3.Proofs.Restart

/-!
# Which controls reach a Service Model

The RAN hands a control to the Service Model if it runs, which is the case exactly when some dApp
holds a subscription. A control that is not handed over is answered with one negative
acknowledgment, if the outbound queue takes it.
-/

namespace LibE3

open SubscriptionManager Runs

variable {r r' : Ran} {action : DAppControlAction}

namespace Ran

/-- Some dApp holds a subscription to the RAN function. -/
def Subscribed (r : Ran) (f : UInt32) : Prop := ∃ d, f ∈ r.mgr.dappSubscriptions.ref d

/-- What a control needs to reach the Service Model `sm`. -/
structure PassesControl (r : Ran) (action : DAppControlAction) (sm : ServiceModel) : Prop where
  registered : action.dappIdentifier ∈ r.mgr.registeredDapps
  serves : r.registry.Serves action.ranFunctionIdentifier sm
  offered : action.controlIdentifier ∈ sm.controlIds
  subscribed : r.Subscribed action.ranFunctionIdentifier

inductive FirstFailingControl (r : Ran) (action : DAppControlAction) : Cause → Prop
  | registered (h : action.dappIdentifier ∉ r.mgr.registeredDapps) :
    FirstFailingControl r action .setupRequired
  | served (hd : action.dappIdentifier ∈ r.mgr.registeredDapps)
      (h : ∀ sm, ¬ r.registry.Serves action.ranFunctionIdentifier sm) :
    FirstFailingControl r action .unsupportedRanFunction
  | offered (hd : action.dappIdentifier ∈ r.mgr.registeredDapps) {sm : ServiceModel}
      (hs : r.registry.Serves action.ranFunctionIdentifier sm)
      (h : action.controlIdentifier ∉ sm.controlIds) :
    FirstFailingControl r action .unsupportedIdentifier
  | subscribed (hd : action.dappIdentifier ∈ r.mgr.registeredDapps) {sm : ServiceModel}
      (hs : r.registry.Serves action.ranFunctionIdentifier sm)
      (ho : action.controlIdentifier ∈ sm.controlIds)
      (h : ¬ r.Subscribed action.ranFunctionIdentifier) : FirstFailingControl r action .notFound

theorem FirstFailingControl.not_passes {cause : Cause} (h : r.FirstFailingControl action cause)
    (sm : ServiceModel) : ¬ r.PassesControl action sm := by
  intro hp
  cases h with
  | registered h => exact h hp.registered
  | served hd h => exact h sm hp.serves
  | offered hd hs h =>
    rw [← SmRegistry.getByRanFunction_eq_some] at hs
    have hs' := SmRegistry.getByRanFunction_eq_some.mpr hp.serves
    rw [Option.some.inj (hs.symm.trans hs')] at h
    exact h hp.offered
  | subscribed hd hs ho h => exact h hp.subscribed

/-- The handler on a RAN whose Service Models run exactly while they have subscribers. -/
theorem decideControl_cases (r : Ran) (action : DAppControlAction)
    (hrun : ∀ sm, r.registry.Serves action.ranFunctionIdentifier sm →
      (sm.isRunning = true ↔ r.Subscribed action.ranFunctionIdentifier)) :
    (∃ sm, (r.decideControl action).1 = .inr sm ∧ r.PassesControl action sm) ∨
      ∃ refusal, (r.decideControl action).1 = .inl refusal ∧
        r.FirstFailingControl action refusal.cause := by
  unfold decideControl
  by_cases hd : action.dappIdentifier ∈ r.mgr.registeredDapps
  · have hreg : r.mgr.isDappRegistered action.dappIdentifier = true := decide_eq_true hd
    simp only [hreg, Bool.not_true, Bool.false_eq_true, if_false]
    cases hsm : (r.registry.getByRanFunction action.ranFunctionIdentifier).1 with
    | none => exact .inr ⟨_, rfl, .served hd (SmRegistry.getByRanFunction_eq_none.mp hsm)⟩
    | some sm =>
      have hs := SmRegistry.getByRanFunction_eq_some.mp hsm
      by_cases ho : action.controlIdentifier ∈ sm.controlIds
      · have hcontains : sm.controlIds.contains action.controlIdentifier = true :=
          List.contains_iff_mem.mpr ho
        simp only [hcontains, Bool.not_true, Bool.false_eq_true, if_false]
        cases hr : sm.isRunning with
        | true => exact .inl ⟨sm, rfl, hd, hs, ho, (hrun sm hs).mp hr⟩
        | false =>
          refine .inr ⟨_, rfl, .subscribed hd hs ho fun hsub => ?_⟩
          rw [(hrun sm hs).mpr hsub] at hr
          exact nomatch hr
      · have hcontains : sm.controlIds.contains action.controlIdentifier = false := by
          rwa [Bool.eq_false_iff, ne_eq, List.contains_iff_mem]
        simp only [hcontains, Bool.not_false, if_true]
        exact .inr ⟨_, rfl, .offered hd hs ho⟩
  · have hreg : r.mgr.isDappRegistered action.dappIdentifier = false := decide_eq_false hd
    simp only [hreg, Bool.not_false, if_true]
    exact .inr ⟨_, rfl, .registered hd⟩

end Ran

/-- The user registers Service Models, which do not run yet and will start when asked to, and
starts the interface. -/
def BeforeSetup : Ran.Label → Prop
  | .registerSm (some sm) => sm.startResult = .success ∧ sm.isRunning = false
  | .registerSm none | .start .. => True
  | _ => False

def Ran.Label.handled : Ran.Label → Bool
  | .setupRequest .. | .subscriptionRequest .. | .subscriptionDelete .. | .controlAction ..
  | .release .. | .sweep .. => true
  | .registerSm _ | .start .. | .stop => false

theorem inStep_beforeSetup {a : Ran.Label} (h : InStep r ∧ r.mgr = .fresh) (ha : BeforeSetup a)
    (hs : r.step a = some r') : InStep r' ∧ r'.mgr = .fresh := by
  obtain ⟨h, hmgr⟩ := h
  have hnone : ∀ f, r.mgr.hasSubscribers f = false := fun f => by rw [hmgr]; rfl
  cases a with
  | registerSm sm =>
    cases sm with
    | none =>
      exact ⟨inStep_step (a := .registerSm none) h ⟨trivial, trivial⟩ hs,
        Option.some.inj hs ▸ hmgr⟩
    | some sm =>
      have hin : RegistersInStep r (.registerSm (some sm)) := fun _ => by rw [ha.2, hnone]
      exact ⟨inStep_step h ⟨hin, ha.1⟩ hs, Option.some.inj hs ▸ hmgr⟩
  | start created connected =>
    refine ⟨inStep_step (a := .start created connected) h ⟨trivial, trivial⟩ hs, ?_⟩
    obtain rfl := Option.some.inj hs
    unfold Ran.start
    split_ifs <;> exact hmgr
  | stop => exact ha.elim
  | setupRequest stamp mid => exact ha.elim
  | subscriptionRequest now stamp request mid => exact ha.elim
  | subscriptionDelete stamp del mid => exact ha.elim
  | controlAction stamp action mid => exact ha.elim
  | release release order => exact ha.elim
  | sweep now order => exact ha.elim

theorem inStep_handled {a : Ran.Label} (h : InStep r) (ha : a.handled = true)
    (hs : r.step a = some r') : InStep r' := by
  refine inStep_step h ?_ hs
  cases a <;> first | exact ⟨trivial, trivial⟩ | exact nomatch ha

/-- Every Service Model that a lookup can give runs exactly while some dApp is subscribed. -/
theorem InStep.isRunning_iff (h : InStep r) {f : UInt32} {sm : ServiceModel}
    (hs : r.registry.Serves f sm) : sm.isRunning = true ↔ r.Subscribed f := by
  obtain ⟨T, hT⟩ := h.represents
  rcases hs with hl | ⟨-, hfac, -⟩
  · have hrun := h.running f (Finmap.mem_of_lookup_eq_some hl)
    rw [SmRegistry.isSmRunning, hl] at hrun
    simp only at hrun
    rw [hrun, hT.hasSubscribers_iff, Table.served_iff_isSome]
    exact exists_congr fun d => (hT.subs d f).symm
  · rw [h.factories, Finmap.lookup_empty] at hfac
    cases hfac

/-- A RAN whose Service Models were registered before the first setup hands a control to the
Service Model of its RAN function exactly when its dApp is registered, the RAN function is served,
the Service Model has the control identifier, and some dApp is subscribed to the RAN function.
Otherwise it calls no Service Model and passes one negative acknowledgment of the control to
`queue_outbound`, with the cause of the first of these that fails. It is queued exactly if there is
room. -/
theorem control_gate {config : E3Config} {registered handled : List RanInterface.Label}
    {s : RanInterface} (hreg : ∀ a, .ran a ∈ registered → BeforeSetup a)
    (hhandled : ∀ a, .ran a ∈ handled → a.handled = true)
    (hrun : run RanInterface.step (.initialized config) (registered ++ handled) = some s)
    (stamp : UInt64) (action : DAppControlAction) (mid : UInt32) :
    let out := s.handleControlAction stamp action mid
    (∀ sm, s.ran.PassesControl action sm → out.1 = some (sm, mid, action) ∧ out.2.e = s.e) ∧
      ((∀ sm, ¬ s.ran.PassesControl action sm) → out.1 = none ∧
        ∃ pdu ack, out.2.e = (s.e.queueOutbound pdu).2 ∧
          (s.e.HasRoom → s.e.Queued pdu out.2.e) ∧ (¬ s.e.HasRoom → out.2.e = s.e) ∧
          pdu.type = .messageAck ∧ pdu.choice = .messageAck ack ∧
          ack.responseCode = .negative ∧ (mid ≠ 0 → ack.requestId = mid) ∧
          ∃ cause, ack.cause = some cause ∧ s.ran.FirstFailingControl action cause) := by
  intro out
  have hlabels : ∀ {labels : List RanInterface.Label} {P : Ran.Label → Prop},
      (∀ a, .ran a ∈ labels → P a) → ∀ a ∈ labels.filterMap RanInterface.Label.ran?, P a := by
    intro labels P hP a ha
    obtain ⟨b, hb, hba⟩ := List.mem_filterMap.mp ha
    cases b with
    | ran a' => exact Option.some.inj hba ▸ hP a' hb
    | queueOutbound pdu => exact absurd hba (by simp [RanInterface.Label.ran?])
    | sendOutbound => exact absurd hba (by simp [RanInterface.Label.ran?])
  have hran := RanInterface.simulates_run hrun
  rw [List.filterMap_append] at hran
  obtain ⟨r₁, hrun₁, hrun₂⟩ := run_append.mp hran
  have h₁ := inv_of_mem (I := fun r => InStep r ∧ r.mgr = .fresh) inStep_beforeSetup
    ⟨inStep_initialized config, rfl⟩ (hlabels hreg) hrun₁
  have h := inv_of_mem inStep_handled h₁.1 (hlabels hhandled) hrun₂
  rcases hdec : s.ran.decideControl action with ⟨decision, registry⟩
  have hcases := s.ran.decideControl_cases action fun sm hs => h.isRunning_iff hs
  rw [hdec] at hcases
  rcases hcases with ⟨sm, rfl, hp⟩ | ⟨refusal, rfl, hfail⟩
  · refine ⟨fun sm' hp' => ?_, fun hno => absurd hp (hno sm)⟩
    have hs := SmRegistry.getByRanFunction_eq_some.mpr hp.serves
    have hs' := SmRegistry.getByRanFunction_eq_some.mpr hp'.serves
    rw [Option.some.inj (hs'.symm.trans hs)]
    simp [out, RanInterface.handleControlAction, Ran.handleControlAction, hdec]
  · refine ⟨fun sm hp => absurd hp (hfail.not_passes sm), fun _ => ?_⟩
    simp only [out, RanInterface.handleControlAction, Ran.handleControlAction, hdec,
      List.foldl_cons, List.foldl_nil]
    refine ⟨trivial, _, _, rfl, E3Interface.queued_queueOutbound,
      E3Interface.queueOutbound_of_not_hasRoom, rfl, rfl, rfl, fun hmid => ?_, _, rfl, hfail⟩
    rw [sanitizeRequestMessageId, if_pos hmid]

/-- With a subscription the control reaches the Service Model. -/
theorem control_gate_subscribed :
    ∃ s, run RanInterface.step (.initialized {})
        ([.ran (.registerSm (some { model7 with controlIds := [3] })),
          .ran (.start .success .success)] ++ [.ran (.setupRequest 0 5),
          .ran (.subscriptionRequest 0 0 ⟨1, 7, [1], [], none, none⟩ 6)]) = some s ∧
      (s.handleControlAction 0 ⟨1, 7, 3, [0], 0⟩ 9).1 =
        some ({ model7 with controlIds := [3], isRunning := true }, 9, ⟨1, 7, 3, [0], 0⟩) := by
  refine exists_run (fun s => 1 ∈ s.ran.mgr.registeredDapps ∧
    s.ran.registry.sms.lookup 7 = some { model7 with controlIds := [3], isRunning := true } ∧
    7 ∈ s.ran.mgr.dappSubscriptions.ref 1) (by decide +kernel) fun s hrun hs => ?_
  obtain ⟨hd, hsm, hsub⟩ := hs
  refine ((control_gate ?_ ?_ hrun 0 ⟨1, 7, 3, [0], 0⟩ 9).1 _ ?_).1
  · simp [BeforeSetup, model7]
  · simp [Ran.Label.handled]
  · exact ⟨hd, .inl hsm, List.mem_singleton.mpr rfl, 1, hsub⟩

/-- With a full queue, a control of a dApp that has not completed its setup is not answered. -/
theorem control_refusal_refused :
    ∃ s, run RanInterface.step (.initialized {})
        ([.ran (.start .success .success)] ++ RanInterface.filling) = some s ∧
      s.e.state = .running ∧
      let out := s.handleControlAction 0 ⟨1, 7, 3, [0], 0⟩ 9
      out.1 = none ∧ out.2.e.responseQueue = s.e.responseQueue := by
  refine exists_run (fun s => s.e.state = .running ∧
    (s.handleControlAction 0 ⟨1, 7, 3, [0], 0⟩ 9).1.isNone = true ∧
    (s.handleControlAction 0 ⟨1, 7, 3, [0], 0⟩ 9).2.e.responseQueue = s.e.responseQueue)
    (by decide +kernel) fun s _ hs => ?_
  exact ⟨hs.1, Option.isNone_iff_eq_none.mp hs.2.1, hs.2.2⟩

end LibE3
