import LibE3.CApi
import LibE3.Lib.Runs
import LibE3.Proofs.Registry

/-!
# Who destroys a Service Model

A registration that fails before the handle is wrapped leaves the object to the caller. One that
fails later has destroyed it, and the caller, who is told to destroy it, reads freed memory. So a
caller that follows the rule is safe exactly when each of its registrations is turned down at the
first check or accepted.
-/

namespace LibE3

open Runs

/-! ## What a registration takes -/

/-- The agent and the registry take the Service Model. -/
structure E3Agent.Accepts (a : E3Agent) (registry : SmRegistry) (encoder connector : Bool)
    (sm : ServiceModel) : Prop where
  role : a.config.role = .ran
  ready : a.initialized = true ∨ encoder = true ∧ a.config.textsFit = true ∧ connector = true
  telemetryIds : sm.telemetryIds.length ≤ maxIdentifierListSize
  controlIds : sm.controlIds.length ≤ maxIdentifierListSize
  room : registry.size < maxRanFunctions
  free : sm.ranFunctionId ∉ registry.sms
  inits : sm.initResult = .success

instance (a : E3Agent) (registry : SmRegistry) (encoder connector : Bool) (sm : ServiceModel) :
    Decidable (a.Accepts registry encoder connector sm) :=
  decidable_of_iff (a.config.role = .ran ∧
      (a.initialized = true ∨ encoder = true ∧ a.config.textsFit = true ∧ connector = true) ∧
      sm.telemetryIds.length ≤ maxIdentifierListSize ∧
      sm.controlIds.length ≤ maxIdentifierListSize ∧ registry.size < maxRanFunctions ∧
      sm.ranFunctionId ∉ registry.sms ∧ sm.initResult = .success)
    ⟨fun ⟨h₁, h₂, h₃, h₄, h₅, h₆, h₇⟩ => ⟨h₁, h₂, h₃, h₄, h₅, h₆, h₇⟩,
      fun h => ⟨h.1, h.2, h.3, h.4, h.5, h.6, h.7⟩⟩

/-- The first check of `e3_agent_register_sm`, before the handle is wrapped. -/
def ServiceModel.DataFits (sm : ServiceModel) : Prop :=
  0 < sm.ranFunctionData.length ∧ sm.ranFunctionData.length ≤ maxProtocolDataSize

instance (sm : ServiceModel) : Decidable sm.DataFits := inferInstanceAs (Decidable (_ ∧ _))

namespace E3Agent

variable {a : E3Agent} {encoder connector : Bool} {sm : ServiceModel}

theorem init_eq_success (hi : a.initialized = false) :
    (a.init encoder connector).1 = .success ↔
      encoder = true ∧ a.config.textsFit = true ∧ connector = true := by
  unfold init
  cases encoder with
  | false => simp [hi]
  | true =>
    cases ht : a.config.textsFit with
    | false => simp [hi]
    | true => cases connector <;> simp [hi]

/-- The registry has the object exactly when the call succeeds, which is when it is accepted. -/
theorem registerSm_spec (a : E3Agent) (registry : SmRegistry) (encoder connector : Bool)
    (hdata : sm.DataFits) :
    ((a.registerSm registry encoder connector sm).stored = true ↔
        a.Accepts registry encoder connector sm) ∧
      ((a.registerSm registry encoder connector sm).result = .success ↔
        a.Accepts registry encoder connector sm) := by
  unfold registerSm
  by_cases hrole : a.config.role = .ran
  · simp only [hrole, ne_eq, not_true_eq_false, if_false]
    have hready : (if a.initialized then (ErrorCode.success, a)
        else a.init encoder connector).1 = .success ↔
        a.initialized = true ∨ encoder = true ∧ a.config.textsFit = true ∧ connector = true := by
      cases hi : a.initialized with
      | true => simp
      | false => simpa using init_eq_success hi
    generalize (if a.initialized = true then (ErrorCode.success, a)
      else a.init encoder connector) = p at hready ⊢
    obtain ⟨initResult, a'⟩ := p
    simp only at hready ⊢
    by_cases hfail : initResult = .success
    · have hacc : (registry.registerSm (some sm)).1 = .success ↔
          a.Accepts registry encoder connector sm := by
        rw [SmRegistry.registerSm_eq_success]
        constructor
        · rintro ⟨-, ht, hc, hroom, hfree, hinits⟩
          exact ⟨hrole, hready.mp hfail, ht, hc, hroom, hfree, hinits⟩
        · intro hacc
          exact ⟨hdata, hacc.telemetryIds, hacc.controlIds, hacc.room, hacc.free, hacc.inits⟩
      simp only [hfail, not_true_eq_false, if_false]
      exact ⟨decide_eq_true_iff.trans hacc, hacc⟩
    · have hno : ¬ a.Accepts registry encoder connector sm :=
        fun hacc => hfail (hready.mpr hacc.ready)
      simp only [hfail, not_false_eq_true, if_true]
      exact ⟨iff_of_false Bool.false_ne_true hno, iff_of_false id hno⟩
  · simp only [hrole, ne_eq, not_false_eq_true, if_true]
    have hno : ¬ a.Accepts registry encoder connector sm := fun hacc => hrole hacc.role
    exact ⟨iff_of_false Bool.false_ne_true hno, iff_of_false (fun h => nomatch h) hno⟩

end E3Agent

namespace CApi

variable {s s' : CApi} {k h : ℕ} {o : Object}

/-! ## What the calls do to the objects -/

theorem getElem?_sees (s : CApi) (handle : Option ℕ) (view : View) (k : ℕ) :
    (s.sees handle view).objects[k]? =
      if handle = some k then s.objects[k]?.map fun o => { o with view := view }
      else s.objects[k]? := by
  cases handle with
  | none => simp [sees]
  | some h => by_cases hk : h = k <;> simp [sees, hk]

@[simp] theorem fault_sees (s : CApi) (handle : Option ℕ) (view : View) :
    (s.sees handle view).fault = s.fault := by
  cases handle <;> rfl

/-- The registration is turned down at the first check, or accepted. -/
def KeepsObject (s : CApi) : Call → Prop
  | .registerSm (some i) (some h) encoder connector raised =>
    ∀ a ∈ s.agents[i]?, ∀ o ∈ s.objects[h]?, o.sm.DataFits →
      raised = false ∧ a.Accepts s.registry encoder connector o.sm
  | _ => True

instance (s : CApi) : ∀ c, Decidable (s.KeepsObject c)
  | .registerSm (some i) (some h) encoder connector raised =>
    inferInstanceAs (Decidable (∀ a ∈ s.agents[i]?, ∀ o ∈ s.objects[h]?, o.sm.DataFits →
      raised = false ∧ a.Accepts s.registry encoder connector o.sm))
  | .registerSm (some _) none .. | .registerSm none .. | .createFromC .. | .destroy _ | .clear =>
    inferInstanceAs (Decidable True)

inductive RegisterOutcome (s : CApi) (agent handle : Option ℕ) (encoder connector raised : Bool) :
    ErrorCode × CApi → Prop
  | rejected (hk : s.KeepsObject (.registerSm agent handle encoder connector raised)) :
    RegisterOutcome s agent handle encoder connector raised (.invalidParam, s)
  | fault {h : ℕ} {o : Object} (hh : handle = some h) (ho : s.objects[h]? = some o)
      (hd : 0 < o.destroyed) :
    RegisterOutcome s agent handle encoder connector raised
      (.internalError, { s with fault := true })
  | destroyed {h : ℕ} {o : Object} {out : ErrorCode × CApi} (hh : handle = some h)
      (ho : s.objects[h]? = some o) (hd : o.destroyed = 0)
      (hk : ¬ s.KeepsObject (.registerSm agent handle encoder connector raised))
      (hret : out.1 ≠ .success) (hfault : out.2.fault = s.fault)
      (hobjects : ∀ k, out.2.objects[k]? = if h = k then
        some { o with transferredToAgent := true, destroyed := 1 } else s.objects[k]?) :
    RegisterOutcome s agent handle encoder connector raised out
  | stored {h : ℕ} {o : Object} {out : ErrorCode × CApi} (hh : handle = some h)
      (ho : s.objects[h]? = some o) (hd : o.destroyed = 0)
      (hk : s.KeepsObject (.registerSm agent handle encoder connector raised))
      (hret : out.1 = .success) (hfault : out.2.fault = s.fault)
      (hobjects : ∀ k, out.2.objects[k]? = if h = k then
        some { o with transferredToAgent := true, inRegistry := true } else s.objects[k]?) :
    RegisterOutcome s agent handle encoder connector raised out

theorem getElem?_delete (s : CApi) (h k : ℕ) :
    (s.delete h).objects[k]? = if h = k then
      s.objects[k]?.map (fun o => { o with destroyed := o.destroyed + 1 }) else s.objects[k]? := by
  by_cases hk : h = k <;> simp [delete, hk]

/-- The handle is wrapped: the registry has the object when it is accepted, and otherwise it is
destroyed. -/
theorem transferOutcome {i h : ℕ} {a : E3Agent} {o : Object} (encoder connector raised : Bool)
    (ha : s.agents[i]? = some a) (ho : s.objects[h]? = some o) (hd : o.destroyed = 0)
    (hdata : o.sm.DataFits) :
    RegisterOutcome s (some i) (some h) encoder connector raised
      (s.transfer i h a o.sm encoder connector raised) := by
  have hkeeps : s.KeepsObject (.registerSm (some i) (some h) encoder connector raised) ↔
      raised = false ∧ a.Accepts s.registry encoder connector o.sm := by
    constructor
    · intro hk
      exact hk a ha o ho hdata
    · rintro hk a' ha' o' ho' -
      rw [← Option.some.inj (ha.symm.trans ha'), ← Option.some.inj (ho.symm.trans ho')]
      exact hk
  cases raised with
  | true =>
    refine .destroyed rfl ho hd (fun hk => nomatch (hkeeps.mp hk).1) (fun h => nomatch h) rfl
      fun k => ?_
    by_cases hk : h = k
    · subst hk
      simp [transfer, getElem?_delete, ho, hd]
    · simp [transfer, getElem?_delete, hk]
  | false =>
    obtain ⟨hstored, hresult⟩ := E3Agent.registerSm_spec a s.registry encoder connector hdata
    by_cases hacc : a.Accepts s.registry encoder connector o.sm
    · have hs := hstored.mpr hacc
      have hr := hresult.mpr hacc
      refine .stored rfl ho hd (hkeeps.mpr ⟨rfl, hacc⟩) ?_ ?_ fun k => ?_
      · simp [transfer, hs, hr]
      · simp [transfer, hs]
      · by_cases hk : h = k
        · subst hk
          simp [transfer, hs, ho]
        · simp [transfer, hs, hk]
    · have hs := Bool.eq_false_iff.mpr (mt hstored.mp hacc)
      have hr := mt hresult.mp hacc
      refine .destroyed rfl ho hd (fun hk => hacc (hkeeps.mp hk).2) ?_ ?_ fun k => ?_
      · simpa [transfer, hs] using hr
      · simp [transfer, hs, delete]
      · by_cases hk : h = k
        · subst hk
          simp [transfer, hs, getElem?_delete, ho, hd]
        · simp [transfer, hs, getElem?_delete, hk]

theorem registerOutcome (s : CApi) (agent handle : Option ℕ) (encoder connector raised : Bool) :
    RegisterOutcome s agent handle encoder connector raised
      (s.registerSm agent handle encoder connector raised) := by
  rcases agent with _ | i
  · exact .rejected trivial
  rcases handle with _ | h
  · exact .rejected trivial
  rw [registerSm]
  cases ha : s.agents[i]? with
  | none =>
    have hk : s.KeepsObject (.registerSm (some i) (some h) encoder connector raised) := by
      intro a ha'
      rw [ha] at ha'
      exact nomatch ha'
    exact .rejected hk
  | some a =>
    cases ho : s.objects[h]? with
    | none =>
      have hk : s.KeepsObject (.registerSm (some i) (some h) encoder connector raised) := by
        intro a _ o ho'
        rw [ho] at ho'
        exact nomatch ho'
      exact .rejected hk
    | some o =>
      simp only
      split_ifs with hd hdata
      · exact .fault rfl ho hd
      · have hk : s.KeepsObject (.registerSm (some i) (some h) encoder connector raised) := by
          intro a' _ o' ho' hfits
          rw [← Option.some.inj (ho.symm.trans ho')] at hfits
          have := hfits.1
          have := hfits.2
          omega
        exact .rejected hk
      · rw [not_or, Nat.not_lt] at hdata
        exact transferOutcome encoder connector raised ha ho (Nat.eq_zero_of_not_pos hd)
          ⟨Nat.pos_of_ne_zero hdata.1, hdata.2⟩

theorem destroy_some_cases (s : CApi) (h : ℕ) : s.destroy (some h) = s ∨
    s.destroy (some h) = { s with fault := true } ∨ s.destroy (some h) = s.delete h := by
  rw [CApi.destroy]
  cases s.objects[h]? with
  | none => exact .inl rfl
  | some o =>
    simp only
    split_ifs
    · exact .inr (.inl rfl)
    · exact .inl rfl
    · exact .inr (.inr rfl)

/-! ## A caller that is safe -/

/-- What holds of an object while all goes well: it belongs to the caller, or to the registry, or it
was destroyed once. -/
def Owned (o : Object) : Prop :=
  match o.view with
  | .done => o.inRegistry = true ∧ o.destroyed = 0 ∨ o.inRegistry = false ∧ o.destroyed = 1
  | _ => o.inRegistry = false ∧ o.destroyed = 0 ∧ o.transferredToAgent = false

theorem Owned.of_view_ne_done (ho : Owned o) (hv : o.view ≠ .done) :
    o.inRegistry = false ∧ o.destroyed = 0 ∧ o.transferredToAgent = false := by
  unfold Owned at ho
  cases hview : o.view with
  | done => exact absurd hview hv
  | created => simpa [hview] using ho
  | refused => simpa [hview] using ho

theorem Owned.destroyed_le (ho : Owned o) : o.destroyed ≤ 1 := by
  by_cases hv : o.view = .done
  · unfold Owned at ho
    rw [hv] at ho
    rcases ho with ⟨-, hd⟩ | ⟨-, hd⟩
    · omega
    · omega
  · have := (ho.of_view_ne_done hv).2.1
    omega

structure OwnedInv (s : CApi) : Prop where
  fault : s.fault = false
  owned : ∀ (k : ℕ) (o : Object), s.objects[k]? = some o → Owned o

theorem ownedInv_initial (agents : List E3Agent) (registry : SmRegistry) :
    OwnedInv (initial agents registry) := by
  refine ⟨rfl, fun k o ho => ?_⟩
  simp [initial] at ho

theorem OwnedInv.safe (hi : OwnedInv s) : s.Safe := by
  refine ⟨hi.fault, fun o ho => ?_⟩
  obtain ⟨k, hk⟩ := List.mem_iff_getElem?.mp ho
  exact (hi.owned k o hk).destroyed_le

theorem OwnedInv.sees {handle : Option ℕ} {view : View} (hi : OwnedInv s)
    (hv : ∀ h ∈ handle, ∀ o, s.objects[h]? = some o → Owned { o with view := view }) :
    OwnedInv (s.sees handle view) := by
  refine ⟨by simpa using hi.fault, fun k o ho => ?_⟩
  rw [getElem?_sees] at ho
  split_ifs at ho with hh
  · obtain ⟨o', ho', rfl⟩ := Option.map_eq_some_iff.mp ho
    exact hv k hh o' ho'
  · exact hi.owned k o ho

theorem OwnedInv.registerSm (hi : OwnedInv s) {agent handle : Option ℕ}
    {encoder connector raised : Bool} (hf : s.MayUse handle)
    (hk : s.KeepsObject (.registerSm agent handle encoder connector raised)) :
    OwnedInv ((s.registerSm agent handle encoder connector raised).2.sees handle
      (if (s.registerSm agent handle encoder connector raised).1 = .success then .done
        else .refused)) := by
  have hout := registerOutcome s agent handle encoder connector raised
  generalize s.registerSm agent handle encoder connector raised = out at hout
  cases hout with
  | rejected _ =>
    refine hi.sees fun h hh o ho => ?_
    obtain ⟨o', ho', hv⟩ := hf h hh
    obtain rfl := Option.some.inj (ho.symm.trans ho')
    exact (hi.owned h o ho).of_view_ne_done hv
  | fault hh ho hd =>
    obtain ⟨o', ho', hv⟩ := hf _ hh
    obtain rfl := Option.some.inj (ho.symm.trans ho')
    have := ((hi.owned _ _ ho).of_view_ne_done hv).2.1
    omega
  | destroyed _ _ _ hno => exact absurd hk hno
  | stored hh ho hd _ hret hfault hobjects =>
    subst hh
    refine ⟨by rw [fault_sees, hfault, hi.fault], fun k o' ho' => ?_⟩
    rw [getElem?_sees, hobjects, hret] at ho'
    simp only [Option.some.injEq] at ho'
    split_ifs at ho' with hk'
    · obtain rfl := Option.some.inj ho'
      exact .inl ⟨rfl, hd⟩
    · exact hi.owned k o' ho'

theorem OwnedInv.destroy (hi : OwnedInv s) {handle : Option ℕ} (hf : s.MayUse handle) :
    OwnedInv ((s.destroy handle).sees handle .done) := by
  rcases handle with _ | h
  · exact hi
  obtain ⟨o, hmem, hv⟩ := hf h rfl
  have ho : s.objects[h]? = some o := hmem
  obtain ⟨hreg, hd, ht⟩ := (hi.owned h o ho).of_view_ne_done hv
  have hdestroy : s.destroy (some h) = s.delete h := by
    rw [CApi.destroy]
    simp [ho, hd, ht]
  refine ⟨by rw [fault_sees, hdestroy]; exact hi.fault, fun k o' ho' => ?_⟩
  rw [getElem?_sees, hdestroy, getElem?_delete] at ho'
  simp only [Option.some.injEq] at ho'
  split_ifs at ho' with hk
  · subst hk
    rw [ho] at ho'
    obtain rfl := Option.some.inj ho'
    exact .inr ⟨hreg, by simp [hd]⟩
  · exact hi.owned k o' ho'

theorem OwnedInv.clear (hi : OwnedInv s) : OwnedInv s.clear := by
  refine ⟨hi.fault, fun k o ho => ?_⟩
  rw [CApi.clear, List.getElem?_map] at ho
  obtain ⟨o', ho', rfl⟩ := Option.map_eq_some_iff.mp ho
  have howned := hi.owned k o' ho'
  split_ifs with hreg
  · have hview : o'.view = .done := by
      by_contra hv
      rw [(howned.of_view_ne_done hv).1] at hreg
      exact nomatch hreg
    unfold Owned at howned ⊢
    rw [hview] at howned ⊢
    rcases howned with ⟨-, hd⟩ | ⟨hno, -⟩
    · exact .inr ⟨rfl, by simp [hd]⟩
    · rw [hreg] at hno
      exact nomatch hno
  · exact howned

theorem OwnedInv.createFromC (hi : OwnedInv s) (desc : Option ServiceModel) (allocated : Bool) :
    OwnedInv (s.createFromC desc allocated).2 := by
  rcases desc with _ | sm
  · exact hi
  unfold CApi.createFromC
  cases allocated with
  | false => exact hi
  | true =>
    refine ⟨hi.fault, fun k o ho => ?_⟩
    simp only [if_true] at ho
    rw [List.getElem?_append] at ho
    split_ifs at ho
    · exact hi.owned k o ho
    · obtain rfl := List.mem_singleton.mp (List.mem_of_getElem? ho)
      exact ⟨rfl, rfl, rfl⟩

theorem ownedInv_step {c : Call} (hi : OwnedInv s) (hc : s.Follows c ∧ s.KeepsObject c)
    (hs : s.step c = some s') : OwnedInv s' := by
  cases c with
  | createFromC desc allocated =>
    obtain rfl := Option.some.inj hs
    exact hi.createFromC desc allocated
  | registerSm agent handle encoder connector raised =>
    obtain rfl := Option.some.inj hs
    exact hi.registerSm hc.1 hc.2
  | destroy handle =>
    obtain rfl := Option.some.inj hs
    exact hi.destroy hc.1
  | clear =>
    obtain rfl := Option.some.inj hs
    exact hi.clear

/-! ## A caller that is not -/

/-- A call has read a destroyed object, or its caller is still to destroy one that is. -/
def Doomed (s : CApi) : Prop :=
  s.fault = true ∨ ∃ (k : ℕ) (o : Object), s.objects[k]? = some o ∧ o.view = .refused ∧
    0 < o.destroyed

theorem Doomed.not_safe (h : s.Doomed) (hs : s.Settled) : ¬ s.Safe := by
  rintro ⟨hfault, -⟩
  rcases h with hf | ⟨k, o, ho, hv, -⟩
  · rw [hf] at hfault
    exact nomatch hfault
  · exact hs o (List.mem_of_getElem? ho) hv

/-- The object that is still to be destroyed is the same after a call that does not touch it. -/
theorem Doomed.of_object {handle : Option ℕ} {view : View} (ho : s.objects[k]? = some o)
    (hv : o.view = .refused) (hd : 0 < o.destroyed)
    (hview : handle = some k → view = .refused) : (s.sees handle view).Doomed := by
  right
  by_cases hh : handle = some k
  · refine ⟨k, { o with view := view }, ?_, hview hh, hd⟩
    rw [getElem?_sees, if_pos hh, ho]
    rfl
  · refine ⟨k, o, ?_, hv, hd⟩
    rw [getElem?_sees, if_neg hh, ho]

theorem Doomed.of_other {h : ℕ} {o' : Object} {handle : Option ℕ} {view : View}
    (ho : s.objects[k]? = some o) (hv : o.view = .refused) (hd : 0 < o.destroyed)
    (hh : handle = some h) (ho' : s.objects[h]? = some o') (hd' : o'.destroyed = 0)
    (hobjects : h ≠ k → s'.objects[k]? = s.objects[k]?) : (s'.sees handle view).Doomed := by
  have hne : h ≠ k := by
    rintro rfl
    rw [Option.some.inj (ho.symm.trans ho')] at hd
    omega
  refine .of_object ((hobjects hne).trans ho) hv hd fun hk => ?_
  exact absurd (Option.some.inj (hh.symm.trans hk)) hne

theorem Doomed.registerSm (hd : s.Doomed) (agent handle : Option ℕ)
    (encoder connector raised : Bool) :
    Doomed ((s.registerSm agent handle encoder connector raised).2.sees handle
      (if (s.registerSm agent handle encoder connector raised).1 = .success then .done
        else .refused)) := by
  have hout := registerOutcome s agent handle encoder connector raised
  generalize s.registerSm agent handle encoder connector raised = out at hout
  rcases hd with hf | ⟨k, o, ho, hv, hpos⟩
  · left
    rw [fault_sees]
    cases hout with
    | rejected _ => exact hf
    | fault _ _ _ => rfl
    | destroyed _ _ _ _ _ hfault _ => rw [hfault, hf]
    | stored _ _ _ _ _ hfault _ => rw [hfault, hf]
  · cases hout with
    | rejected _ => exact .of_object ho hv hpos fun _ => rfl
    | fault _ _ _ => exact .inl (fault_sees _ _ _)
    | destroyed hh ho' hd' _ _ _ hobjects =>
      exact .of_other ho hv hpos hh ho' hd' fun hne => by rw [hobjects, if_neg hne]
    | stored hh ho' hd' _ _ _ hobjects =>
      exact .of_other ho hv hpos hh ho' hd' fun hne => by rw [hobjects, if_neg hne]

theorem doomed_step {c : Call} (hd : s.Doomed) (hs : s.step c = some s') : s'.Doomed := by
  cases c with
  | registerSm agent handle encoder connector raised =>
    obtain rfl := Option.some.inj hs
    exact hd.registerSm agent handle encoder connector raised
  | createFromC desc allocated =>
    obtain rfl := Option.some.inj hs
    rcases desc with _ | sm
    · exact hd
    unfold CApi.createFromC
    cases allocated with
    | false => exact hd
    | true =>
      rcases hd with hf | ⟨k, o, ho, hv, hpos⟩
      · exact .inl hf
      · refine .inr ⟨k, o, ?_, hv, hpos⟩
        have hlt := (List.getElem?_eq_some_iff.mp ho).1
        simp only [if_true]
        rw [List.getElem?_append_left hlt, ho]
  | destroy handle =>
    obtain rfl := Option.some.inj hs
    rcases handle with _ | h
    · exact hd
    rcases hd with hf | ⟨k, o, ho, hv, hpos⟩
    · left
      rw [fault_sees]
      rcases destroy_some_cases s h with heq | heq | heq <;> rw [heq]
      · exact hf
      · exact hf
    · by_cases hk : h = k
      · subst hk
        left
        rw [fault_sees, CApi.destroy]
        simp [ho, hpos]
      · refine .of_object (k := k) (o := o) ?_ hv hpos fun hh => absurd (Option.some.inj hh) hk
        rcases destroy_some_cases s h with heq | heq | heq <;> rw [heq]
        · exact ho
        · exact ho
        · rw [getElem?_delete, if_neg hk, ho]
  | clear =>
    obtain rfl := Option.some.inj hs
    rcases hd with hf | ⟨k, o, ho, hv, hpos⟩
    · exact .inl hf
    · refine .inr ⟨k, if o.inRegistry then
        { o with inRegistry := false, destroyed := o.destroyed + 1 } else o, ?_, ?_, ?_⟩
      · rw [CApi.clear, List.getElem?_map, ho]
        rfl
      · split_ifs
        · exact hv
        · exact hv
      · split_ifs
        · exact Nat.succ_pos _
        · exact hpos

theorem doomed_of_not_keepsObject {c : Call} (hk : ¬ s.KeepsObject c)
    (hs : s.step c = some s') : s'.Doomed := by
  cases c with
  | createFromC desc allocated => exact absurd trivial hk
  | destroy handle => exact absurd trivial hk
  | clear => exact absurd trivial hk
  | registerSm agent handle encoder connector raised =>
    obtain rfl := Option.some.inj hs
    have hout := registerOutcome s agent handle encoder connector raised
    generalize s.registerSm agent handle encoder connector raised = out at hout
    cases hout with
    | rejected hkeeps => exact absurd hkeeps hk
    | stored _ _ _ hkeeps _ _ _ => exact absurd hkeeps hk
    | fault _ _ _ => exact .inl (fault_sees _ _ _)
    | @destroyed h o _ hh ho hd _ hret hfault hobjects =>
      subst hh
      refine .inr ⟨h, { o with transferredToAgent := true, destroyed := 1, view := .refused }, ?_,
        rfl, Nat.one_pos⟩
      rw [getElem?_sees, if_pos rfl, hobjects, if_pos rfl, if_neg hret]
      rfl

theorem meets_keepsObject : ∀ {calls : List Call} {s s' : CApi}, run step s calls = some s' →
    s'.Settled → s'.Safe → Meets step KeepsObject s calls
  | [], _, _, _, _, _ => trivial
  | c :: calls, s, s', hrun, hsettled, hsafe => by
    obtain ⟨u, hu, hr⟩ := run_cons.mp hrun
    refine ⟨?_, fun t ht => ?_⟩
    · by_contra hk
      have hdoomed := inv doomed_step (doomed_of_not_keepsObject hk hu) hr
      exact hdoomed.not_safe hsettled hsafe
    · obtain rfl := Option.some.inj (hu.symm.trans ht)
      exact meets_keepsObject hr hsettled hsafe

/-- With any agents and any registry, a sequence of calls that follows the documented rule to its end
reads no destroyed object and destroys none twice, exactly when each registration in it is turned
down at the first check or accepted. -/
theorem handles_safe_iff {agents : List E3Agent} {registry : SmRegistry} {calls : List Call}
    (hrun : run step (initial agents registry) calls = some s)
    (hfollows : Meets step Follows (initial agents registry) calls) (hsettled : s.Settled) :
    s.Safe ↔ Meets step KeepsObject (initial agents registry) calls := by
  constructor
  · exact meets_keepsObject hrun hsettled
  · intro hkeeps
    refine (inv_of_meets ownedInv_step (ownedInv_initial agents registry) ?_ hrun).safe
    exact hfollows.and hkeeps

/-- A registration is turned down for want of data and its object destroyed; another one succeeds,
and the registry is cleared. -/
theorem handles_safe_turned_down :
    ∃ s, run step (initial [⟨{}, false⟩] .empty) [.createFromC (some model7) true,
        .createFromC (some { model7 with ranFunctionData := [] }) true,
        .registerSm (some 0) (some 1) true true false, .destroy (some 1),
        .registerSm (some 0) (some 0) true true false, .clear] = some s ∧ s.Safe := by
  refine exists_run Settled (by decide +kernel) fun s hrun hsettled => ?_
  refine (handles_safe_iff hrun ?_ hsettled).mpr ?_
  · decide +kernel
  · decide +kernel

/-- Two Service Models for one RAN function: the second registration fails with
SM_ALREADY_REGISTERED, and the destroy that the rule asks for reads a destroyed object. -/
theorem duplicate_read_after_destruction :
    ∃ s, run step (initial [⟨{}, false⟩] .empty) [.createFromC (some model7) true,
        .createFromC (some model7) true, .registerSm (some 0) (some 0) true true false,
        .registerSm (some 0) (some 1) true true false, .destroy (some 1)] = some s ∧
      Meets step Follows (initial [⟨{}, false⟩] .empty) [.createFromC (some model7) true,
        .createFromC (some model7) true, .registerSm (some 0) (some 0) true true false,
        .registerSm (some 0) (some 1) true true false, .destroy (some 1)] ∧
      s.Settled ∧ ¬ s.Safe := by
  exact exists_run (fun s => s.Settled ∧ ¬ s.Safe) (by decide +kernel)
    fun _ _ hs => ⟨by decide +kernel, hs⟩

end CApi

end LibE3
