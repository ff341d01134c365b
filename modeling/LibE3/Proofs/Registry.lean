import LibE3.SmRegistry

/-!
# What the registry does to running Service Models

A lifecycle callback sets whether the Service Model of its RAN function runs, and nothing else,
as long as `start()` succeeds.
-/

namespace LibE3

def model7 : ServiceModel where
  ranFunctionId := 7
  telemetryIds := [1]
  controlIds := []
  ranFunctionData := [1]

namespace SmRegistry

/-- Every registered Service Model starts when asked to. -/
def Startable (r : SmRegistry) : Prop :=
  ∀ f sm, r.sms.lookup f = some sm → sm.startResult = .success

variable {r : SmRegistry} {f : UInt32}

theorem startable_insert {sm : ServiceModel} (h : r.Startable) (hs : sm.startResult = .success) :
    Startable { r with sms := r.sms.insert f sm } := by
  intro g sm' hg
  rw [Finmap.lookup_insert_ite] at hg
  split_ifs at hg with hgf
  · rw [← Option.some.inj hg, hs]
  · exact h g sm' hg

/-- The Service Models that a callback for `f` can leave: those before it, or with the one of `f`
set to run or not. -/
theorem onSmLifecycleChange_cases (h : r.Startable) (b : Bool) :
    (r.onSmLifecycleChange (f, b) = r ∧ (f ∈ r.sms → r.isSmRunning f = b)) ∨
      ∃ sm, r.sms.lookup f = some sm ∧
        r.onSmLifecycleChange (f, b) =
          { r with sms := r.sms.insert f { sm with isRunning := b } } := by
  cases hl : r.sms.lookup f with
  | none =>
    left
    refine ⟨?_, fun hf => absurd hf (Finmap.lookup_eq_none.mp hl)⟩
    cases b <;> simp [onSmLifecycleChange, startSm, stopSm, hl]
  | some sm =>
    have hstart := h f sm hl
    cases b with
    | true =>
      cases hr : sm.isRunning with
      | true =>
        left
        simp [onSmLifecycleChange, startSm, isSmRunning, hl, hr]
      | false =>
        right
        refine ⟨sm, rfl, ?_⟩
        simp [onSmLifecycleChange, startSm, hl, hr, ServiceModel.start, hstart]
    | false =>
      cases hr : sm.isRunning with
      | true =>
        right
        refine ⟨sm, rfl, ?_⟩
        simp [onSmLifecycleChange, stopSm, hl, hr, ServiceModel.stop]
      | false =>
        left
        simp [onSmLifecycleChange, stopSm, isSmRunning, hl, hr]

theorem startable_onSmLifecycleChange (h : r.Startable) (change : UInt32 × Bool) :
    (r.onSmLifecycleChange change).Startable := by
  obtain ⟨f, b⟩ := change
  rcases onSmLifecycleChange_cases h b with ⟨heq, -⟩ | ⟨sm, hl, heq⟩
  · rw [heq]
    exact h
  · rw [heq]
    exact startable_insert h (h f sm hl)

theorem mem_onSmLifecycleChange (h : r.Startable) (change : UInt32 × Bool) (g : UInt32) :
    g ∈ (r.onSmLifecycleChange change).sms ↔ g ∈ r.sms := by
  obtain ⟨f, b⟩ := change
  rcases onSmLifecycleChange_cases h b with ⟨heq, -⟩ | ⟨sm, hl, heq⟩
  · rw [heq]
  · rw [heq, Finmap.mem_insert, or_iff_right_of_imp]
    rintro rfl
    exact Finmap.mem_of_lookup_eq_some hl

theorem isSmRunning_onSmLifecycleChange_self (h : r.Startable) (b : Bool) (hf : f ∈ r.sms) :
    (r.onSmLifecycleChange (f, b)).isSmRunning f = b := by
  rcases onSmLifecycleChange_cases h b with ⟨heq, hb⟩ | ⟨sm, -, heq⟩
  · rw [heq]
    exact hb hf
  · rw [heq, isSmRunning, Finmap.lookup_insert]

theorem isSmRunning_onSmLifecycleChange_of_ne (h : r.Startable) (b : Bool) {g : UInt32}
    (hg : g ≠ f) : (r.onSmLifecycleChange (f, b)).isSmRunning g = r.isSmRunning g := by
  rcases onSmLifecycleChange_cases h b with ⟨heq, -⟩ | ⟨sm, -, heq⟩
  · rw [heq]
  · simp only [heq, isSmRunning, Finmap.lookup_insert_of_ne _ hg]

theorem registerSm_cases (r : SmRegistry) (sm : Option ServiceModel) :
    ((r.registerSm sm).1 ≠ .success ∧ (r.registerSm sm).2 = r) ∨
      ∃ sm', sm = some sm' ∧ sm'.ranFunctionId ∉ r.sms ∧
        r.registerSm sm = (.success, { r with sms := r.sms.insert sm'.ranFunctionId sm' }) := by
  cases sm with
  | none => exact .inl ⟨by simp [registerSm], rfl⟩
  | some sm =>
    unfold registerSm
    simp only
    split_ifs with h₁ h₂ h₃ h₄ h₅
    · exact .inl ⟨by simp, rfl⟩
    · exact .inl ⟨by simp, rfl⟩
    · exact .inl ⟨by simp, rfl⟩
    · exact .inl ⟨by simp, rfl⟩
    · exact .inl ⟨h₅, rfl⟩
    · exact .inr ⟨sm, rfl, h₄, rfl⟩

/-- What `register_sm` asks of a Service Model. -/
def Accepts (r : SmRegistry) (sm : ServiceModel) : Prop :=
  (0 < sm.ranFunctionData.length ∧ sm.ranFunctionData.length ≤ maxProtocolDataSize) ∧
    sm.telemetryIds.length ≤ maxIdentifierListSize ∧
    sm.controlIds.length ≤ maxIdentifierListSize ∧ r.size < maxRanFunctions ∧
    sm.ranFunctionId ∉ r.sms ∧ sm.initResult = .success

instance (r : SmRegistry) (sm : ServiceModel) : Decidable (r.Accepts sm) :=
  inferInstanceAs (Decidable (_ ∧ _))

theorem registerSm_eq_success {sm : ServiceModel} :
    (r.registerSm (some sm)).1 = .success ↔ r.Accepts sm := by
  unfold registerSm Accepts
  simp only
  split_ifs with hdata hlists hfull htaken hinit
  · exact iff_of_false (by simp) (by omega)
  · exact iff_of_false (by simp) (by omega)
  · exact iff_of_false (by simp) (by omega)
  · exact iff_of_false (by simp) fun ⟨_, _, _, _, hfree, _⟩ => hfree htaken
  · exact iff_of_false hinit fun ⟨_, _, _, _, _, hsuccess⟩ => hinit hsuccess
  · exact iff_of_true rfl ⟨by omega, by omega, by omega, by omega, htaken, not_not.mp hinit⟩

theorem card_insert_of_lookup {sm sm' : ServiceModel} (h : r.sms.lookup f = some sm) :
    (r.sms.insert f sm').keys.card = r.sms.keys.card := by
  have hf : f ∈ r.sms.keys := Finmap.mem_keys.mpr (Finmap.mem_of_lookup_eq_some h)
  rw [Finmap.keys_insert, Finset.insert_eq_of_mem hf]

theorem size_onSmLifecycleChange (r : SmRegistry) (change : UInt32 × Bool) :
    (r.onSmLifecycleChange change).size = r.size := by
  unfold onSmLifecycleChange startSm stopSm
  cases h : r.sms.lookup change.1 with
  | none => split_ifs <;> rfl
  | some sm =>
    simp only
    split_ifs <;> simp only [size, card_insert_of_lookup h]

theorem size_getByRanFunction_le (r : SmRegistry) (f : UInt32) :
    (r.getByRanFunction f).2.size ≤ r.size := by
  unfold getByRanFunction
  cases r.sms.lookup f with
  | some sm => exact le_refl _
  | none =>
    rcases hf : r.factories.lookup f with _ | _ | sm
    · exact le_refl _
    · exact le_refl _
    · simp only
      split_ifs
      · -- the factory makes room for the Service Model it made
        have hmem : f ∈ r.factories.keys :=
          Finmap.mem_keys.mpr (Finmap.mem_of_lookup_eq_some hf)
        have hins := Finset.card_insert_le f r.sms.keys
        have hcard := Finset.card_erase_add_one hmem
        rw [size, size, Finmap.keys_insert, Finmap.keys_erase]
        omega
      · exact le_refl _

theorem size_registerSm_le (h : r.size ≤ maxRanFunctions) (sm : Option ServiceModel) :
    (r.registerSm sm).2.size ≤ maxRanFunctions := by
  cases sm with
  | none => exact h
  | some sm =>
    unfold registerSm
    simp only
    split_ifs with h₁ h₂ hfull
    · exact h
    · exact h
    · exact h
    · exact h
    · exact h
    · have hins := Finset.card_insert_le sm.ranFunctionId r.sms.keys
      simp only [size, Finmap.keys_insert] at hfull ⊢
      omega

end SmRegistry

end LibE3
