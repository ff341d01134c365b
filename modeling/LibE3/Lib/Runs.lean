import Mathlib.Data.List.Basic
import Mathlib.Tactic.Common

/-!
# Runs of a labelled machine

A machine is a partial function `step` from a state and a label to a state. A label carries every
choice the step makes, so a run is determined by the list of its labels, and a property of all
interleavings is a property of all lists. `Meets` restricts the runs: each step satisfies a
condition on the state it leaves. `Always` says that a property holds in each state of a run.
-/

namespace Runs

variable {σ ℓ : Type*} (step : σ → ℓ → Option σ)

/-- The state after the labels of a list, if every step is enabled. -/
def run : σ → List ℓ → Option σ
  | s, [] => some s
  | s, a :: as => (step s a).bind fun t => run t as

/-- Each step of the run meets `C`, a condition on the state before the step and its label. -/
def Meets (C : σ → ℓ → Prop) : σ → List ℓ → Prop
  | _, [] => True
  | s, a :: as => C s a ∧ ∀ t ∈ step s a, Meets C t as

/-- Each state of the run, from the first to the last, satisfies `P`. -/
def Always (P : σ → Prop) : σ → List ℓ → Prop
  | s, [] => P s
  | s, a :: as => P s ∧ ∀ t ∈ step s a, Always P t as

instance decidableMeets (C : σ → ℓ → Prop) [∀ s a, Decidable (C s a)] :
    ∀ s as, Decidable (Meets step C s as)
  | _, [] => isTrue trivial
  | s, a :: as =>
    have : Decidable (∀ t ∈ step s a, Meets step C t as) :=
      match h : step s a with
      | none => isTrue fun t ht => by simp at ht
      | some t =>
        match decidableMeets C t as with
        | isTrue ht => isTrue fun u hu => by
          rw [Option.mem_some_iff] at hu
          exact hu ▸ ht
        | isFalse ht => isFalse fun hall => ht (hall t rfl)
    inferInstanceAs (Decidable (_ ∧ _))

variable {step}

theorem run_cons {s t : σ} {a : ℓ} {as : List ℓ} :
    run step s (a :: as) = some t ↔ ∃ u, step s a = some u ∧ run step u as = some t := by
  simp only [run, Option.bind_eq_some_iff]

theorem run_append {t : σ} : ∀ {as bs : List ℓ} {s : σ},
    run step s (as ++ bs) = some t ↔ ∃ u, run step s as = some u ∧ run step u bs = some t
  | [], bs, s => by simp [run]
  | a :: as, bs, s => by
    rw [List.cons_append, run_cons]
    constructor
    · rintro ⟨u, hu, hr⟩
      obtain ⟨v, hv, hw⟩ := run_append.mp hr
      exact ⟨v, run_cons.mpr ⟨u, hu, hv⟩, hw⟩
    · rintro ⟨v, hv, hw⟩
      obtain ⟨u, hu, hr⟩ := run_cons.mp hv
      exact ⟨u, hu, run_append.mpr ⟨v, hr, hw⟩⟩

variable {P : σ → Prop}

theorem exists_run (Q : σ → Prop) [DecidablePred Q] {s : σ} {as : List ℓ}
    (h : (run step s as).any (fun t => decide (Q t)) = true)
    (hP : ∀ t, run step s as = some t → Q t → P t) : ∃ t, run step s as = some t ∧ P t := by
  cases hrun : run step s as with
  | none =>
    rw [hrun] at h
    cases h
  | some t =>
    rw [hrun] at h
    exact ⟨t, rfl, hP t hrun (of_decide_eq_true h)⟩

theorem Meets.and {C D : σ → ℓ → Prop} : ∀ {as : List ℓ} {s : σ}, Meets step C s as →
    Meets step D s as → Meets step (fun s a => C s a ∧ D s a) s as
  | [], _, _, _ => trivial
  | _ :: _, _, hc, hd => ⟨⟨hc.1, hd.1⟩, fun t ht => (hc.2 t ht).and (hd.2 t ht)⟩

variable {C : σ → ℓ → Prop}

theorem Meets.and_of_mem {P : ℓ → Prop} :
    ∀ {as : List ℓ} {s : σ}, Meets step C s as → (∀ a ∈ as, P a) →
      Meets step (fun s a => C s a ∧ P a) s as
  | [], _, _, _ => trivial
  | a :: _, _, hm, hP =>
    ⟨⟨hm.1, hP a List.mem_cons_self⟩, fun t ht =>
      (hm.2 t ht).and_of_mem fun b hb => hP b (List.mem_cons_of_mem a hb)⟩

theorem inv_of_meets {I : σ → Prop} (hstep : ∀ {s t a}, I s → C s a → step s a = some t → I t) :
    ∀ {as : List ℓ} {s t : σ}, I s → Meets step C s as → run step s as = some t → I t
  | [], s, t, hs, _, h => by
    obtain rfl := Option.some.inj h
    exact hs
  | a :: as, s, t, hs, hm, h => by
    obtain ⟨u, hu, hr⟩ := run_cons.mp h
    exact inv_of_meets hstep (hstep hs hm.1 hu) (hm.2 u hu) hr

/-- What one step preserves holds after every run. -/
theorem inv {I : σ → Prop} (hstep : ∀ {s t a}, I s → step s a = some t → I t) :
    ∀ {as : List ℓ} {s t : σ}, I s → run step s as = some t → I t
  | [], s, t, hs, h => by
    obtain rfl := Option.some.inj h
    exact hs
  | a :: as, s, t, hs, h => by
    obtain ⟨u, hu, hr⟩ := run_cons.mp h
    exact inv hstep (hstep hs hu) hr

/-- Every run either meets a condition and keeps what the condition keeps, or ends with the lasting
trace of a step that did not meet it. -/
theorem meets_or_lasting {I B : σ → Prop}
    (hbreak : ∀ {s t a}, I s → ¬ C s a → step s a = some t → B t)
    (hkeep : ∀ {s t a}, I s → C s a → step s a = some t → I t)
    (hlast : ∀ {s t a}, B s → step s a = some t → B t) :
    ∀ {as : List ℓ} {s t : σ}, I s → run step s as = some t → Meets step C s as ∨ B t
  | [], _, _, _, _ => .inl trivial
  | a :: as, s, t, hs, h => by
    obtain ⟨u, hu, hr⟩ := run_cons.mp h
    by_cases hC : C s a
    · rcases meets_or_lasting hbreak hkeep hlast (hkeep hs hC hu) hr with hm | hb
      · refine .inl ⟨hC, fun v hv => ?_⟩
        obtain rfl : u = v := Option.some.inj (hu.symm.trans hv)
        exact hm
      · exact .inr hb
    · exact .inr (inv hlast (hbreak hs hC hu) hr)

theorem Always.head : ∀ {as : List ℓ} {s : σ}, Always step P s as → P s
  | [], _, h => h
  | _ :: _, _, h => h.1

theorem always_iff_forall_append : ∀ {as : List ℓ} {s : σ},
    Always step P s as ↔ ∀ bs cs, as = bs ++ cs → ∀ t ∈ run step s bs, P t
  | [], s => by
    constructor
    · intro h bs cs has t ht
      obtain ⟨rfl, -⟩ := List.append_eq_nil_iff.mp has.symm
      obtain rfl := Option.mem_some_iff.mp ht
      exact h
    · intro h
      exact h [] [] rfl s rfl
  | a :: as, s => by
    constructor
    · rintro ⟨hs, htail⟩ (_ | ⟨b, bs⟩) cs has t ht
      · obtain rfl := Option.mem_some_iff.mp ht
        exact hs
      · obtain ⟨rfl, rfl⟩ := List.cons.inj has
        obtain ⟨u, hu, hr⟩ := run_cons.mp ht
        exact always_iff_forall_append.mp (htail u hu) bs cs rfl t hr
    · intro h
      refine ⟨h [] (a :: as) rfl s rfl, fun u hu => always_iff_forall_append.mpr ?_⟩
      intro bs cs has t ht
      exact h (a :: bs) cs (by rw [has]; rfl) t (run_cons.mpr ⟨u, hu, ht⟩)

/-- If a step keeps `P` exactly when it meets `C`, a run stays in `P` exactly when all its steps
meet `C`. It may be known that every step preserves `I`. -/
theorem always_iff_meets_of_inv {I P : σ → Prop} (hinv : ∀ {s t a}, I s → step s a = some t → I t)
    (hstep : ∀ {s t a}, I s → P s → step s a = some t → (P t ↔ C s a)) :
    ∀ {as : List ℓ} {s t : σ}, I s → P s → run step s as = some t →
      (Always step P s as ↔ Meets step C s as)
  | [], s, _, _, hs, _ => iff_of_true hs trivial
  | a :: as, s, t, hI, hs, h => by
    obtain ⟨u, hu, hr⟩ := run_cons.mp h
    have hP := hstep hI hs hu
    have hIu := hinv hI hu
    have honly : ∀ v ∈ step s a, v = u := fun v hv => Option.some.inj (hv.symm.trans hu)
    constructor
    · rintro ⟨-, htail⟩
      have hu' := htail u hu
      refine ⟨hP.mp hu'.head, fun v hv => ?_⟩
      rw [honly v hv]
      exact (always_iff_meets_of_inv hinv hstep hIu hu'.head hr).mp hu'
    · rintro ⟨hC, htail⟩
      refine ⟨hs, fun v hv => ?_⟩
      rw [honly v hv]
      exact (always_iff_meets_of_inv hinv hstep hIu (hP.mpr hC) hr).mpr (htail u hu)

theorem always_iff_meets (hstep : ∀ {s t a}, P s → step s a = some t → (P t ↔ C s a)) {as : List ℓ}
    {s t : σ} :
    P s → run step s as = some t → (Always step P s as ↔ Meets step C s as) :=
  always_iff_meets_of_inv (fun {_ _ _} _ _ => trivial) (fun {_ _ _} _ => hstep) trivial

/-- What one step with a label of a kind preserves holds after every run of such steps. -/
theorem inv_of_mem {I : σ → Prop} {P : ℓ → Prop}
    (hstep : ∀ {s t a}, I s → P a → step s a = some t → I t) :
    ∀ {as : List ℓ} {s t : σ}, I s → (∀ a ∈ as, P a) → run step s as = some t → I t
  | [], s, t, hs, _, h => by
    obtain rfl := Option.some.inj h
    exact hs
  | a :: as, s, t, hs, hP, h => by
    obtain ⟨u, hu, hr⟩ := run_cons.mp h
    exact inv_of_mem hstep (hstep hs (hP a List.mem_cons_self) hu)
      (fun b hb => hP b (List.mem_cons_of_mem a hb)) hr

/-- Some run leads from one state to the other. -/
def Reaches (step : σ → ℓ → Option σ) (s t : σ) : Prop := ∃ as, run step s as = some t

theorem Reaches.refl (s : σ) : Reaches step s s := ⟨[], rfl⟩

theorem Reaches.trans {s t u : σ} : Reaches step s t → Reaches step t u → Reaches step s u := by
  rintro ⟨as, has⟩ ⟨bs, hbs⟩
  exact ⟨as ++ bs, run_append.mpr ⟨t, has, hbs⟩⟩

theorem Reaches.single {s t : σ} {a : ℓ} (h : step s a = some t) : Reaches step s t :=
  ⟨[a], run_cons.mpr ⟨t, h, rfl⟩⟩

end Runs
