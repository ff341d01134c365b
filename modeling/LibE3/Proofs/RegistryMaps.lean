import LibE3.Lib.Runs
import LibE3.Proofs.Advertised

/-!
# The two maps of the registry

`register_sm_factory` looks into both maps before it adds to one, and a lookup moves a RAN function
from one to the other, but `register_sm` does not look at the factories. So the maps stay apart
exactly as long as no Service Model is registered for a RAN function that has a factory.
-/

namespace LibE3

open Runs Partial

namespace SmRegistry

variable {r r' : SmRegistry} {f : UInt32}

/-- No RAN function is in both maps. -/
def Apart (r : SmRegistry) : Prop := ∀ f ∈ r.sms, f ∉ r.factories

/-- What the registry promises: no RAN function is in both maps, there are not too many, and the
list of them is in order. -/
structure Kept (r : SmRegistry) : Prop where
  apart : r.Apart
  bounded : r.sms.keys.card + r.factories.keys.card ≤ maxRanFunctions
  increasing : r.getAvailableRanFunctions.Pairwise (· < ·)

/-! ## The list -/

theorem pairwise_sort_iff (s : Multiset UInt32) :
    (s.sort (· ≤ ·)).Pairwise (· < ·) ↔ s.Nodup := by
  have hnodup : (s.sort (· ≤ ·)).Nodup ↔ s.Nodup := by
    rw [← Multiset.coe_nodup, Multiset.sort_eq]
  rw [← hnodup]
  constructor
  · intro h
    exact h.imp UInt32.ne_of_lt
  · intro h
    exact ((s.pairwise_sort (· ≤ ·)).and h).imp fun hab => UInt32.lt_of_le_of_ne hab.1 hab.2

theorem increasing_iff_apart : r.getAvailableRanFunctions.Pairwise (· < ·) ↔ r.Apart := by
  rw [getAvailableRanFunctions, pairwise_sort_iff, Multiset.nodup_add]
  simp only [Finset.nodup, true_and, Multiset.disjoint_left, Finset.mem_val, Finmap.mem_keys]
  rfl

theorem kept_iff_apart (h : r.size ≤ maxRanFunctions) : r.Kept ↔ r.Apart :=
  ⟨Kept.apart, fun hr => ⟨hr, h, increasing_iff_apart.mpr hr⟩⟩

/-! ## One step -/

theorem use_size_le {u : Use} (h : r.size ≤ maxRanFunctions) (hs : r.use u = some r') :
    r'.size ≤ maxRanFunctions := by
  cases u with
  | event e => exact step_size_le h hs
  | makes f made =>
    obtain ⟨hf, rfl⟩ := of_check hs
    rw [size, Finmap.keys_insert, Finset.insert_eq_of_mem (Finmap.mem_keys.mpr hf)]
    exact h

/-- A Service Model that `register_sm` accepts is for a RAN function without a factory. -/
def RegistersApart (r : SmRegistry) : Use → Prop
  | .event (.registerSm (some sm)) => r.Accepts sm → sm.ranFunctionId ∉ r.factories
  | _ => True

instance (r : SmRegistry) : (u : Use) → Decidable (r.RegistersApart u)
  | .event (.registerSm (some _)) => inferInstanceAs (Decidable (_ → _))
  | .event (.registerSm none) | .event (.registerSmFactory ..) | .event (.unregisterSm _)
  | .event (.getByRanFunction _) | .event (.onSmLifecycleChange _) | .event .clear
  | .event (.becomes ..) | .makes .. => isTrue trivial

theorem Apart.of_mem_iff (h : r.Apart) (hsms : ∀ f, f ∈ r'.sms ↔ f ∈ r.sms)
    (hfactories : ∀ f, f ∈ r'.factories ↔ f ∈ r.factories) : r'.Apart := by
  intro f hf
  rw [hfactories]
  exact h f ((hsms f).mp hf)

theorem Apart.registerSm_iff (h : r.Apart) (sm : ServiceModel) :
    (r.registerSm (some sm)).2.Apart ↔ (r.Accepts sm → sm.ranFunctionId ∉ r.factories) := by
  rw [← registerSm_eq_success]
  rcases r.registerSm_cases (some sm) with ⟨hfails, hsame⟩ | ⟨sm', hsm, -, heq⟩
  · rw [hsame]
    exact iff_of_true h fun hok => absurd hok hfails
  · obtain rfl := Option.some.inj hsm
    rw [heq]
    constructor
    · intro hr _
      exact hr sm.ranFunctionId (Finmap.mem_insert.mpr (.inl rfl))
    · intro hfree f hf
      rcases Finmap.mem_insert.mp hf with rfl | hf
      · exact hfree rfl
      · exact h f hf

theorem Apart.registerSmFactory (h : r.Apart) (f : UInt32)
    (factory : Option (Option ServiceModel)) : (r.registerSmFactory f factory).2.Apart := by
  cases factory with
  | none => exact h
  | some factory =>
    unfold SmRegistry.registerSmFactory
    split_ifs with htaken hfull
    · exact h
    · exact h
    · intro g hg hmem
      rcases Finmap.mem_insert.mp hmem with rfl | hmem
      · exact htaken (.inl hg)
      · exact h g hg hmem

theorem Apart.unregisterSm (h : r.Apart) (f : UInt32) : (r.unregisterSm f).2.Apart := by
  unfold SmRegistry.unregisterSm
  split_ifs
  · intro g hg
    exact h g (Finmap.mem_erase.mp hg).2
  · intro g hg hmem
    exact h g hg (Finmap.mem_erase.mp hmem).2
  · exact h

theorem Apart.getByRanFunction (h : r.Apart) (f : UInt32) : (r.getByRanFunction f).2.Apart := by
  unfold SmRegistry.getByRanFunction
  cases r.sms.lookup f with
  | some sm => exact h
  | none =>
    rcases r.factories.lookup f with _ | _ | sm
    · exact h
    · exact h
    · dsimp only
      split_ifs
      · intro g hg hmem
        obtain ⟨hne, hmem⟩ := Finmap.mem_erase.mp hmem
        rcases Finmap.mem_insert.mp hg with rfl | hg
        · exact hne rfl
        · exact h g hg hmem
      · exact h

theorem mem_insert_of_lookup {sm sm' : ServiceModel} (h : r.sms.lookup f = some sm) (g : UInt32) :
    g ∈ r.sms.insert f sm' ↔ g ∈ r.sms := by
  rw [Finmap.mem_insert, or_iff_right_of_imp]
  rintro rfl
  exact Finmap.mem_of_lookup_eq_some h

theorem Apart.onSmLifecycleChange (h : r.Apart) (change : UInt32 × Bool) :
    (r.onSmLifecycleChange change).Apart := by
  unfold SmRegistry.onSmLifecycleChange startSm stopSm
  cases hl : r.sms.lookup change.1 with
  | none => split_ifs <;> exact h
  | some sm =>
    dsimp only
    split_ifs
    · exact h
    · exact h.of_mem_iff (mem_insert_of_lookup hl) fun _ => Iff.rfl
    · exact h
    · exact h.of_mem_iff (mem_insert_of_lookup hl) fun _ => Iff.rfl

/-- A step keeps the maps apart, unless it registers a Service Model beside a factory. -/
theorem Apart.use_iff {u : Use} (h : r.Apart) (hs : r.use u = some r') :
    r'.Apart ↔ r.RegistersApart u := by
  cases u with
  | makes f made =>
    refine iff_of_true ?_ trivial
    obtain ⟨hf, rfl⟩ := of_check hs
    refine h.of_mem_iff (fun _ => Iff.rfl) fun g => ?_
    rw [Finmap.mem_insert, or_iff_right_of_imp]
    rintro rfl
    exact hf
  | event e =>
    cases e with
    | registerSm sm =>
      obtain rfl := Option.some.inj hs
      cases sm with
      | none => exact iff_of_true h trivial
      | some sm => exact h.registerSm_iff sm
    | registerSmFactory f factory =>
      obtain rfl := Option.some.inj hs
      exact iff_of_true (h.registerSmFactory f factory) trivial
    | unregisterSm f =>
      obtain rfl := Option.some.inj hs
      exact iff_of_true (h.unregisterSm f) trivial
    | getByRanFunction f =>
      obtain rfl := Option.some.inj hs
      exact iff_of_true (h.getByRanFunction f) trivial
    | onSmLifecycleChange change =>
      obtain rfl := Option.some.inj hs
      exact iff_of_true (h.onSmLifecycleChange change) trivial
    | clear =>
      obtain rfl := Option.some.inj hs
      exact iff_of_true (fun f hf => absurd hf Finmap.notMem_empty) trivial
    | becomes f sm =>
      refine iff_of_true ?_ trivial
      change (if f ∈ r.sms then _ else _) = _ at hs
      split_ifs at hs with hf
      obtain rfl := Option.some.inj hs
      obtain ⟨sm', hsm'⟩ := Finmap.mem_iff.mp hf
      exact h.of_mem_iff (mem_insert_of_lookup hsm') fun _ => Iff.rfl

theorem Kept.use_iff {u : Use} (h : r.Kept) (hs : r.use u = some r') :
    r'.Kept ↔ r.RegistersApart u := by
  rw [kept_iff_apart (use_size_le h.bounded hs)]
  exact h.apart.use_iff hs

theorem kept_empty : empty.Kept :=
  (kept_iff_apart (Nat.zero_le _)).mpr fun _ hf => absurd hf Finmap.notMem_empty

/-! ## Any use of a registry -/

/-- In whatever way a registry is used, there are never too many RAN functions in it, and it keeps
its promise in every state exactly if no Service Model is registered for a RAN function that has a
factory. -/
theorem registry_kept_iff {us : List Use} (h : run use empty us = some r) :
    r.sms.keys.card + r.factories.keys.card ≤ maxRanFunctions ∧
      (Always use Kept empty us ↔ Meets use RegistersApart empty us) :=
  ⟨inv use_size_le kept_empty.bounded h, always_iff_meets Kept.use_iff kept_empty h⟩

/-- A factory whose Service Model does not initialize at first, beside a registered one. -/
def lateFactory : List Use :=
  [.event (.registerSmFactory 8 (some (some { model7 with initResult := .genericError }))),
    .event (.registerSm (some model7)),
    .event (.getByRanFunction 8),
    .makes 8 (some model7),
    .event (.getByRanFunction 8)]

theorem late_factory_kept :
    Meets use RegistersApart empty lateFactory ∧ Always use Kept empty lateFactory := by
  have h : Meets use RegistersApart empty lateFactory := by decide
  exact ⟨h, (registry_kept_iff (show run use empty lateFactory = some _ from rfl)).2.mpr h⟩

/-- A Service Model can be registered for a RAN function that has a factory, and then the RAN
function is in the list twice. -/
theorem listed_twice :
    ∃ r, run use empty [.event (.registerSmFactory 7 (some (some model7))),
        .event (.registerSm (some model7))] = some r ∧
      7 ∈ r.sms ∧ 7 ∈ r.factories ∧ r.getAvailableRanFunctions = [7, 7] := by
  refine ⟨_, rfl, by decide, by decide, ?_⟩
  change (([7, 7] : List UInt32) : Multiset UInt32).sort (· ≤ ·) = [7, 7]
  rw [Multiset.coe_sort]
  exact List.mergeSort_eq_self _ (by decide)

end SmRegistry

end LibE3
