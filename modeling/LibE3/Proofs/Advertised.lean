import LibE3.Lib.Partial
import LibE3.Proofs.Decision
import LibE3.Proofs.SetupAnswer

/-!
# What is advertised and what is granted

The RAN function list of a setup response leaves out the Service Models whose values do not fit the
protocol; the check of a subscription request does not. A Service Model can report other values than
those it was registered with, and one that a factory makes was never checked.
-/

namespace LibE3

open SubscriptionManager Runs

namespace SmRegistry

variable {registry registry' : SmRegistry} {f : UInt32} {func : RanFunctionDef}

theorem size_registerSmFactory_le (h : registry.size ≤ maxRanFunctions) (f : UInt32)
    (factory : Option (Option ServiceModel)) :
    (registry.registerSmFactory f factory).2.size ≤ maxRanFunctions := by
  cases factory with
  | none => exact h
  | some factory =>
    unfold registerSmFactory
    simp only
    split_ifs with htaken hfull
    · exact h
    · exact h
    · have hins := Finset.card_insert_le f registry.factories.keys
      simp only [size, Finmap.keys_insert] at hfull ⊢
      omega

theorem size_unregisterSm_le (registry : SmRegistry) (f : UInt32) :
    (registry.unregisterSm f).2.size ≤ registry.size := by
  have hsms := Finset.card_erase_le (s := registry.sms.keys) (a := f)
  have hfactories := Finset.card_erase_le (s := registry.factories.keys) (a := f)
  unfold unregisterSm
  split_ifs
  · simp only [size, Finmap.keys_erase]
    omega
  · simp only [size, Finmap.keys_erase]
    omega
  · exact le_rfl

theorem step_size_le {e : Event} (h : registry.size ≤ maxRanFunctions)
    (hs : registry.step e = some registry') : registry'.size ≤ maxRanFunctions := by
  cases e with
  | registerSm sm =>
    obtain rfl := Option.some.inj hs
    exact size_registerSm_le h sm
  | registerSmFactory f factory =>
    obtain rfl := Option.some.inj hs
    exact size_registerSmFactory_le h f factory
  | unregisterSm f =>
    obtain rfl := Option.some.inj hs
    exact (registry.size_unregisterSm_le f).trans h
  | getByRanFunction f =>
    obtain rfl := Option.some.inj hs
    exact (registry.size_getByRanFunction_le f).trans h
  | onSmLifecycleChange change =>
    obtain rfl := Option.some.inj hs
    exact (registry.size_onSmLifecycleChange change).trans_le h
  | clear =>
    obtain rfl := Option.some.inj hs
    exact Nat.zero_le _
  | becomes f sm =>
    obtain ⟨hf, rfl⟩ := Partial.of_check hs
    obtain ⟨sm', hsm'⟩ := Finmap.mem_iff.mp hf
    simp only [size, card_insert_of_lookup hsm']
    exact h

theorem run_size_le {events : List Event} (h : run step empty events = some registry) :
    registry.size ≤ maxRanFunctions :=
  inv step_size_le (Nat.zero_le _) h

theorem mem_offers : func ∈ registry.offers ↔
    ∃ f, registry.offer f = some func ∧ func.Listable := by
  simp only [offers, listing, List.mem_filterMap, Option.filter_eq_some_iff, decide_eq_true_eq]
  constructor
  · rintro ⟨f, -, hf, hl⟩
    exact ⟨f, hf, hl⟩
  · rintro ⟨f, hf, hl⟩
    exact ⟨f, mem_getAvailableRanFunctions hf, hf, hl⟩

theorem offer_eq_some : registry.offer f = some func ↔ ∃ sm, registry.Serves f sm ∧
    func = ⟨f, sm.telemetryIds, sm.controlIds, sm.ranFunctionData⟩ := by
  unfold offer
  simp only [Option.map_eq_some_iff, getByRanFunction_eq_some]
  exact exists_congr fun sm => and_congr_right fun _ => eq_comm

theorem offer_identifier (h : registry.offer f = some func) : func.ranFunctionIdentifier = f := by
  obtain ⟨sm, -, rfl⟩ := offer_eq_some.mp h
  rfl

end SmRegistry

namespace Ran

open SmRegistry

variable {r : Ran} {request : SubscriptionRequest}

/-- The RAN function and every identifier of the request are in the list. -/
def Advertises (l : List RanFunctionDef) (request : SubscriptionRequest) : Prop :=
  ∃ func ∈ l, func.ranFunctionIdentifier = request.ranFunctionIdentifier ∧
    (∀ id ∈ request.telemetryIdentifierList, id ∈ func.telemetryIdentifierList) ∧
    ∀ id ∈ request.controlIdentifierList, id ∈ func.controlIdentifierList

/-- A positive response is given only to what a setup response would advertise at that moment. -/
def GrantsOnlyAdvertised (r : Ran) (now : TimePoint) (stamp : UInt64)
    (request : SubscriptionRequest) (mid : UInt32) : Prop :=
  ∀ resp, (r.handleSubscriptionRequest now stamp request mid).2.choice =
      .subscriptionResponse resp → resp.responseCode = .positive →
    Advertises (ranFunctionList r.registry).1 request

def OfferListable (r : Ran) (request : SubscriptionRequest) : Prop :=
  ∀ func, r.registry.offer request.ranFunctionIdentifier = some func → func.Listable

/-- A request that is granted names what is advertised exactly when the offer can be listed. -/
theorem Grants.advertises_iff (hg : r.Grants request) (h : r.registry.size ≤ maxRanFunctions) :
    Advertises (ranFunctionList r.registry).1 request ↔ r.OfferListable request := by
  rw [ranFunctionList_eq h]
  constructor
  · rintro ⟨func, hmem, hid, -⟩ func' hoffer
    obtain ⟨f, hf, hl⟩ := mem_offers.mp hmem
    rw [← hid, offer_identifier hf, hf] at hoffer
    exact Option.some.inj hoffer ▸ hl
  · intro hl
    obtain ⟨sm, hs⟩ := hg.served
    have hoffer := offer_eq_some.mpr ⟨sm, hs, rfl⟩
    exact ⟨_, mem_offers.mpr ⟨_, hoffer, hl _ hoffer⟩, rfl, hg.offered sm hs⟩

theorem grantsOnlyAdvertised_iff {T : Table} (h : Represents r.mgr T)
    (hsize : r.registry.size ≤ maxRanFunctions) (now : TimePoint) (stamp : UInt64) (mid : UInt32) :
    r.GrantsOnlyAdvertised now stamp request mid ↔ (r.Grants request → r.OfferListable request) := by
  rcases decideSubscription_cases h now request with ⟨id, hid, hg⟩ | ⟨refusal, href, hfail, -, -⟩
  · have hchoice := handleSubscriptionRequest_granted hid stamp mid
    constructor
    · intro hlaw _
      exact (hg.advertises_iff hsize).mp (hlaw _ hchoice rfl)
    · intro hall resp _ _
      exact (hg.advertises_iff hsize).mpr (hall hg)
  · have hchoice := handleSubscriptionRequest_refused href stamp mid
    refine iff_of_true (fun resp hresp hpos => ?_) fun hg => absurd hg hfail.not_grants
    obtain rfl := PduChoice.subscriptionResponse.inj (hchoice.symm.trans hresp)
    exact nomatch hpos

end Ran

/-- After any history, and with whatever Service Models and factories have been registered and
whatever they report by now, a request is granted only for what is advertised exactly when the
offer of its RAN function can be listed, or the request is not granted. -/
theorem only_advertised_granted_iff {config : E3Config} {labels : List Ran.Label} {r₀ : Ran}
    (hrun : run Ran.step (.initialized config) labels = some r₀)
    {events : List SmRegistry.Event} {registry : SmRegistry}
    (hregistry : run SmRegistry.step .empty events = some registry) (now : TimePoint)
    (stamp : UInt64) (request : SubscriptionRequest) (mid : UInt32) :
    let r := { r₀ with registry := registry }
    r.GrantsOnlyAdvertised now stamp request mid ↔
      (r.Grants request → r.OfferListable request) := by
  intro r
  obtain ⟨T, h⟩ := Ran.run_represents hrun
  have hrep : Represents r.mgr T := h
  exact Ran.grantsOnlyAdvertised_iff hrep (SmRegistry.run_size_le hregistry) now stamp mid

/-- A Service Model that reports what it was registered with. -/
theorem only_advertised_granted_model7 :
    ∃ r, run Ran.step (.initialized {}) [.registerSm (some model7), .start .success .success,
        .setupRequest 0 5] = some r ∧
      Ran.GrantsOnlyAdvertised r 0 0 ⟨1, 7, [1], [], none, none⟩ 6 := by
  refine exists_run (fun r => r.registry =
    ⟨(∅ : UnorderedMap UInt32 ServiceModel).insert 7 model7, ∅⟩) (by decide +kernel)
    fun r hrun hr => ?_
  have hregistry : run SmRegistry.step .empty [.registerSm (some model7)] = some r.registry := by
    rw [hr]
    decide +kernel
  refine (only_advertised_granted_iff hrun hregistry 0 0 _ 6).mpr fun _ func hoffer => ?_
  have h7 : r.registry.offer 7 = some ⟨7, [1], [], [1]⟩ := by
    rw [hr]
    decide +kernel
  obtain rfl := Option.some.inj (h7.symm.trans hoffer)
  decide

/-- A Service Model that was registered with its data and reports none by now: it is not listed, and
a request for it is granted. -/
theorem unlisted_function_granted :
    ∃ r registry, run Ran.step (.initialized {}) [.registerSm (some model7),
        .start .success .success, .setupRequest 0 5] = some r ∧
      run SmRegistry.step .empty [.registerSm (some model7),
        .becomes 7 { model7 with ranFunctionData := [] }] = some registry ∧
      ¬ Ran.GrantsOnlyAdvertised { r with registry := registry } 0 0
        ⟨1, 7, [1], [], none, none⟩ 6 := by
  let registry : SmRegistry :=
    ⟨(∅ : UnorderedMap UInt32 ServiceModel).insert 7 { model7 with ranFunctionData := [] }, ∅⟩
  obtain ⟨r, hrun, hchoice⟩ := Option.map_eq_some_iff.mp (show (run Ran.step (.initialized {})
    [.registerSm (some model7), .start .success .success, .setupRequest 0 5]).map (fun r =>
      (Ran.handleSubscriptionRequest { r with registry := registry } 0 0
        ⟨1, 7, [1], [], none, none⟩ 6).2.choice) =
      some (.subscriptionResponse (grantResponse ⟨1, 7, [1], [], none, none⟩ 6 1)) by
        decide +kernel)
  refine ⟨r, registry, hrun, by decide +kernel, fun hlaw => ?_⟩
  obtain ⟨func, hmem, -⟩ := hlaw _ hchoice rfl
  have hnil : (Ran.ranFunctionList registry).1 = [] := by decide +kernel
  rw [hnil] at hmem
  exact absurd hmem List.not_mem_nil

end LibE3
