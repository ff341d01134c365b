import LibE3.DApp
import LibE3.Lib.Partial
import LibE3.Lib.Runs

/-!
# The two directions of the dApp's records

Whatever ends a subscription takes the pair out of both maps, but `record_subscription` writes each
map without looking at the old partner of either half. So the maps stay inverse to each other
exactly as long as no half of a pair is recorded with a new partner while it still has one.
-/

namespace LibE3

open Runs Partial

namespace DAppSubscriptionState

variable {s t : DAppSubscriptionState} {f id : UInt32}

/-- A pair is looked up in either direction. -/
def Paired (s : DAppSubscriptionState) : Prop :=
  Finmap.Inverse s.ranFunctionToSubscriptionId s.subscriptionIdToRanFunction

/-- Only a RAN function that is subscribed to has a deadline. -/
def Timed (s : DAppSubscriptionState) : Prop :=
  ∀ f ∈ s.ranFunctionExpiry, f ∈ s.ranFunctionToSubscriptionId

/-- What the records promise. The two lists are read in any orders the loops may take. -/
structure Consistent (s : DAppSubscriptionState) : Prop where
  paired : s.Paired
  timed : s.Timed
  listed : ∀ ids functions, Visits ids s.subscriptionIdToRanFunction.keys →
    Visits functions s.ranFunctionToSubscriptionId.keys →
    (s.activeSubscriptions ids).Nodup ∧ (s.subscribedRanFunctions functions).Nodup ∧
      (s.activeSubscriptions ids).length = (s.subscribedRanFunctions functions).length

theorem Timed.consistent_iff (h : s.Timed) : s.Consistent ↔ s.Paired := by
  refine ⟨Consistent.paired, fun hp => ⟨hp, h, fun ids functions hids hfunctions => ?_⟩⟩
  refine ⟨hids.nodup, hfunctions.nodup, ?_⟩
  change ids.length = functions.length
  rw [hids.length_eq, hfunctions.length_eq, hp.card_keys]

/-! ## What ends a subscription -/

/-- The records without the subscription `id` to `f`. -/
def forget (s : DAppSubscriptionState) (f id : UInt32) : DAppSubscriptionState :=
  { s with
    ranFunctionToSubscriptionId := s.ranFunctionToSubscriptionId.erase f
    subscriptionIdToRanFunction := s.subscriptionIdToRanFunction.erase id
    ranFunctionExpiry := s.ranFunctionExpiry.erase f }

/-- Nothing changes, or a subscription that is recorded for `f` or under `id` is forgotten. -/
def Forgets (s t : DAppSubscriptionState) : Prop :=
  t = s ∨ ∃ f id, (s.ranFunctionToSubscriptionId.lookup f = some id ∨
    s.subscriptionIdToRanFunction.lookup id = some f) ∧ t = s.forget f id

theorem Forgets.timed (h : s.Forgets t) (hs : s.Timed) : t.Timed := by
  rcases h with rfl | ⟨f, id, -, rfl⟩
  · exact hs
  · intro g hg
    obtain ⟨hne, hmem⟩ := Finmap.mem_erase.mp hg
    exact Finmap.mem_erase.mpr ⟨hne, hs g hmem⟩

theorem Forgets.paired (h : s.Forgets t) (hs : s.Paired) : t.Paired := by
  rcases h with rfl | ⟨f, id, hf | hid, rfl⟩
  · exact hs
  · exact hs.erase hf
  · exact (hs.symm.erase hid).symm

theorem removeSubscriptionByRf_forgets (s : DAppSubscriptionState) (f : UInt32) :
    s.Forgets (s.removeSubscriptionByRf f) := by
  unfold removeSubscriptionByRf
  cases hf : s.ranFunctionToSubscriptionId.lookup f with
  | none => exact .inl rfl
  | some id => exact .inr ⟨f, id, .inl hf, rfl⟩

theorem removeSubscriptionById_forgets (s : DAppSubscriptionState) (id : UInt32) :
    s.Forgets (s.removeSubscriptionById id) := by
  unfold removeSubscriptionById
  cases hid : s.subscriptionIdToRanFunction.lookup id with
  | none => exact .inl rfl
  | some f => exact .inr ⟨f, id, .inr hid, rfl⟩

theorem expireStep_forgets (hs : s.Timed) (now : TimePoint) (f : UInt32) :
    s.Forgets (s.expireStep now f) := by
  unfold expireStep
  cases ht : s.ranFunctionExpiry.lookup f with
  | none => exact .inl rfl
  | some deadline =>
    obtain ⟨id, hid⟩ := Finmap.mem_iff.mp (hs f (Finmap.mem_iff.mpr ⟨deadline, ht⟩))
    simp only [hid]
    split_ifs
    · exact .inl rfl
    · exact .inr ⟨f, id, .inl hid, rfl⟩

theorem expireSubscriptions_kept (now : TimePoint) : ∀ (order : List UInt32)
    {s : DAppSubscriptionState}, s.Timed →
      (s.expireSubscriptions now order).Timed ∧
        (s.Paired → (s.expireSubscriptions now order).Paired)
  | [], _, hs => ⟨hs, id⟩
  | f :: order, s, hs => by
    have hstep := expireStep_forgets hs now f
    obtain ⟨htimed, hpaired⟩ := expireSubscriptions_kept now order (hstep.timed hs)
    exact ⟨htimed, fun hp => hpaired (hstep.paired hp)⟩

/-! ## One call -/

theorem Timed.recordSubscription (hs : s.Timed) (f id : UInt32) (expiresAt : Option TimePoint) :
    (s.recordSubscription f id expiresAt).Timed := by
  intro g hg
  refine Finmap.mem_insert.mpr ?_
  cases expiresAt with
  | none => exact .inr (hs g (Finmap.mem_erase.mp hg).2)
  | some deadline => exact (Finmap.mem_insert.mp hg).imp_right (hs g)

theorem Timed.step {c : Call} (hs : s.Timed) (h : s.step c = some t) : t.Timed := by
  cases c with
  | recordSetupResponse dappId functions =>
    obtain rfl := Option.some.inj h
    exact hs
  | recordSubscription f id expiresAt =>
    obtain rfl := Option.some.inj h
    exact hs.recordSubscription f id expiresAt
  | removeSubscriptionByRf f =>
    obtain rfl := Option.some.inj h
    exact (s.removeSubscriptionByRf_forgets f).timed hs
  | removeSubscriptionById id =>
    obtain rfl := Option.some.inj h
    exact (s.removeSubscriptionById_forgets id).timed hs
  | expireSubscriptions now order =>
    obtain ⟨-, rfl⟩ := of_check h
    exact (expireSubscriptions_kept now order hs).1
  | clearSession =>
    obtain rfl := Option.some.inj h
    exact fun f hf => absurd hf Finmap.notMem_empty

/-- A pair is recorded only if neither half has another partner. -/
def RecordsApart (s : DAppSubscriptionState) : Call → Prop
  | .recordSubscription f id _ =>
    (∀ i ∈ s.ranFunctionToSubscriptionId.lookup f, i = id) ∧
      ∀ g ∈ s.subscriptionIdToRanFunction.lookup id, g = f
  | _ => True

instance (s : DAppSubscriptionState) : (c : Call) → Decidable (s.RecordsApart c)
  -- named, for the one over all identifiers would try each of them
  | .recordSubscription .. =>
    @instDecidableAnd _ _ (Option.decidableForallMem _) (Option.decidableForallMem _)
  | .recordSetupResponse .. | .removeSubscriptionByRf _ | .removeSubscriptionById _
  | .expireSubscriptions .. | .clearSession => isTrue trivial

theorem Paired.step_iff {c : Call} (hp : s.Paired) (hs : s.Timed) (h : s.step c = some t) :
    t.Paired ↔ s.RecordsApart c := by
  cases c with
  | recordSetupResponse dappId functions =>
    obtain rfl := Option.some.inj h
    exact iff_of_true hp trivial
  | recordSubscription f id expiresAt =>
    obtain rfl := Option.some.inj h
    exact hp.insert_iff
  | removeSubscriptionByRf f =>
    obtain rfl := Option.some.inj h
    exact iff_of_true ((s.removeSubscriptionByRf_forgets f).paired hp) trivial
  | removeSubscriptionById id =>
    obtain rfl := Option.some.inj h
    exact iff_of_true ((s.removeSubscriptionById_forgets id).paired hp) trivial
  | expireSubscriptions now order =>
    obtain ⟨-, rfl⟩ := of_check h
    exact iff_of_true ((expireSubscriptions_kept now order hs).2 hp) trivial
  | clearSession =>
    obtain rfl := Option.some.inj h
    exact iff_of_true Finmap.Inverse.empty trivial

theorem Consistent.step_iff {c : Call} (hs : s.Consistent) (h : s.step c = some t) :
    t.Consistent ↔ s.RecordsApart c := by
  rw [(hs.timed.step h).consistent_iff]
  exact hs.paired.step_iff hs.timed h

/-! ## Whole runs -/

theorem timed_fresh : fresh.Timed := fun _ hf => absurd hf Finmap.notMem_empty

theorem consistent_fresh : fresh.Consistent :=
  timed_fresh.consistent_iff.mpr Finmap.Inverse.empty

/-- Whatever the calls, only what is subscribed to has a deadline, and the records are consistent
throughout exactly if no pair is recorded of which a half has another partner. -/
theorem records_consistent_iff {calls : List Call} (h : run step fresh calls = some s) :
    (∀ f ∈ s.ranFunctionExpiry, f ∈ s.ranFunctionToSubscriptionId) ∧
      (Always step Consistent fresh calls ↔ Meets step RecordsApart fresh calls) :=
  ⟨inv (I := Timed) Timed.step timed_fresh h,
    always_iff_meets Consistent.step_iff consistent_fresh h⟩

/-- An identifier that is used again after its subscription has run out. -/
def reused : List Call :=
  [.recordSetupResponse 3 [], .recordSubscription 1 5 (some 10), .recordSubscription 2 6 none,
    .expireSubscriptions 10 [1], .recordSubscription 4 5 none, .removeSubscriptionByRf 2,
    .removeSubscriptionById 5, .clearSession]

theorem reused_consistent :
    Meets step RecordsApart fresh reused ∧ Always step Consistent fresh reused := by
  have hmeets : Meets step RecordsApart fresh reused := by decide
  have hrun : run step fresh reused = some _ := rfl
  exact ⟨hmeets, (records_consistent_iff hrun).2.mpr hmeets⟩

/-- The RAN gives the identifier of one subscription to another RAN function, before the dApp has
forgotten the first. -/
theorem two_functions_under_one_id :
    ∃ s, run step fresh [.recordSubscription 1 5 none, .recordSubscription 2 5 none] = some s ∧
      s.ranFunctionToSubscriptionId.lookup 1 = some 5 ∧
      s.subscriptionIdToRanFunction.lookup 5 = some 2 ∧
      Visits [5] s.subscriptionIdToRanFunction.keys ∧
      Visits [1, 2] s.ranFunctionToSubscriptionId.keys ∧
      (s.activeSubscriptions [5]).length ≠ (s.subscribedRanFunctions [1, 2]).length :=
  ⟨_, rfl, by decide⟩

end DAppSubscriptionState

end LibE3
