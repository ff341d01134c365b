import LibE3.Session

/-!
# What the functions of the dApp do to its records

The records of a dApp are read through the lookups of its maps. The calls of the application leave
them as they are, a response changes them by its effect, and a sweep ends those that have run out.
-/

namespace LibE3

/-! ## The records -/

def recordEffect (s : DAppSubscriptionState) (now : TimePoint) : Effect → DAppSubscriptionState
  | .granted f id time => s.recordSubscription f id (deadline now time)
  | .removed f => s.removeSubscriptionByRf f
  | .nothing => s

theorem applyResponse_eq (s : DAppSubscriptionState) (now : TimePoint)
    (op : Option PendingSubscriptionOp) (resp : SubscriptionResponse) :
    DApp.applyResponse s now op resp = recordEffect s now
      (effect op ⟨resp.requestId, resp.responseCode = .positive, resp.subscriptionId⟩) := by
  cases op with
  | none => rfl
  | some op =>
    by_cases hpos : resp.responseCode = .positive
    · cases hdel : op.isDelete with
      | true => simp [DApp.applyResponse, effect, hpos, hdel, recordEffect]
      | false => cases hid : resp.subscriptionId <;>
          simp [DApp.applyResponse, effect, hpos, hdel, hid, recordEffect, deadline]
    · simp [DApp.applyResponse, effect, hpos, recordEffect]

theorem recordEffect_assigned (s : DAppSubscriptionState) (now : TimePoint) (eff : Effect) :
    (recordEffect s now eff).assignedDappId = s.assignedDappId := by
  cases eff with
  | granted f id time => rfl
  | removed f =>
    simp only [recordEffect, DAppSubscriptionState.removeSubscriptionByRf]
    split <;> rfl
  | nothing => rfl

theorem recordEffect_lookup {x : DAppSubscriptionState} {s : Session}
    (hrec : s.recorded = fun f => x.ranFunctionToSubscriptionId.lookup f)
    (hexp : s.expiry = fun f => x.ranFunctionExpiry.lookup f) (eff : Effect) :
    (s.record eff).recorded =
        (fun f => (recordEffect x s.now eff).ranFunctionToSubscriptionId.lookup f) ∧
      (s.record eff).expiry =
        fun f => (recordEffect x s.now eff).ranFunctionExpiry.lookup f := by
  cases eff with
  | granted f id time =>
    simp only [Session.record, recordEffect, DAppSubscriptionState.recordSubscription, hrec, hexp,
      Finmap.lookup_insert_eq_update, true_and]
    cases deadline s.now time with
    | none => exact (Finmap.lookup_erase_eq_update _ _).symm
    | some t => exact (Finmap.lookup_insert_eq_update _ _ _).symm
  | removed f =>
    simp only [Session.record, recordEffect, DAppSubscriptionState.removeSubscriptionByRf, hrec,
      hexp]
    cases hf : x.ranFunctionToSubscriptionId.lookup f with
    | none => simp [Function.update_eq_self_iff, hf]
    | some id => simp [Finmap.lookup_erase_eq_update]
  | nothing => exact ⟨hrec, hexp⟩

def RanOut (s : DAppSubscriptionState) (now : TimePoint) (f : UInt32) : Prop :=
  ∃ t ∈ s.ranFunctionExpiry.lookup f, t ≤ now

instance (s : DAppSubscriptionState) (now : TimePoint) (f : UInt32) : Decidable (RanOut s now f) :=
  inferInstanceAs (Decidable (∃ t ∈ s.ranFunctionExpiry.lookup f, t ≤ now))

theorem expireStep_of_not_ranOut {s : DAppSubscriptionState} {now : TimePoint} {g : UInt32}
    (h : ¬ RanOut s now g) : s.expireStep now g = s := by
  unfold DAppSubscriptionState.expireStep
  split
  · rfl
  · rename_i t ht
    rw [if_pos]
    by_contra hle
    exact h ⟨t, ht, not_lt.mp hle⟩

theorem expireStep_lookup (now : TimePoint) (s : DAppSubscriptionState) (g f : UInt32) :
    (s.expireStep now g).ranFunctionToSubscriptionId.lookup f =
        (if f = g ∧ RanOut s now f then none else s.ranFunctionToSubscriptionId.lookup f) ∧
      (s.expireStep now g).ranFunctionExpiry.lookup f =
        (if f = g ∧ RanOut s now f then none else s.ranFunctionExpiry.lookup f) := by
  by_cases hout : RanOut s now g
  · obtain ⟨t, ht, hle⟩ := hout
    have hg : RanOut s now g := ⟨t, ht, hle⟩
    simp only [DAppSubscriptionState.expireStep, Option.mem_def.mp ht, not_lt.mpr hle, if_false]
    by_cases hf : f = g
    · subst hf
      cases hid : s.ranFunctionToSubscriptionId.lookup f <;> simp [hg, hid]
    · split <;> simp [hf]
  · have hf : ¬ (f = g ∧ RanOut s now f) := by
      rintro ⟨rfl, hf⟩
      exact hout hf
    rw [expireStep_of_not_ranOut hout, if_neg hf, if_neg hf]
    exact ⟨rfl, rfl⟩

/-- A sweep ends the records that have run out, as far as it visits their RAN functions. -/
theorem expireSubscriptions_lookup (now : TimePoint) (f : UInt32) :
    ∀ (order : List UInt32) (s : DAppSubscriptionState),
      (s.expireSubscriptions now order).ranFunctionToSubscriptionId.lookup f =
          (if f ∈ order ∧ RanOut s now f then none
            else s.ranFunctionToSubscriptionId.lookup f) ∧
        (s.expireSubscriptions now order).ranFunctionExpiry.lookup f =
          (if f ∈ order ∧ RanOut s now f then none else s.ranFunctionExpiry.lookup f)
  | [], s => by simp [DAppSubscriptionState.expireSubscriptions]
  | g :: order, s => by
    have ih := expireSubscriptions_lookup now f order (s.expireStep now g)
    obtain ⟨hrec, hexp⟩ := expireStep_lookup now s g f
    change (DAppSubscriptionState.expireSubscriptions (s.expireStep now g) now
      order).ranFunctionToSubscriptionId.lookup f = _ ∧ (DAppSubscriptionState.expireSubscriptions
        (s.expireStep now g) now order).ranFunctionExpiry.lookup f = _
    rw [ih.1, ih.2, hrec, hexp]
    by_cases hg : f = g ∧ RanOut s now f
    · have hmem : f ∈ g :: order ∧ RanOut s now f := ⟨hg.1 ▸ List.mem_cons_self, hg.2⟩
      simp only [if_pos hg, if_pos hmem, ite_self, and_self]
    · have hout : RanOut (s.expireStep now g) now f ↔ RanOut s now f := by
        unfold RanOut
        rw [hexp, if_neg hg]
      have hmem : f ∈ g :: order ∧ RanOut s now f ↔ f ∈ order ∧ RanOut s now f := by
        rw [List.mem_cons]
        tauto
      simp only [hg, hout, hmem, if_false, and_self]

/-! ## The identifier -/

theorem expireSubscriptions_assigned (now : TimePoint) :
    ∀ (order : List UInt32) (s : DAppSubscriptionState),
      (s.expireSubscriptions now order).assignedDappId = s.assignedDappId
  | [], _ => rfl
  | f :: order, s => by
    have hstep : (s.expireStep now f).assignedDappId = s.assignedDappId := by
      unfold DAppSubscriptionState.expireStep
      split
      · rfl
      · split_ifs
        · rfl
        · split <;> rfl
    exact (expireSubscriptions_assigned now order _).trans hstep

/-! ## Calls -/

/-- What the calls that queue have in common: the state stays as it is, and a PDU that is queued has
a number. -/
structure DApp.Queues (a : DApp) (result : ErrorCode × DApp × Option Pdu) : Prop where
  state : result.2.1.state = a.state
  messageId : ∀ pdu ∈ result.2.2, pdu.messageId ≠ 0

namespace DApp

theorem queues_none {a b : DApp} {code : ErrorCode} (hstate : b.state = a.state) :
    a.Queues (code, b, none) :=
  ⟨hstate, fun _ hpdu => nomatch hpdu⟩

theorem queues_some {a b : DApp} {code : ErrorCode} {pdu : Pdu} (hstate : b.state = a.state)
    (hid : pdu.messageId ≠ 0) : a.Queues (code, b, some pdu) := by
  refine ⟨hstate, fun p hp => ?_⟩
  obtain rfl := Option.some.inj hp
  exact hid

theorem queues_numbered (a : DApp) (stamp : UInt64) (queued : ErrorCode) (type : PduType)
    (choice : PduChoice) : a.Queues (a.queueNumbered stamp queued type choice) := by
  unfold queueNumbered
  simp only
  split_ifs
  · exact queues_none rfl
  · exact queues_some rfl (generateMessageId_ne_zero _)

theorem queues_subscriptionRequest (a : DApp) (stamp : UInt64) (f : UInt32)
    (ts cs : List UInt32) (time period : Option UInt32) (queued : ErrorCode) :
    a.Queues (a.queueSubscriptionRequest stamp f ts cs time period queued) := by
  unfold queueSubscriptionRequest
  split
  · exact queues_none rfl
  · simp only
    split_ifs
    · exact queues_none rfl
    · exact queues_some rfl (generateMessageId_ne_zero _)

theorem queues_subscriptionDelete (a : DApp) (stamp : UInt64) (f : UInt32) (queued : ErrorCode) :
    a.Queues (a.queueSubscriptionDelete stamp f queued) := by
  unfold queueSubscriptionDelete
  split
  · exact queues_none rfl
  · split
    · exact queues_none rfl
    · simp only
      split_ifs
      · exact queues_none rfl
      · exact queues_some rfl (generateMessageId_ne_zero _)

theorem queues_releaseMessage (a : DApp) (stamp : UInt64) (queued : ErrorCode) :
    a.Queues (a.queueReleaseMessage stamp queued) := by
  unfold queueReleaseMessage
  split
  · exact queues_none rfl
  · simp only
    split_ifs
    · exact queues_none rfl
    · exact queues_some rfl (generateMessageId_ne_zero _)

theorem queues_dappControlAction (a : DApp) (stamp : UInt64) (f c : UInt32) (data : Bytes)
    (sequenceId : UInt32) (queued : ErrorCode) :
    a.Queues (a.queueDappControlAction stamp f c data sequenceId queued) := by
  unfold queueDappControlAction
  split
  · exact queues_none rfl
  · exact a.queues_numbered _ _ _ _

theorem queues_dappReport (a : DApp) (stamp : UInt64) (f : UInt32) (data : Bytes)
    (sequenceId : UInt32) (queued : ErrorCode) :
    a.Queues (a.queueDappReport stamp f data sequenceId queued) := by
  unfold queueDappReport
  split_ifs
  · exact queues_none rfl
  · split
    · exact queues_none rfl
    · exact a.queues_numbered _ _ _ _

end DApp

end LibE3
