import LibE3.Proofs.DAppSpec
import LibE3.Proofs.MessageIds

/-!
# Which request a response belongs to

A dApp remembers each request under its message identifier until the first response that names it.
As long as the identifiers do not wrap, what it remembers is what it has sent and has not seen
answered, so each change of its records has one cause. The RAN may give one subscription identifier
to two RAN functions, though, and then a change for one of them reaches into the records of the
other.
-/

namespace LibE3

namespace DApp

/-! ## Calls and responses -/

/-- A call of the application, with what the outbound queue says, or a response that arrives. -/
inductive Event
  | subscribe (stamp : UInt64) (ranFunctionId : UInt32) (telemetryIds controlIds : List UInt32)
    (subTime periodicity : Option UInt32) (queued : ErrorCode)
  | unsubscribe (stamp : UInt64) (ranFunctionId : UInt32) (queued : ErrorCode)
  | response (now : TimePoint) (resp : SubscriptionResponse)

def Event.request : Event → Option PendingSubscriptionOp
  | .subscribe _ f _ _ time _ _ => some ⟨f, false, time⟩
  | .unsubscribe _ f _ => some ⟨f, true, none⟩
  | .response .. => none

/-- The dApp after an event, and the request it has sent. -/
def call (a : DApp) : Event → DApp × Option Pdu
  | .subscribe stamp f telemetryIds controlIds time period queued =>
    (a.queueSubscriptionRequest stamp f telemetryIds controlIds time period queued).2
  | .unsubscribe stamp f queued => (a.queueSubscriptionDelete stamp f queued).2
  | .response now resp => ((a.handleSubscriptionResponse now resp).1, none)

section History

variable (a : DApp) (es : List Event)

def stateAt : ℕ → DApp
  | 0 => a
  | k + 1 =>
    match es[k]? with
    | some e => ((stateAt k).call e).1
    | none => stateAt k

def sentAt (k : ℕ) : Option Pdu := es[k]?.bind fun e => ((stateAt a es k).call e).2

/-- The response of step `k` is for this dApp and names the request `mid`. -/
def AnsweredAt (k : ℕ) (mid : UInt32) : Prop :=
  ∃ now resp, es[k]? = some (.response now resp) ∧
    (stateAt a es k).isForUs resp.dappIdentifier ∧ resp.requestId = mid

/-- Step `j` brings the first response to the request of step `i`, and it is positive. -/
structure Answers (i j : ℕ) (pdu : Pdu) (now : TimePoint) (resp : SubscriptionResponse) :
    Prop where
  earlier : i < j
  sent : sentAt a es i = some pdu
  received : es[j]? = some (.response now resp)
  forUs : (stateAt a es j).isForUs resp.dappIdentifier
  named : resp.requestId = pdu.messageId
  positive : resp.responseCode = .positive
  first : ∀ k, i < k → k < j → ¬ AnsweredAt a es k pdu.messageId

/-- The request of step `i` is granted in step `j`. -/
def Caused (i j : ℕ) : Prop := ∃ pdu now resp, Answers a es i j pdu now resp

/-- Step `k` takes a new message identifier. -/
def Draws (k : ℕ) : Prop := (stateAt a es (k + 1)).nextMessageId ≠ (stateAt a es k).nextMessageId

instance (k : ℕ) : Decidable (Draws a es k) := inferInstanceAs (Decidable (_ ≠ _))

/-- The number of message identifiers taken before step `k`. -/
def drawn : ℕ → ℕ
  | 0 => 0
  | k + 1 => drawn k + if Draws a es k then 1 else 0

/-- The message identifiers do not wrap before the end of the sequence. -/
structure NoWrap : Prop where
  counter : a.nextMessageId.toNat + drawn a es es.length ≤ 4294967296
  window : drawn a es es.length ≤ 4294967295

end History

/-- A session in which nothing has been asked for yet. -/
structure SessionStart (a : DApp) : Prop where
  pending : a.pendingSubscriptions = ∅
  recorded : a.state.ranFunctionToSubscriptionId = ∅

variable {a : DApp} {es : List Event} {e : Event} {op : PendingSubscriptionOp} {i j k : ℕ}
  {mid : UInt32}

/-! ## One event -/

theorem call_cases (h : e.request = some op) :
    a.call e = (a, none) ∨
      (a.call e).1.nextMessageId = (generateMessageId a.nextMessageId).2 ∧
      (a.call e).1.state = a.state ∧
      ((a.call e).2 = none ∧ (a.call e).1.pendingSubscriptions =
          (a.pendingSubscriptions.insert (generateMessageId a.nextMessageId).1 op).erase
            (generateMessageId a.nextMessageId).1 ∨
        ∃ pdu, (a.call e).2 = some pdu ∧ pdu.messageId = (generateMessageId a.nextMessageId).1 ∧
          (a.call e).1.pendingSubscriptions =
            a.pendingSubscriptions.insert (generateMessageId a.nextMessageId).1 op) := by
  cases e with
  | subscribe stamp f ts cs time period queued =>
    obtain rfl := Option.some.inj h
    simp only [call, queueSubscriptionRequest]
    cases a.state.assignedDappId with
    | none => exact .inl rfl
    | some id =>
      refine .inr ?_
      by_cases hq : queued = .success
      · simp [hq]
      · simp [hq]
  | unsubscribe stamp f queued =>
    obtain rfl := Option.some.inj h
    simp only [call, queueSubscriptionDelete]
    cases a.state.assignedDappId with
    | none => exact .inl rfl
    | some id =>
      cases a.state.subscriptionIdFor f with
      | none => exact .inl rfl
      | some subId =>
        refine .inr ?_
        by_cases hq : queued = .success
        · simp [hq]
        · simp [hq]
  | response now resp => cases h

theorem call_state (h : e.request = some op) : (a.call e).1.state = a.state := by
  rcases call_cases h with hsame | ⟨-, hstate, -⟩
  · rw [hsame]
  · exact hstate

theorem call_nextMessageId (a : DApp) (e : Event) :
    (a.call e).1.nextMessageId = a.nextMessageId ∨
      (a.call e).1.nextMessageId = (generateMessageId a.nextMessageId).2 := by
  cases hreq : e.request with
  | some op =>
    rcases call_cases (a := a) hreq with hsame | ⟨hnext, -⟩
    · rw [hsame]
      exact .inl rfl
    · exact .inr hnext
  | none =>
    cases e with
    | response now resp =>
      simp only [call, handleSubscriptionResponse]
      split_ifs <;> exact .inl rfl
    | subscribe | unsubscribe => cases hreq

theorem generateMessageId_next_ne (n : UInt32) : (generateMessageId n).2 ≠ n := by
  simp [generateMessageId]

/-! ## The identifiers of the requests -/

theorem stateAt_succ (h : es[k]? = some e) :
    stateAt a es (k + 1) = ((stateAt a es k).call e).1 := by
  simp only [stateAt, h]

theorem lt_length_of_draws (h : Draws a es k) : k < es.length := by
  by_contra hk
  refine h ?_
  simp only [stateAt, List.getElem?_eq_none (not_lt.mp hk)]

theorem drawn_mono (a : DApp) (es : List Event) (h : i ≤ j) : drawn a es i ≤ drawn a es j := by
  induction j, h using Nat.le_induction with
  | base => exact le_rfl
  | succ j _ ih => exact ih.trans (Nat.le_add_right _ _)

theorem drawn_succ (h : Draws a es k) : drawn a es (k + 1) = drawn a es k + 1 := by
  simp only [drawn, if_pos h]

theorem nextMessageId_stateAt (a : DApp) (es : List Event) :
    ∀ k, (stateAt a es k).nextMessageId = counterAfter a.nextMessageId (drawn a es k)
  | 0 => rfl
  | k + 1 => by
    have ih := nextMessageId_stateAt a es k
    by_cases hdraws : Draws a es k
    · rw [drawn_succ hdraws, counterAfter, ← ih]
      have hk := lt_length_of_draws hdraws
      have hstep := stateAt_succ (a := a) (List.getElem?_eq_getElem hk)
      rcases call_nextMessageId (stateAt a es k) es[k] with hsame | hnext
      · exact absurd ((congrArg nextMessageId hstep).trans hsame) hdraws
      · rw [hstep, hnext]
    · simp only [drawn, if_neg hdraws, Nat.add_zero]
      rw [← ih]
      exact not_not.mp hdraws

theorem messageId_ne (hwrap : NoWrap a es) (hi : Draws a es i) (hj : Draws a es j) (hij : i < j) :
    (generateMessageId (stateAt a es i).nextMessageId).1 ≠
      (generateMessageId (stateAt a es j).nextMessageId).1 := by
  rw [nextMessageId_stateAt, nextMessageId_stateAt]
  have hend := drawn_mono a es (lt_length_of_draws hj)
  have hmid := drawn_mono a es hij
  rw [Nat.succ_eq_add_one, drawn_succ hj] at hend
  rw [Nat.succ_eq_add_one, drawn_succ hi] at hmid
  exact messageIdAfter_ne hwrap.counter hwrap.window hmid hend

theorem sentAt_spec {pdu : Pdu} (h : sentAt a es k = some pdu) :
    ∃ op, es[k]?.bind Event.request = some op ∧ Draws a es k ∧
      pdu.messageId = (generateMessageId (stateAt a es k).nextMessageId).1 ∧
      (stateAt a es (k + 1)).pendingSubscriptions.lookup pdu.messageId = some op := by
  obtain ⟨e, he, hsent⟩ := Option.bind_eq_some_iff.mp h
  cases hreq : e.request with
  | none =>
    cases e with
    | response now resp => cases hsent
    | subscribe | unsubscribe => cases hreq
  | some op =>
    refine ⟨op, by rw [he]; exact hreq, ?_⟩
    rcases call_cases (a := stateAt a es k) hreq with
      hsame | ⟨hnext, -, ⟨hnone, -⟩ | ⟨pdu', hpdu, hmid, hpending⟩⟩
    · rw [hsame] at hsent
      cases hsent
    · rw [hnone] at hsent
      cases hsent
    · obtain rfl := Option.some.inj (hpdu.symm.trans hsent)
      have hdraws : Draws a es k := by
        rw [Draws, stateAt_succ he, hnext]
        exact generateMessageId_next_ne _
      refine ⟨hdraws, hmid, ?_⟩
      rw [stateAt_succ he, hpending, hmid]
      exact Finmap.lookup_insert _

/-! ## What the dApp remembers -/

/-- What a step does to what is remembered under an identifier: nothing, unless it brings an answer
to it or is a request that takes this identifier. -/
theorem pending_succ (a : DApp) (es : List Event) (k : ℕ) (mid : UInt32) :
    (stateAt a es (k + 1)).pendingSubscriptions.lookup mid =
        (stateAt a es k).pendingSubscriptions.lookup mid ∧ ¬ AnsweredAt a es k mid ∨
      AnsweredAt a es k mid ∧ (stateAt a es (k + 1)).pendingSubscriptions.lookup mid = none ∨
      Draws a es k ∧ mid = (generateMessageId (stateAt a es k).nextMessageId).1 ∧
        ((stateAt a es (k + 1)).pendingSubscriptions.lookup mid = none ∨
          ∃ pdu op, sentAt a es k = some pdu ∧ pdu.messageId = mid ∧
            es[k]?.bind Event.request = some op ∧
            (stateAt a es (k + 1)).pendingSubscriptions.lookup mid = some op) := by
  cases he : es[k]? with
  | none =>
    refine .inl ⟨by simp only [stateAt, he], ?_⟩
    rintro ⟨now, resp, hresp, -⟩
    rw [he] at hresp
    cases hresp
  | some e =>
    rw [stateAt_succ he]
    cases hreq : e.request with
    | some op =>
      have hunanswered : ¬ AnsweredAt a es k mid := by
        rintro ⟨now, resp, hresp, -⟩
        obtain rfl := Option.some.inj (he.symm.trans hresp)
        cases hreq
      rcases call_cases (a := stateAt a es k) hreq with hsame | ⟨hnext, -, hpend⟩
      · rw [hsame]
        exact .inl ⟨rfl, hunanswered⟩
      · have hdraws : Draws a es k := by
          rw [Draws, stateAt_succ he, hnext]
          exact generateMessageId_next_ne _
        by_cases hm : mid = (generateMessageId (stateAt a es k).nextMessageId).1
        · refine .inr (.inr ⟨hdraws, hm, ?_⟩)
          rcases hpend with ⟨-, hpend⟩ | ⟨pdu, hpdu, hmid, hpend⟩
          · rw [hpend, Finmap.lookup_erase_ite, if_pos hm]
            exact .inl rfl
          · rw [hpend, Finmap.lookup_insert_ite, if_pos hm]
            refine .inr ⟨pdu, op, ?_, hmid.trans hm.symm, hreq, rfl⟩
            rw [sentAt, he]
            exact hpdu
        · refine .inl ⟨?_, hunanswered⟩
          rcases hpend with ⟨-, hpend⟩ | ⟨-, -, -, hpend⟩
          · rw [hpend, Finmap.lookup_erase_ite, if_neg hm, Finmap.lookup_insert_ite, if_neg hm]
          · rw [hpend, Finmap.lookup_insert_ite, if_neg hm]
    | none =>
      cases e with
      | subscribe | unsubscribe => cases hreq
      | response now resp =>
        have hanswered : AnsweredAt a es k mid ↔
            (stateAt a es k).isForUs resp.dappIdentifier ∧ resp.requestId = mid := by
          simp [AnsweredAt, he]
        simp only [hanswered, call, handleSubscriptionResponse]
        cases hus : (stateAt a es k).isForUs resp.dappIdentifier with
        | false => exact .inl (by simp)
        | true =>
          by_cases hm : resp.requestId = mid
          · exact .inr (.inl (by simp [hm]))
          · exact .inl (by simp [hm, Ne.symm hm])

theorem pending_sent (hstart : SessionStart a) : ∀ k,
    (stateAt a es k).pendingSubscriptions.lookup mid = some op →
    ∃ i pdu, i < k ∧ es[i]?.bind Event.request = some op ∧ sentAt a es i = some pdu ∧
      pdu.messageId = mid ∧ ∀ j, i < j → j < k → ¬ AnsweredAt a es j mid
  | 0, h => by
    change a.pendingSubscriptions.lookup mid = some op at h
    rw [hstart.pending] at h
    cases h
  | k + 1, h => by
    rcases pending_succ a es k mid with
      ⟨hsame, hunanswered⟩ | ⟨-, hnone⟩ | ⟨-, -, hnone | ⟨pdu, op', hsent, hmid, hreq, hnew⟩⟩
    · rw [hsame] at h
      obtain ⟨i, pdu, hi, hop, hsent, hmid, hfirst⟩ := pending_sent hstart k h
      refine ⟨i, pdu, by omega, hop, hsent, hmid, fun j hij hj => ?_⟩
      rcases Nat.lt_succ_iff_lt_or_eq.mp hj with hj | rfl
      · exact hfirst j hij hj
      · exact hunanswered
    · rw [hnone] at h
      cases h
    · rw [hnone] at h
      cases h
    · obtain rfl := Option.some.inj (hnew.symm.trans h)
      exact ⟨k, pdu, by omega, hreq, hsent, hmid, by omega⟩

theorem sent_pending (hwrap : NoWrap a es) {pdu : Pdu} (hsent : sentAt a es i = some pdu)
    (hop : es[i]?.bind Event.request = some op) (hij : i < j)
    (hfirst : ∀ k, i < k → k < j → ¬ AnsweredAt a es k pdu.messageId) :
    (stateAt a es j).pendingSubscriptions.lookup pdu.messageId = some op := by
  obtain ⟨op', hop', hdraws, hmid, hpending⟩ := sentAt_spec hsent
  obtain rfl := Option.some.inj (hop.symm.trans hop')
  induction j, Nat.succ_le_iff.mpr hij using Nat.le_induction with
  | base => exact hpending
  | succ k hik ih =>
    rcases pending_succ a es k pdu.messageId with
      ⟨hsame, -⟩ | ⟨hanswered, -⟩ | ⟨hother, hm, -⟩
    · rw [hsame]
      exact ih hik fun m him hmk => hfirst m him (by omega)
    · exact absurd hanswered (hfirst k hik (by omega))
    · exact absurd (hmid.symm.trans hm) (messageId_ne hwrap hdraws hother hik)

/-! ## What a response changes -/

/-- What is recorded of other RAN functions, in the direction that is looked up by RAN function. -/
structure ChangesOnly (s t : DAppSubscriptionState) (f : UInt32) : Prop where
  assigned : t.assignedDappId = s.assignedDappId
  functions : t.remoteRanFunctions = s.remoteRanFunctions
  recorded : ∀ g ≠ f,
    t.ranFunctionToSubscriptionId.lookup g = s.ranFunctionToSubscriptionId.lookup g
  expiry : ∀ g ≠ f, t.ranFunctionExpiry.lookup g = s.ranFunctionExpiry.lookup g

/-- The subscription identifiers recorded for other RAN functions stay as they are. -/
def KeepsOthers (s t : DAppSubscriptionState) (f : UInt32) : Prop :=
  ∀ g ≠ f, ∀ id, t.subscriptionIdToRanFunction.lookup id = some g ↔
    s.subscriptionIdToRanFunction.lookup id = some g

section Records

variable {s : DAppSubscriptionState} {f id : UInt32} {now : TimePoint}
  {resp : SubscriptionResponse} {pending : Option PendingSubscriptionOp}

theorem changesOnly_record (s : DAppSubscriptionState) (f id : UInt32) (t : Option TimePoint) :
    ChangesOnly s (s.recordSubscription f id t) f where
  assigned := rfl
  functions := rfl
  recorded g hg := by
    simp only [DAppSubscriptionState.recordSubscription, Finmap.lookup_insert_ite, if_neg hg]
  expiry g hg := by
    cases t with
    | none =>
      simp only [DAppSubscriptionState.recordSubscription, Finmap.lookup_erase_ite, if_neg hg]
    | some t =>
      simp only [DAppSubscriptionState.recordSubscription, Finmap.lookup_insert_ite, if_neg hg]

theorem changesOnly_remove (s : DAppSubscriptionState) (f : UInt32) :
    ChangesOnly s (s.removeSubscriptionByRf f) f := by
  unfold DAppSubscriptionState.removeSubscriptionByRf
  cases s.ranFunctionToSubscriptionId.lookup f with
  | none => exact ⟨rfl, rfl, fun _ _ => rfl, fun _ _ => rfl⟩
  | some id =>
    refine ⟨rfl, rfl, fun g hg => ?_, fun g hg => ?_⟩
    · simp only [Finmap.lookup_erase_ite, if_neg hg]
    · simp only [Finmap.lookup_erase_ite, if_neg hg]

theorem subscriptionIdFor_record (s : DAppSubscriptionState) (f id : UInt32)
    (t : Option TimePoint) : (s.recordSubscription f id t).subscriptionIdFor f = some id :=
  Finmap.lookup_insert _

theorem subscriptionIdFor_remove (s : DAppSubscriptionState) (f : UInt32) :
    (s.removeSubscriptionByRf f).subscriptionIdFor f = none := by
  unfold DAppSubscriptionState.removeSubscriptionByRf
  cases hf : s.ranFunctionToSubscriptionId.lookup f with
  | none => exact hf
  | some id => exact Finmap.lookup_erase f _

/-- A grant leaves the other RAN functions their identifiers exactly if it brings one that none of
them has. -/
theorem keepsOthers_record_iff (s : DAppSubscriptionState) (f id : UInt32) (t : Option TimePoint) :
    KeepsOthers s (s.recordSubscription f id t) f ↔
      ∀ g ∈ s.subscriptionIdToRanFunction.lookup id, g = f := by
  simp only [KeepsOthers, DAppSubscriptionState.recordSubscription, Finmap.lookup_insert_ite]
  constructor
  · intro hkeeps g hg
    by_contra hne
    have hid := (hkeeps g hne id).mpr hg
    rw [if_pos rfl] at hid
    exact hne (Option.some.inj hid).symm
  · intro hfree g hg i
    split_ifs with hi
    · subst hi
      exact iff_of_false (fun hf => hg (Option.some.inj hf).symm) fun hi => hg (hfree g hi)
    · exact Iff.rfl

/-- The identifier recorded for a RAN function leads back to it. -/
def LeadsBack (s : DAppSubscriptionState) : Prop :=
  ∀ f id, s.ranFunctionToSubscriptionId.lookup f = some id →
    s.subscriptionIdToRanFunction.lookup id = some f

theorem LeadsBack.record (hs : LeadsBack s) (t : Option TimePoint)
    (hfree : ∀ g ∈ s.subscriptionIdToRanFunction.lookup id, g = f) :
    LeadsBack (s.recordSubscription f id t) := by
  intro g i hg
  simp only [DAppSubscriptionState.recordSubscription, Finmap.lookup_insert_ite] at hg ⊢
  by_cases hgf : g = f
  · rw [if_pos hgf] at hg
    rw [if_pos (Option.some.inj hg).symm, hgf]
  · rw [if_neg hgf] at hg
    have hback := hs g i hg
    have hi : i ≠ id := by
      rintro rfl
      exact hgf (hfree g hback)
    rw [if_neg hi]
    exact hback

theorem LeadsBack.remove (hs : LeadsBack s) (f : UInt32) :
    LeadsBack (s.removeSubscriptionByRf f) ∧ KeepsOthers s (s.removeSubscriptionByRf f) f := by
  unfold DAppSubscriptionState.removeSubscriptionByRf
  cases hf : s.ranFunctionToSubscriptionId.lookup f with
  | none => exact ⟨hs, fun _ _ _ => Iff.rfl⟩
  | some id =>
    have hid := hs f id hf
    constructor
    · intro g i hg
      simp only [Finmap.lookup_erase_ite] at hg ⊢
      split_ifs at hg with hgf
      have hback := hs g i hg
      have hi : i ≠ id := by
        rintro rfl
        exact hgf (Option.some.inj (hback.symm.trans hid))
      rw [if_neg hi]
      exact hback
    · intro g hg i
      simp only [Finmap.lookup_erase_ite]
      split_ifs with hi
      · subst hi
        exact iff_of_false nofun fun hi => hg (Option.some.inj (hi.symm.trans hid))
      · exact Iff.rfl

theorem applyResponse_cases (s : DAppSubscriptionState) (now : TimePoint)
    (pending : Option PendingSubscriptionOp) (resp : SubscriptionResponse) :
    applyResponse s now pending resp = s ∨
      ∃ op, pending = some op ∧ resp.responseCode = .positive ∧
        (op.isDelete = true ∧
            applyResponse s now pending resp = s.removeSubscriptionByRf op.ranFunctionId ∨
          op.isDelete = false ∧ ∃ id t, resp.subscriptionId = some id ∧
            applyResponse s now pending resp = s.recordSubscription op.ranFunctionId id t) := by
  cases pending with
  | none => exact .inl rfl
  | some op =>
    by_cases hpos : resp.responseCode = .positive
    · cases hdel : op.isDelete with
      | true => exact .inr ⟨op, rfl, hpos, .inl ⟨hdel, by simp [applyResponse, hpos, hdel]⟩⟩
      | false =>
        cases hid : resp.subscriptionId with
        | none => exact .inl (by simp [applyResponse, hpos, hdel, hid])
        | some id =>
          refine .inr ⟨op, rfl, hpos, .inr ⟨hdel, id, deadline now (op.subscriptionTimeS.getD 0),
            rfl, ?_⟩⟩
          simp [applyResponse, hpos, hdel, hid, deadline]
    · exact .inl (by simp [applyResponse, hpos])

end Records

/-! ## Each change has one cause -/

/-- The records change in step `j`. -/
def ChangesAt (a : DApp) (es : List Event) (j : ℕ) : Prop :=
  (stateAt a es (j + 1)).state ≠ (stateAt a es j).state

/-- The identifiers that are granted are not recorded for another RAN function. -/
def GrantsApart (a : DApp) (es : List Event) : Prop :=
  ∀ i j pdu now resp, Answers a es i j pdu now resp →
    ∀ op, es[i]?.bind Event.request = some op → op.isDelete = false →
    ∀ id, resp.subscriptionId = some id →
    ∀ g ∈ (stateAt a es j).state.subscriptionIdToRanFunction.lookup id, g = op.ranFunctionId

/-- A step that brings no response to a remembered request leaves the records as they are. -/
theorem state_succ (a : DApp) (es : List Event) (j : ℕ) :
    (stateAt a es (j + 1)).state = (stateAt a es j).state ∨
      ∃ now resp, es[j]? = some (.response now resp) ∧
        (stateAt a es j).isForUs resp.dappIdentifier ∧
        (stateAt a es (j + 1)).state = applyResponse (stateAt a es j).state now
          ((stateAt a es j).pendingSubscriptions.lookup resp.requestId) resp := by
  cases he : es[j]? with
  | none =>
    simp only [stateAt, he]
    exact .inl trivial
  | some e =>
    rw [stateAt_succ he]
    cases hreq : e.request with
    | some op => exact .inl (call_state hreq)
    | none =>
      cases e with
      | subscribe | unsubscribe => cases hreq
      | response now resp =>
        simp only [call, handleSubscriptionResponse]
        split_ifs with hus
        · exact .inl rfl
        · exact .inr ⟨now, resp, rfl, by simpa using hus, rfl⟩

/-- What a step that changes the records does to them, with the request that is the cause. -/
theorem changesAt_cases (hstart : SessionStart a) (h : ChangesAt a es j) :
    ∃ i op pdu now resp, es[i]?.bind Event.request = some op ∧ Answers a es i j pdu now resp ∧
      (op.isDelete = true ∧ (stateAt a es (j + 1)).state =
          (stateAt a es j).state.removeSubscriptionByRf op.ranFunctionId ∨
        op.isDelete = false ∧ ∃ id t, resp.subscriptionId = some id ∧
          (stateAt a es (j + 1)).state =
            (stateAt a es j).state.recordSubscription op.ranFunctionId id t) := by
  rcases state_succ a es j with hsame | ⟨now, resp, he, hus, hstate⟩
  · exact absurd hsame h
  · rw [ChangesAt, hstate] at h
    rcases applyResponse_cases (stateAt a es j).state now
      ((stateAt a es j).pendingSubscriptions.lookup resp.requestId) resp with
      hsame | ⟨op, hpending, hpos, hdone⟩
    · exact absurd hsame h
    · obtain ⟨i, pdu, hi, hop, hsent, hmid, hfirst⟩ := pending_sent hstart j hpending
      rw [← hstate] at hdone
      refine ⟨i, op, pdu, now, resp, hop, ⟨hi, hsent, he, hus, hmid.symm, hpos, ?_⟩, hdone⟩
      rw [hmid]
      exact hfirst

theorem Caused.request_unique (hwrap : NoWrap a es) {i' : ℕ} (h : Caused a es i j)
    (h' : Caused a es i' j) : i' = i := by
  obtain ⟨pdu, now, resp, h⟩ := h
  obtain ⟨pdu', now', resp', h'⟩ := h'
  cases Option.some.inj (h.received.symm.trans h'.received)
  obtain ⟨-, -, hdraws, hmid, -⟩ := sentAt_spec h.sent
  obtain ⟨-, -, hdraws', hmid', -⟩ := sentAt_spec h'.sent
  have heq : pdu.messageId = pdu'.messageId := h.named.symm.trans h'.named
  rw [hmid, hmid'] at heq
  rcases lt_trichotomy i i' with hlt | rfl | hlt
  · exact absurd heq (messageId_ne hwrap hdraws hdraws' hlt)
  · rfl
  · exact absurd heq.symm (messageId_ne hwrap hdraws' hdraws hlt)

theorem Answers.answeredAt {pdu : Pdu} {now : TimePoint} {resp : SubscriptionResponse}
    (h : Answers a es i j pdu now resp) : AnsweredAt a es j pdu.messageId :=
  ⟨now, resp, h.received, h.forUs, h.named⟩

theorem Caused.response_unique {j' : ℕ} (h : Caused a es i j) (h' : Caused a es i j') : j' = j := by
  obtain ⟨pdu, now, resp, h⟩ := h
  obtain ⟨pdu', now', resp', h'⟩ := h'
  obtain rfl := Option.some.inj (h.sent.symm.trans h'.sent)
  rcases lt_trichotomy j j' with hlt | rfl | hlt
  · exact absurd h.answeredAt (h'.first j h.earlier hlt)
  · rfl
  · exact absurd h'.answeredAt (h.first j' h'.earlier hlt)

theorem leadsBack_stateAt (hstart : SessionStart a) (hgrants : GrantsApart a es) :
    ∀ k, LeadsBack (stateAt a es k).state
  | 0 => by
    intro f id hf
    change a.state.ranFunctionToSubscriptionId.lookup f = some id at hf
    rw [hstart.recorded] at hf
    cases hf
  | k + 1 => by
    have ih := leadsBack_stateAt hstart hgrants k
    by_cases hchange : ChangesAt a es k
    · obtain ⟨i, op, pdu, now, resp, hop, hans, ⟨-, hstate⟩ | ⟨hdel, id, t, hid, hstate⟩⟩ :=
        changesAt_cases hstart hchange
      · rw [hstate]
        exact (ih.remove op.ranFunctionId).1
      · rw [hstate]
        exact ih.record t (hgrants i k pdu now resp hans op hop hdel id hid)
    · rw [not_not.mp hchange]
      exact ih

theorem Answers.recorded (hwrap : NoWrap a es) {pdu : Pdu} {now : TimePoint}
    {resp : SubscriptionResponse} {id : UInt32} (h : Answers a es i j pdu now resp)
    (hop : es[i]?.bind Event.request = some op) (hdel : op.isDelete = false)
    (hid : resp.subscriptionId = some id) :
    ∃ t, (stateAt a es (j + 1)).state =
      (stateAt a es j).state.recordSubscription op.ranFunctionId id t := by
  refine ⟨deadline now (op.subscriptionTimeS.getD 0), ?_⟩
  have hpending := sent_pending hwrap h.sent hop h.earlier h.first
  rw [← h.named] at hpending
  rw [stateAt_succ h.received]
  simp [call, handleSubscriptionResponse, h.forUs, hpending, applyResponse, h.positive, hdel, hid,
    deadline]

/-- Each change of the records is caused by one request, that causes no other, and is about its RAN
function. It leaves the other RAN functions their identifiers too, exactly if no identifier is
granted that is recorded for one of them. -/
theorem responses_attributed_iff (hstart : SessionStart a) (hwrap : NoWrap a es) :
    (∀ j, ChangesAt a es j → ∃ i op, es[i]?.bind Event.request = some op ∧ Caused a es i j ∧
      (∀ i', Caused a es i' j → i' = i) ∧ (∀ j', Caused a es i j' → j' = j) ∧
      ((stateAt a es (j + 1)).state.subscriptionIdFor op.ranFunctionId = none ↔ op.isDelete) ∧
      ChangesOnly (stateAt a es j).state (stateAt a es (j + 1)).state op.ranFunctionId) ∧
    ((∀ i j op, Caused a es i j → es[i]?.bind Event.request = some op →
        KeepsOthers (stateAt a es j).state (stateAt a es (j + 1)).state op.ranFunctionId) ↔
      GrantsApart a es) := by
  refine ⟨fun j hchange => ?_, fun hkeeps => ?_, fun hgrants i j op hcaused hop => ?_⟩
  · obtain ⟨i, op, pdu, now, resp, hop, hans, hdone⟩ := changesAt_cases hstart hchange
    have hcaused : Caused a es i j := ⟨pdu, now, resp, hans⟩
    refine ⟨i, op, hop, hcaused, fun i' h' => hcaused.request_unique hwrap h',
      fun j' h' => hcaused.response_unique h', ?_⟩
    rcases hdone with ⟨hdel, hstate⟩ | ⟨hdel, id, t, -, hstate⟩
    · rw [hstate, hdel]
      exact ⟨iff_of_true (subscriptionIdFor_remove _ _) rfl, changesOnly_remove _ _⟩
    · rw [hstate, hdel]
      exact ⟨iff_of_false (by simp [subscriptionIdFor_record]) nofun, changesOnly_record _ _ _ _⟩
  · intro i j pdu now resp hans op hop hdel id hid
    have hkept := hkeeps i j op ⟨pdu, now, resp, hans⟩ hop
    obtain ⟨t, hstate⟩ := hans.recorded hwrap hop hdel hid
    rw [hstate] at hkept
    exact (keepsOthers_record_iff _ _ _ _).mp hkept
  · by_cases hchange : ChangesAt a es j
    · obtain ⟨i', op', pdu, now, resp, hop', hans, hdone⟩ := changesAt_cases hstart hchange
      obtain rfl := hcaused.request_unique hwrap ⟨pdu, now, resp, hans⟩
      obtain rfl := Option.some.inj (hop.symm.trans hop')
      rcases hdone with ⟨-, hstate⟩ | ⟨hdel, id, t, hid, hstate⟩
      · rw [hstate]
        exact ((leadsBack_stateAt hstart hgrants j).remove _).2
      · rw [hstate]
        exact (keepsOthers_record_iff _ _ _ _).mpr
          (hgrants _ j pdu now resp hans op hop hdel id hid)
    · rw [not_not.mp hchange]
      exact fun _ _ _ => Iff.rfl

def dapp3 : DApp :=
  fresh.handleSetupResponse { responseCode := .positive, dappIdentifier := some 3 }

theorem dapp3_start : SessionStart dapp3 := ⟨rfl, rfl⟩

def asks (f : UInt32) (queued : ErrorCode) : Event := .subscribe 0 f [1] [] none none queued

def grants (requestId : UInt32) (subscriptionId : Option UInt32) : Event :=
  .response 0
    { requestId, dappIdentifier := 3, responseCode := .positive, subscriptionId := subscriptionId }

/-- A subscription and its end, with a call that is refused and a response that comes twice. -/
def exchange : List Event :=
  [asks 1 .success, asks 2 .bufferTooSmall, grants 1 (some 5), grants 1 (some 6),
    .unsubscribe 0 1 .success, grants 3 none]

theorem exchange_attributed :
    SessionStart dapp3 ∧ NoWrap dapp3 exchange ∧ ChangesAt dapp3 exchange 5 ∧
      ∃ i op, exchange[i]?.bind Event.request = some op ∧ Caused dapp3 exchange i 5 ∧
        ((stateAt dapp3 exchange 6).state.subscriptionIdFor op.ranFunctionId = none ↔
          op.isDelete) := by
  have hwrap : NoWrap dapp3 exchange := ⟨by decide, by decide⟩
  have hchange : ChangesAt dapp3 exchange 5 := fun h =>
    absurd (congrArg (fun s => s.subscriptionIdFor 1) h) (by decide)
  obtain ⟨i, op, hop, hcaused, -, -, hremoved, -⟩ :=
    (responses_attributed_iff dapp3_start hwrap).1 5 hchange
  exact ⟨dapp3_start, hwrap, hchange, i, op, hop, hcaused, hremoved⟩

/-- The RAN grants one identifier for two RAN functions, and the first of them is unsubscribed. -/
def shared : List Event :=
  [asks 1 .success, asks 2 .success, grants 1 (some 5), grants 2 (some 5),
    .unsubscribe 0 1 .success, grants 3 none]

/-- The end of the subscription to RAN function 1 takes the identifier of RAN function 2. -/
theorem removal_reaches_other_function :
    SessionStart dapp3 ∧ NoWrap dapp3 shared ∧ Caused dapp3 shared 4 5 ∧
      shared[4]?.bind Event.request = some ⟨1, true, none⟩ ∧
      (stateAt dapp3 shared 5).state.subscriptionIdToRanFunction.lookup 5 = some 2 ∧
      (stateAt dapp3 shared 6).state.subscriptionIdToRanFunction.lookup 5 = none ∧
      (stateAt dapp3 shared 6).state.subscriptionIdFor 2 = some 5 := by
  refine ⟨dapp3_start, ⟨by decide, by decide⟩, ⟨_, 0, _, ⟨by decide, rfl, rfl, rfl, rfl, rfl, ?_⟩⟩,
    rfl, by decide, by decide, by decide⟩
  intro k hk hk'
  omega

end DApp

end LibE3
