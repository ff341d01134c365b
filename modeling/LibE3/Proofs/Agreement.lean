import LibE3.Proofs.NetSession

/-!
# The dApp and the RAN agree on what is subscribed

A delete names a subscription identifier, and the RAN gives one that became free to the next
subscription at once. So a delete that is handled after its identifier went to another RAN function
of the same dApp ends the wrong subscription. If this does not happen, the answers under way always
account for the difference between the records of the dApp and what the RAN holds for it.
-/

namespace LibE3

open Runs

/-- What an effect does to a map from RAN functions to subscription identifiers. -/
def Effect.apply (v : UInt32 → Option UInt32) : Effect → UInt32 → Option UInt32
  | .granted f id _ => Function.update v f (some id)
  | .removed f => Function.update v f none
  | .nothing => v

namespace Session

variable {s s' : Session} {e : Event}

theorem record_recorded (eff : Effect) :
    (s.record eff).recorded = Effect.apply s.recorded eff := by
  cases eff <;> rfl

/-- No subscription has a time limit, and a delete ends the subscription that the dApp meant. -/
def Harmless (s : Session) : Event → Prop
  | .subscribe time => time.getD 0 = 0
  | .delete mid f => (s.pending mid).map PendingSubscriptionOp.ranFunctionId = some f
  | _ => True

/-- The records of the dApp and the answers under way make up what the RAN holds. -/
structure Agree (s : Session) : Prop where
  attributed : Attributed s
  view : s.effects.foldl Effect.apply s.recorded = fun f => (s.held f).map Entry.id
  held : ∀ f e, s.held f = some e → e.details.expiresAt = none
  pending : ∀ mid op, s.pending mid = some op → op.subscriptionTimeS.getD 0 = 0
  expiry : ∀ f, s.expiry f = none

theorem agree_start (now : TimePoint) : Agree (start now) where
  attributed := ⟨List.nodup_nil, by simp [start], by simp [start]⟩
  view := rfl
  held f e h := nomatch h
  pending mid op h := nomatch h
  expiry f := rfl

namespace Agree

theorem request (h : Agree s) {mid : UInt32} {op : PendingSubscriptionOp} {ask : Ask}
    (hm : s.pending mid = none) (hr : ask.Remembered (some op))
    (ht : op.subscriptionTimeS.getD 0 = 0) : Agree (s.request mid op ask) where
  attributed := h.attributed.request hm hr
  view := by
    rw [h.attributed.effects_request hm]
    exact h.view
  held := h.held
  pending k op' hk := by
    simp only [Session.request, Function.update_apply] at hk
    split_ifs at hk
    · exact Option.some.inj hk ▸ ht
    · exact h.pending k op' hk
  expiry := h.expiry

/-- An answer is sent, and its effect is what changed at the RAN. -/
theorem answer (h : Agree s) {q : Asked} {rest : List Asked} {a : Answer}
    {held : UInt32 → Option Entry} (hq : s.asked = q :: rest) (ha : a.requestId = q.messageId)
    (hview : Effect.apply (fun f => (s.held f).map Entry.id)
      (effect (s.pending a.requestId) a) = fun f => (held f).map Entry.id)
    (hheld : ∀ f e, held f = some e → e.details.expiresAt = none) :
    Agree { s.answer rest a with held := held } where
  attributed := (h.attributed.answer hq ha).setHeld _
  view := by
    change (s.answer rest a).effects.foldl Effect.apply s.recorded = _
    rw [effects_answer, List.foldl_append, h.view]
    exact hview
  held := hheld
  pending := h.pending
  expiry := h.expiry

theorem hear (h : Agree s) {a : Answer} {rest : List Answer} (ha : s.answered = a :: rest) :
    Agree ({ s with
      pending := Function.update s.pending a.requestId none
      answered := rest }.record (effect (s.pending a.requestId) a)) := by
  refine ⟨(h.attributed.hear ha).record _, ?_, ?_, fun k op hk => ?_, fun f => ?_⟩
  · have hview := h.view
    rw [h.attributed.effects_hear ha, List.foldl_cons] at hview
    simpa only [effects, record_answered, record_pending, record_held, record_recorded] using hview
  · simpa using h.held
  · simp only [record_pending, Function.update_apply] at hk
    split_ifs at hk
    exact h.pending k op hk
  · cases heff : effect (s.pending a.requestId) a with
    | granted g id time =>
      obtain ⟨op, hop, -, rfl⟩ := effect_eq_granted heff
      simp [record, Function.update_apply, h.pending _ _ hop, deadline, h.expiry f]
    | removed g =>
      simp only [record]
      split_ifs
      · simp [Function.update_apply, h.expiry f]
      · exact h.expiry f
    | nothing => exact h.expiry f

theorem step (h : Agree s) (hc : s.Harmless e) (hs : Step s e s') : Agree s' := by
  cases hs with
  | elapse hle => exact ⟨h.attributed.step (.elapse hle), h.view, h.held, h.pending, h.expiry⟩
  | subscribe hm => exact h.request hm rfl hc
  | unsubscribe hm _ => exact h.request hm ⟨_, rfl⟩ rfl
  | refuse hq => exact h.answer hq rfl (by cases s.pending _ <;> rfl) h.held
  | @hold mid f time rest e hq he =>
    have hop := h.attributed.of_subscribe hq
    refine h.answer hq rfl ?_ h.held
    rw [hop]
    -- the identifier is the one that is held already
    exact Function.update_eq_self_iff.mpr (by simp [he])
  | @grant mid f time rest e hq he =>
    have hop := h.attributed.of_subscribe hq
    refine h.answer hq rfl ?_ fun g e' hg => ?_
    · rw [hop]
      exact (Function.comp_update (Option.map Entry.id) s.held f (some e)).symm
    · rw [Function.update_apply] at hg
      split_ifs at hg
      · obtain rfl := Option.some.inj hg
        have ht : time.getD 0 = 0 := h.pending _ _ hop
        simp [he, deadline, ht]
      · exact h.held g e' hg
  | @delete mid f rest e hq he =>
    obtain ⟨g, hop⟩ := h.attributed.of_delete hq
    obtain rfl : g = f := by simpa [Harmless, hop] using hc
    refine h.answer hq rfl ?_ fun k e' hk => ?_
    · rw [hop]
      exact (Function.comp_update (Option.map Entry.id) s.held g none).symm
    · rw [Function.update_apply] at hk
      split_ifs at hk
      exact h.held k e' hk
  | hear ha => exact h.hear ha
  | ranSweep =>
    have hsame : (fun f => (s.held f).filter fun e => !isExpired e.details s.now) = s.held := by
      funext f
      cases he : s.held f with
      | none => rfl
      | some e => simp [isExpired, h.held f e he]
    rw [hsame]
    exact h
  | dappSweep =>
    have hnone : ∀ f, s.ranOut f = false := fun f => by simp [ranOut, h.expiry f]
    simp only [hnone, Bool.false_eq_true, if_false]
    exact h

end Agree

end Session

namespace Net

variable {ι : Type} {n n' : Net ι} {T : Table} {id : ι → UInt32}

/-- The delete that a PDU is, with its message identifier. -/
def deleteOf (pdu : Pdu) : Option (UInt32 × SubscriptionDelete) :=
  match pdu.choice with
  | .subscriptionDelete del => some (pdu.messageId, del)
  | _ => none

/-- When the RAN handles a delete, the subscription of that dApp which has the identifier by now, if
there is one, is to the RAN function the dApp queued the delete for. -/
def DeletesItsOwn (n : Net ι) : Label ι → Prop
  | .ranReceive i _ _ =>
    ∀ q ∈ (n.up i).head?.bind deleteOf,
      ∀ p ∈ n.ran.mgr.subscriptionIds.lookup q.2.subscriptionId, p.1 = q.2.dappIdentifier →
        ((n.dapp i).pendingSubscriptions.lookup q.1).map PendingSubscriptionOp.ranFunctionId =
          some p.2
  | _ => True

instance (n : Net ι) : ∀ a, Decidable (n.DeletesItsOwn a)
  | .ranReceive i _ _ =>
    @Option.decidableForallMem _ _ (fun _ => Option.decidableForallMem _)
      ((n.up i).head?.bind deleteOf)
  | .tick _ | .subscribe .. | .unsubscribe .. | .release .. | .control .. | .report ..
  | .dappReceive _ | .ranSweep _ | .dappSweep .. | .ranSend _ | .smAck .. | .attach _ | .detach _
  | .setup .. | .setupReply _ => inferInstanceAs (Decidable True)

def Label.untimed : Label ι → Bool
  | .subscribe _ _ _ _ _ time _ _ => time.getD 0 = 0
  | _ => true

theorem harmless_of_shows {a : Label ι} {i : ι} {e : Session.Event} (hc : n.DeletesItsOwn a)
    (ht : a.untimed = true) (he : n.Shows a i (id i) e) :
    (n.session T i (id i)).Harmless e := by
  cases e with
  | subscribe time =>
    obtain ⟨_, _, _, _, _, _, rfl⟩ := he
    exact (of_decide_eq_true ht : time.getD 0 = 0)
  | hold time e => trivial
  | delete mid f =>
    obtain ⟨_, _, pdu, rest, del, rfl, hup, rfl, hdel, hd, hids⟩ := he
    have hhead : (pdu.messageId, del) ∈ (n.up i).head?.bind deleteOf := by
      simp [hup, deleteOf, hdel]
    exact hc _ hhead _ hids hd.symm
  | other => trivial

theorem answered_eq_nil {i : ι} (hdown : ∀ m ∈ n.down i, addressee m.pdu ≠ some (id i)) :
    (n.session T i (id i)).answered = [] := by
  refine List.filterMap_eq_nil_iff.mpr fun m hm => ?_
  have hne := hdown m hm
  unfold answerTo
  split
  · rename_i hc
    rw [if_neg]
    rintro hd
    simp [addressee, hc, hd] at hne
  · rfl

variable [DecidableEq ι]

/-- Every dApp agrees with the RAN up to the answers that are under way. -/
def Agreed (id : ι → UInt32) (n : Net ι) : Prop :=
  ∃ T, Linked id n T ∧ ∀ i, (n.session T i (id i)).Agree

theorem agreed_step {a : Label ι} (hid : Function.Injective id) (h : Agreed id n)
    (hc : (n.FreshIds a ∧ n.DeletesItsOwn a) ∧ a.exchange = true ∧ a.untimed = true)
    (hs : n.step a = some n') : Agreed id n' := by
  obtain ⟨T, hl, hi⟩ := h
  obtain ⟨⟨hfresh, hown⟩, hex, hun⟩ := hc
  obtain ⟨T', hl', hsim⟩ := hl.step hid hex hfresh hs
  refine ⟨T', hl', fun i => ?_⟩
  obtain ⟨e, hstep, hshow⟩ := hsim i
  exact (hi i).step (harmless_of_shows hown hun hshow) hstep

/-- With no message to a dApp under way, its records are what the RAN holds for it, in every run in
which it subscribes without time limits, reuses no message identifier that it still remembers, and
the RAN deletes only what the dApp meant. Requests may be under way: they change nothing yet. -/
theorem records_eq_held {n₀ : Net ι} (h₀ : Deployed id n₀) {labels : List (Label ι)}
    (hlabels : ∀ a ∈ labels, a.exchange = true ∧ a.untimed = true)
    (hm : Meets step (fun n a => n.FreshIds a ∧ n.DeletesItsOwn a) n₀ labels)
    (hrun : run step n₀ labels = some n) {i : ι}
    (hdown : ∀ m ∈ n.down i, addressee m.pdu ≠ some (id i)) (f subId : UInt32) :
    (n.dapp i).state.ranFunctionToSubscriptionId.lookup f = some subId ↔
      n.ran.mgr.subscriptionIds.lookup subId = some (id i, f) := by
  have hstart : Agreed id n₀ := by
    obtain ⟨T, hl, hstart⟩ := h₀.linked
    exact ⟨T, hl, fun i => hstart i ▸ Session.agree_start _⟩
  obtain ⟨T, hl, hi⟩ := inv_of_meets (agreed_step h₀.distinct) hstart (hm.and_of_mem hlabels) hrun
  have hview := (hi i).view
  simp only [Session.effects, answered_eq_nil hdown, List.map_nil, List.foldl_nil] at hview
  rw [hl.represents.ids]
  have hf := congrFun hview f
  simp only [session] at hf
  rw [hf, Option.map_eq_some_iff]

/-- The second delete of RAN function 7 ends the subscription to RAN function 8, which was given
the identifier of the first, and the dApp keeps a record of it. -/
theorem repeated_delete_ends_other_subscription :
    Deployed (fun _ => 1) oneDapp ∧ ∃ n, run step oneDapp
        [.subscribe () 0 7 [1] [] none none .success, .ranReceive () 0 [], .dappReceive (),
          .unsubscribe () 0 7 .success, .subscribe () 0 8 [1] [] none none .success,
          .unsubscribe () 0 7 .success, .ranReceive () 0 [], .ranReceive () 0 [],
          .ranReceive () 0 [], .dappReceive (), .dappReceive (), .dappReceive ()] = some n ∧
      n.up () = [] ∧ n.down () = [] ∧
      (n.dapp ()).state.ranFunctionToSubscriptionId.lookup 8 = some 1 ∧
      n.ran.mgr.subscriptionIds.lookup 1 = none := by
  exact ⟨deployed_oneDapp, exists_run _ (by decide +kernel) fun _ _ h => h⟩

/-- A delete and a new subscription overlap, and each is for another RAN function. -/
theorem records_eq_held_overlapping :
    ∃ n, run step oneDapp
        [.subscribe () 0 7 [1] [] none none .success, .ranReceive () 0 [], .dappReceive (),
          .unsubscribe () 0 7 .success, .subscribe () 0 8 [1] [] none none .success,
          .ranReceive () 0 [], .ranReceive () 0 [], .dappReceive (), .dappReceive ()] = some n ∧
      ((n.dapp ()).state.ranFunctionToSubscriptionId.lookup 8 = some 1 ↔
        n.ran.mgr.subscriptionIds.lookup 1 = some (1, 8)) := by
  exact exists_run (fun n => n.down () = []) (by decide +kernel) fun n hrun hn =>
    records_eq_held deployed_oneDapp (by decide +kernel) (by decide +kernel) hrun (by simp [hn]) 8 1

end Net

end LibE3
