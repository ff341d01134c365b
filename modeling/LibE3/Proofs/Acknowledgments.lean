import LibE3.Lib.Partial
import LibE3.Proofs.Addressing

/-!
# Who is called for an acknowledgment

An acknowledgment carries no dApp identifier, all dApps number their messages alike, and a dApp
passes every one that it receives to its application. So the handler of a dApp is called only for
answers to its own messages as long as no other dApp is attached when one is sent.
-/

namespace LibE3

open SubscriptionManager Runs Partial

def controlOf (pdu : Pdu) : Option DAppControlAction :=
  match pdu.type, pdu.choice with
  | .dappControlAction, .dappControlAction action => some action
  | _, _ => none

namespace Net

variable {ι : Type} {n n' : Net ι}

/-- When the step puts an acknowledgment on the outbound link, no dApp is attached but the one
whose message it answers. The RAN acknowledges a control that it hands to no Service Model, a
Service Model one that it was handed, and what the user sends of its own answers nothing. -/
def AcksAlone (n : Net ι) : Label ι → Prop
  | .ranReceive i _ _ => ∀ action ∈ (n.up i).head?.bind controlOf,
      (n.ran.decideControl action).1.isLeft = true → ∀ j, n.attached j = true → j = i
  | .smAck k .. => ∀ c ∈ n.handed[k]?, ∀ j, n.attached j = true → j = c.1
  | .ranSend pdu => isAck pdu = true → ∀ j, n.attached j = false
  | _ => True

instance [DecidableEq ι] [Fintype ι] (n : Net ι) : ∀ a, Decidable (n.AcksAlone a)
  | .ranReceive i _ _ => Option.decidableForallMem ((n.up i).head?.bind controlOf)
  | .smAck k .. => Option.decidableForallMem n.handed[k]?
  | .ranSend _ => inferInstanceAs (Decidable (_ → ∀ _, _))
  | .tick _ | .subscribe .. | .unsubscribe .. | .release .. | .control .. | .report ..
  | .dappReceive _ | .ranSweep _ | .dappSweep .. | .attach _ | .detach _ | .setup ..
  | .setupReply _ => inferInstanceAs (Decidable True)

/-- The message acknowledges one that the dApp has sent, and names it. -/
def Answers (n : Net ι) (i : ι) (m : Sent ι) : Prop :=
  ∃ ack, m.pdu.choice = .messageAck ack ∧ m.answers = some (i, ack.requestId) ∧
    ack.requestId ∈ n.numbered i

structure AckInv (n : Net ι) : Prop where
  up : ∀ i, ∀ pdu ∈ n.up i, pdu.messageId ≠ 0 ∧ pdu.messageId ∈ n.numbered i
  handed : ∀ c ∈ n.handed, c.2 ∈ n.numbered c.1
  down : ∀ i, ∀ m ∈ n.down i, isAck m.pdu = true → n.Answers i m
  acks : ∀ p ∈ n.acks, n.Answers p.1 p.2

theorem ackInv_quiet (ran : Ran) : AckInv (quiet ran : Net ι) where
  up _ _ h := nomatch h
  handed _ h := nomatch h
  down _ _ h := nomatch h
  acks _ h := nomatch h

theorem AckInv.shrink (h : AckInv n) (hnum : n'.numbered = n.numbered)
    (hup : ∀ i, n'.up i ⊆ n.up i) (hhanded : n'.handed = n.handed)
    (hdown : ∀ i, n'.down i ⊆ n.down i) (hacks : n'.acks = n.acks) : AckInv n' where
  up i pdu hp := hnum ▸ h.up i pdu (hup i hp)
  handed c hc := hnum ▸ h.handed c (hhanded ▸ hc)
  down i m hm hack := by
    simpa only [Answers, hnum] using h.down i m (hdown i hm) hack
  acks p hp := by
    simpa only [Answers, hnum] using h.acks p (hacks ▸ hp)

theorem AckInv.broadcast {pdu : Pdu} {answers : Option (ι × UInt32)} (h : AckInv n)
    (hpdu : isAck pdu = true → ∀ j, n.attached j = true →
      n.Answers j ⟨pdu, (addressee pdu).bind n.holder, answers⟩) :
    AckInv (n.broadcast pdu answers) where
  up := h.up
  handed := h.handed
  down i m hm hack := by
    simp only [Net.broadcast] at hm
    split_ifs at hm with hatt
    · rcases List.mem_append.mp hm with hm | hm
      · exact h.down i m hm hack
      · obtain rfl := List.mem_singleton.mp hm
        exact hpdu hack i hatt
    · exact h.down i m hm hack
  acks := h.acks

variable [DecidableEq ι]

theorem AckInv.called {i : ι} {result : ErrorCode × DApp × Option Pdu} (h : AckInv n)
    (hq : (n.dapp i).Queues result) : AckInv (n.called i result) := by
  have hmono : ∀ j, n.numbered j ⊆ (n.called i result).numbered j := by
    intro j
    by_cases hj : j = i
    · subst hj
      simp only [Net.called, Function.update_self]
      exact List.subset_append_left _ _
    · simp only [Net.called, Function.update_of_ne hj]
      exact List.Subset.refl _
  have hanswers : ∀ j m, n.Answers j m → (n.called i result).Answers j m := by
    rintro j m ⟨ack, hc, ha, hmem⟩
    exact ⟨ack, hc, ha, hmono j hmem⟩
  refine ⟨fun j pdu hp => ?_, fun c hc => hmono _ (h.handed c hc),
    fun j m hm hack => hanswers j m (h.down j m hm hack), fun p hp => hanswers _ _ (h.acks p hp)⟩
  by_cases hj : j = i
  · subst hj
    simp only [Net.called, Function.update_self, List.mem_append, Option.mem_toList] at hp ⊢
    rcases hp with hp | hp
    · exact ⟨(h.up j pdu hp).1, .inl (h.up j pdu hp).2⟩
    · exact ⟨hq.messageId pdu hp, .inr (List.mem_map_of_mem (Option.mem_toList.mpr hp))⟩
  · simp only [Net.called, Function.update_of_ne hj] at hp ⊢
    exact h.up j pdu hp

theorem isLeft_of_queued {r : Ran} {stamp : UInt64} {action : DAppControlAction} {mid : UInt32}
    (h : (r.handleControlAction stamp action mid).2.handed = none) :
    (r.decideControl action).1.isLeft = true := by
  unfold Ran.handleControlAction at h
  rcases hd : r.decideControl action with ⟨refusal | sm, registry⟩
  · rfl
  · rw [hd] at h
    exact nomatch h

omit [DecidableEq ι] in
theorem AckInv.ranHandle {i : ι} {stamp : UInt64} {order : List UInt32} {pdu : Pdu}
    (h : AckInv n) (hpdu : pdu.messageId ≠ 0 ∧ pdu.messageId ∈ n.numbered i)
    (halone : ∀ action ∈ controlOf pdu, (n.ran.decideControl action).1.isLeft = true →
      ∀ j, n.attached j = true → j = i)
    (hs : n.ranHandle i stamp order pdu = some n') : AckInv n' := by
  have hran : ∀ ran, AckInv { n with ran := ran } := fun ran =>
    h.shrink rfl (fun _ => List.Subset.refl _) rfl (fun _ => List.Subset.refl _) rfl
  unfold Net.ranHandle at hs
  split at hs
  · obtain rfl := Option.some.inj hs
    exact (hran _).broadcast fun hack => nomatch hack
  · obtain rfl := Option.some.inj hs
    exact (hran _).broadcast fun hack => nomatch hack
  · rename_i action ht hc
    obtain rfl := Option.some.inj hs
    rcases n.ran.handleControlAction_outcome stamp action pdu.messageId with ⟨sm, hout⟩ |
      ⟨refusal, messageId, hout⟩
    · simp only [hout, Option.toList_some, List.map_cons, List.map_nil, List.foldl_nil]
      refine ⟨h.up, fun c hc => ?_, h.down, h.acks⟩
      rcases List.mem_append.mp hc with hc | hc
      · exact h.handed c hc
      · obtain rfl := List.mem_singleton.mp hc
        exact hpdu.2
    · have hleft := isLeft_of_queued (congrArg Ran.ControlOutcome.handed hout)
      have honly := halone action (by simp [controlOf, ht, hc]) hleft
      simp only [hout, Option.toList_none, List.map_nil, List.append_nil, List.foldl_cons,
        List.foldl_nil]
      refine (hran _).broadcast fun _ j hj => ?_
      obtain rfl := honly j hj
      refine ⟨_, rfl, ?_, ?_⟩
      · simp only [sanitizeRequestMessageId, if_pos hpdu.1]
      · simp only [sanitizeRequestMessageId, if_pos hpdu.1]
        exact hpdu.2
  · split_ifs at hs
    obtain rfl := Option.some.inj hs
    exact h.shrink rfl (fun _ => List.Subset.refl _) rfl (fun _ => List.Subset.refl _) rfl
  · obtain rfl := Option.some.inj hs
    exact h

theorem AckInv.dappReceive {i : ι} (h : AckInv n) (hs : n.step (.dappReceive i) = some n') :
    AckInv n' := by
  simp only [step] at hs
  split at hs
  swap
  · cases hs
  rename_i m rest hatt hdown
  obtain rfl := Option.some.inj hs
  have hrest : rest ⊆ n.down i := hdown ▸ List.subset_cons_self m rest
  refine ⟨h.up, h.handed, fun j p hp => h.down j p (update_subset hrest j hp), fun p hp => ?_⟩
  simp only at hp
  split_ifs at hp with hack
  · rcases List.mem_append.mp hp with hp | hp
    · exact h.acks p hp
    · obtain rfl := List.mem_singleton.mp hp
      exact h.down i m (by simp [hdown]) hack.2
  · exact h.acks p hp

theorem ackInv_step {a : Label ι} (h : AckInv n) (hc : n.AcksAlone a)
    (hs : n.step a = some n') : AckInv n' := by
  cases a with
  | tick elapsed =>
    obtain rfl := Option.some.inj hs
    exact ⟨h.up, h.handed, h.down, h.acks⟩
  | subscribe i stamp f ts cs time period queued =>
    obtain ⟨-, rfl⟩ := of_check hs
    exact h.called (DApp.queues_subscriptionRequest _ _ _ _ _ _ _ _)
  | unsubscribe i stamp f queued =>
    obtain ⟨-, rfl⟩ := of_check hs
    exact h.called (DApp.queues_subscriptionDelete _ _ _ _)
  | release i stamp queued =>
    obtain ⟨-, rfl⟩ := of_check hs
    exact h.called (DApp.queues_releaseMessage _ _ _)
  | control i stamp f c data sequenceId queued =>
    obtain ⟨-, rfl⟩ := of_check hs
    exact h.called (DApp.queues_dappControlAction _ _ _ _ _ _ _)
  | report i stamp f data sequenceId queued =>
    obtain ⟨-, rfl⟩ := of_check hs
    exact h.called (DApp.queues_dappReport _ _ _ _ _ _)
  | ranReceive i stamp order =>
    simp only [step] at hs
    split at hs
    · cases hs
    · rename_i pdu rest hup
      have hrest : rest ⊆ n.up i := hup ▸ List.subset_cons_self pdu rest
      have hi : AckInv { n with up := Function.update n.up i rest } :=
        h.shrink rfl (update_subset hrest) rfl (fun _ => List.Subset.refl _) rfl
      exact hi.ranHandle (h.up i pdu (by simp [hup])) (by simpa [AcksAlone, hup] using hc) hs
  | dappReceive i => exact h.dappReceive hs
  | ranSweep order =>
    obtain ⟨-, rfl⟩ := of_check hs
    exact ⟨h.up, h.handed, h.down, h.acks⟩
  | dappSweep i order =>
    obtain ⟨-, rfl⟩ := of_check hs
    exact ⟨h.up, h.handed, h.down, h.acks⟩
  | ranSend pdu =>
    obtain rfl := Option.some.inj hs
    refine h.broadcast fun hack j hj => ?_
    cases (hc hack j).symm.trans hj
  | smAck k stamp responseCode cause detail =>
    simp only [step] at hs
    split at hs
    · cases hs
    · rename_i i mid hk
      obtain rfl := Option.some.inj hs
      have hi : ∀ ran, AckInv { n with ran := ran } := fun ran =>
        ⟨h.up, h.handed, h.down, h.acks⟩
      refine (hi _).broadcast fun _ j hj => ⟨_, rfl, ?_, ?_⟩
      · obtain rfl := hc (i, mid) hk j hj
        rfl
      · obtain rfl := hc (i, mid) hk j hj
        exact h.handed (_, mid) (List.mem_of_getElem? hk)
  | attach i =>
    simp only [step] at hs
    split_ifs at hs
    obtain rfl := Option.some.inj hs
    exact h.shrink rfl (fun _ => List.Subset.refl _) rfl (update_subset (List.nil_subset _)) rfl
  | detach i =>
    obtain ⟨-, rfl⟩ := of_check hs
    exact ⟨h.up, h.handed, h.down, h.acks⟩
  | setup i stamp mid =>
    obtain rfl := Option.some.inj hs
    exact ⟨h.up, h.handed, h.down, h.acks⟩
  | setupReply i =>
    simp only [step] at hs
    split at hs
    · obtain rfl := Option.some.inj hs
      exact ⟨h.up, h.handed, h.down, h.acks⟩
    · cases hs

/-- A refusal of the first control of a dApp with identifier 1, as RAN function 7 is not served. -/
def unserved : Pdu where
  type := .messageAck
  choice := .messageAck ⟨1, .negative, some .unsupportedRanFunction,
    some (text "RAN function 7 is not served")⟩
  messageId := 2
  timestamp := 0

end Net

end LibE3
