import LibE3.Lib.Partial
import LibE3.Net
import LibE3.Proofs.DAppSpec
import LibE3.Proofs.RanSpec
import Mathlib.Data.Fintype.Basic

/-!
# Who is handed a message on the broadcast link

A dApp keeps its identifier after it has sent its release, and the RAN gives it to the next dApp:
both then take the messages that carry it. If the RAN assigns an identifier only when no other
attached dApp holds it and nothing that carries it is under way, and sends only what carries a
registered one, a message is handed to the dApp that held its identifier when it was sent, and to no
other.
-/

namespace LibE3

open SubscriptionManager Runs Partial

def assignment (pdu : Pdu) : Option UInt32 :=
  match pdu.choice with
  | .setupResponse resp =>
    if resp.responseCode = .positive then some (resp.dappIdentifier.getD 0) else none
  | _ => none

/-- The identifier of the dApp that asks for something the RAN answers. -/
def requester (pdu : Pdu) : Option UInt32 :=
  match pdu.choice with
  | .subscriptionRequest request => some request.dappIdentifier
  | .subscriptionDelete del => some del.dappIdentifier
  | _ => none

namespace Net

variable {ι : Type} {n n' : Net ι}

/-- The dApp is attached and goes by the identifier, or will when its setup reply arrives. -/
def HoldsId (n : Net ι) (j : ι) (d : UInt32) : Prop :=
  n.attached j = true ∧ ((n.dapp j).state.assignedDappId = some d ∨
    (n.awaiting j = true ∧ some d ∈ (n.reply j).map assignment))

/-- The step gives no identifier to a dApp while another attached dApp holds it or a message that
carries it is on its way to the new one, and sends no message to an unregistered identifier. -/
def KeepsAddresses (n : Net ι) : Label ι → Prop
  | .setup i _ _ =>
    let d := lowestFreeId n.ran.mgr.registeredDapps
    d ≠ 0 → (∀ j, j ≠ i → ¬ n.HoldsId j d) ∧ some d ∉ (n.down i).map fun m => addressee m.pdu
  | .ranSend pdu => ∀ d ∈ addressee pdu, d ∈ n.ran.mgr.registeredDapps
  | .ranReceive i _ _ => ∀ d ∈ (n.up i).head?.bind requester, d ∈ n.ran.mgr.registeredDapps
  | _ => True

instance (n : Net ι) (j : ι) (d : UInt32) : Decidable (n.HoldsId j d) :=
  inferInstanceAs (Decidable (_ ∧ _))

instance [DecidableEq ι] [Fintype ι] (n : Net ι) : ∀ a, Decidable (n.KeepsAddresses a)
  | .setup .. => inferInstanceAs (Decidable (_ → _ ∧ _))
  | .ranSend pdu => Option.decidableForallMem (addressee pdu)
  | .ranReceive i _ _ => Option.decidableForallMem ((n.up i).head?.bind requester)
  | .tick _ | .subscribe .. | .unsubscribe .. | .release .. | .control .. | .report ..
  | .dappReceive _ | .ranSweep _ | .dappSweep .. | .smAck .. | .attach _ | .detach _
  | .setupReply _ => inferInstanceAs (Decidable True)

structure AddressInv (n : Net ι) : Prop where
  represents : ∃ T, Represents n.ran.mgr T
  holder_iff : ∀ d, (n.holder d).isSome ↔ d ∈ n.ran.mgr.registeredDapps
  held : ∀ j d, n.HoldsId j d → ∀ k, n.holder d = some k → k = j
  tagged : ∀ j d, n.HoldsId j d → ∀ m ∈ n.down j, addressee m.pdu = some d → m.holder = some j
  logged : ∀ p ∈ n.log, p.2.holder = some p.1

/-- A RAN that has registered no dApp yet, and dApps that are not started. -/
def quiet (ran : Ran) : Net ι where
  ran := ran
  now := 0
  dapp _ := .fresh
  attached _ := false
  awaiting _ := false
  up _ := []
  down _ := []
  reply _ := []
  holder _ := none
  log := []

theorem addressInv_quiet {ran : Ran} (h : ran.mgr = .fresh) :
    AddressInv (quiet ran : Net ι) where
  represents := ⟨_, h ▸ represents_fresh⟩
  holder_iff d := by simpa [quiet, h, fresh] using Finmap.notMem_empty
  held j d hj := nomatch hj.1
  tagged j d hj := nomatch hj.1
  logged p hp := nomatch hp

theorem AddressInv.of_ran {ran : Ran} (h : AddressInv n) {T' : Table}
    (hrep : Represents ran.mgr T') (hreg : ∀ d, d ∈ T'.registered ↔ d ∈ n.ran.mgr.registeredDapps) :
    AddressInv { n with ran := ran } where
  represents := ⟨T', hrep⟩
  holder_iff d := by
    simp only [hrep.registered, hreg]
    exact h.holder_iff d
  held := h.held
  tagged := h.tagged
  logged := h.logged

variable {pdu : Pdu}

theorem AddressInv.broadcast {answers : Option (ι × UInt32)} (h : AddressInv n)
    (hreg : ∀ d ∈ addressee pdu, d ∈ n.ran.mgr.registeredDapps) :
    AddressInv (n.broadcast pdu answers) where
  represents := h.represents
  holder_iff := h.holder_iff
  held := h.held
  tagged j d hj m hm hd := by
    have hatt : n.attached j = true := hj.1
    simp only [Net.broadcast, hatt, if_true, List.mem_append, List.mem_singleton] at hm
    rcases hm with hm | rfl
    · exact h.tagged j d hj m hm hd
    · -- a message is tagged with the holder of its identifier, and only the holder goes by it
      obtain ⟨k, hk⟩ := Option.isSome_iff_exists.mp ((h.holder_iff d).mpr (hreg d hd))
      simp only at hd
      simp only [hd, Option.bind_some, hk]
      rw [h.held j d hj k hk]
  logged := h.logged

theorem AddressInv.shrink (h : AddressInv n) (hmgr : n'.ran.mgr = n.ran.mgr)
    (hholder : n'.holder = n.holder) (hholds : ∀ j d, n'.HoldsId j d → n.HoldsId j d)
    (hdown : ∀ j, n'.down j ⊆ n.down j) (hlog : ∀ p ∈ n'.log, p.2.holder = some p.1) :
    AddressInv n' where
  represents := hmgr ▸ h.represents
  holder_iff := by
    rw [hmgr, hholder]
    exact h.holder_iff
  held j d hj := by
    rw [hholder]
    exact h.held j d (hholds j d hj)
  tagged j d hj m hm := h.tagged j d (hholds j d hj) m (hdown j hm)
  logged := hlog

theorem addressee_handleSubscriptionRequest (r : Ran) (now : TimePoint) (stamp : UInt64)
    (request : SubscriptionRequest) (mid : UInt32) :
    addressee (r.handleSubscriptionRequest now stamp request mid).2 =
      some request.dappIdentifier := by
  cases hout : (r.decideSubscription now request).2 with
  | inl id => simp only [addressee, handleSubscriptionRequest_granted hout, grantResponse]
  | inr refusal => simp only [addressee, handleSubscriptionRequest_refused hout]

theorem addressee_handleSubscriptionDelete (r : Ran) (stamp : UInt64) (del : SubscriptionDelete)
    (mid : UInt32) :
    addressee (r.handleSubscriptionDelete stamp del mid).2 = some del.dappIdentifier := by
  simp only [addressee, Ran.handleSubscriptionDelete]
  split_ifs <;> rfl

theorem AddressInv.release (h : AddressInv n) {release : ReleaseMessage} {order : List UInt32}
    (ho : Visits order (n.ran.mgr.dappSubscriptions.ref release.dappIdentifier)) :
    AddressInv { n with
      ran := n.ran.handleReleaseMessage release order
      holder := Function.update n.holder release.dappIdentifier none } := by
  obtain ⟨T, hT⟩ := h.represents
  obtain ⟨T', hT', hreg⟩ : ∃ T', Represents (n.ran.handleReleaseMessage release order).mgr T' ∧
      ∀ d, d ∈ T'.registered ↔ d ≠ release.dappIdentifier ∧ d ∈ T.registered := by
    change ∃ T', Represents (n.ran.mgr.unregisterDapp release.dappIdentifier order).mgr T' ∧ _
    by_cases hd : release.dappIdentifier ∈ T.registered
    · refine ⟨_, (unregisterDapp_some hT hd ho).2.1, fun d => ?_⟩
      simp [Table.unregister, and_comm]
    · rw [unregisterDapp_none hT hd]
      refine ⟨T, hT, fun d => (and_iff_right_of_imp ?_).symm⟩
      rintro hmem rfl
      exact hd hmem
  refine ⟨⟨T', hT'⟩, fun d => ?_, fun j d hj k hk => ?_, h.tagged, h.logged⟩
  · rw [hT'.registered, hreg, ← hT.registered, ← h.holder_iff]
    by_cases hd : d = release.dappIdentifier
    · subst hd
      simp
    · simp [hd]
  · refine h.held j d hj k ?_
    by_cases hd : d = release.dappIdentifier
    · subst hd
      simp at hk
    · simpa [Function.update_of_ne hd] using hk

variable {i : ι}

theorem AddressInv.ranHandle {stamp : UInt64} {order : List UInt32} (h : AddressInv n)
    (hreg : ∀ d ∈ requester pdu, d ∈ n.ran.mgr.registeredDapps)
    (hs : n.ranHandle i stamp order pdu = some n') : AddressInv n' := by
  obtain ⟨T, hT⟩ := h.represents
  unfold Net.ranHandle at hs
  split at hs
  · rename_i request _ hc
    obtain ⟨T', hT', heq⟩ :=
      handleSubscriptionRequest_registered hT n.now stamp request pdu.messageId
    have hsame : ∀ d, d ∈ T'.registered ↔ d ∈ n.ran.mgr.registeredDapps := fun d => by
      rw [heq, hT.registered]
    obtain rfl := Option.some.inj hs
    refine (h.of_ran hT' hsame).broadcast fun d hd => ?_
    rw [addressee_handleSubscriptionRequest] at hd
    exact (hT'.registered d).mpr ((hsame d).mpr (hreg d (by simpa [requester, hc] using hd)))
  · rename_i del _ hc
    obtain ⟨T', hT', heq⟩ := handleSubscriptionDelete_registered hT stamp del pdu.messageId
    have hsame : ∀ d, d ∈ T'.registered ↔ d ∈ n.ran.mgr.registeredDapps := fun d => by
      rw [heq, hT.registered]
    obtain rfl := Option.some.inj hs
    refine (h.of_ran hT' hsame).broadcast fun d hd => ?_
    rw [addressee_handleSubscriptionDelete] at hd
    exact (hT'.registered d).mpr ((hsame d).mpr (hreg d (by simpa [requester, hc] using hd)))
  · rename_i action _ hc
    obtain rfl := Option.some.inj hs
    have hmgr := n.ran.handleControlAction_mgr stamp action pdu.messageId
    have hran : AddressInv { n with
        ran := (n.ran.handleControlAction stamp action pdu.messageId).1 } :=
      h.of_ran (hmgr ▸ hT) fun d => (hT.registered d).symm
    have hi : ∀ handed, AddressInv { n with
        ran := (n.ran.handleControlAction stamp action pdu.messageId).1
        handed := handed } := fun handed =>
      ⟨hran.represents, hran.holder_iff, hran.held, hran.tagged, hran.logged⟩
    rcases n.ran.handleControlAction_outcome stamp action pdu.messageId with ⟨sm, hout⟩ |
      ⟨refusal, messageId, hout⟩
    · simp only [hout]
      exact hi _
    · simp only [hout]
      exact (hi _).broadcast fun d hd => nomatch hd
  · split_ifs at hs with ho
    obtain rfl := Option.some.inj hs
    exact h.release ho
  · obtain rfl := Option.some.inj hs
    exact h

theorem KeepsAddresses.of_registerDapp {stamp : UInt64} {mid d : UInt32}
    (hc : n.KeepsAddresses (.setup i stamp mid)) (hret : n.ran.mgr.registerDapp.ret = (.success, d))
    :
    (∀ j, j ≠ i → ¬ n.HoldsId j d) ∧ some d ∉ (n.down i).map fun m => addressee m.pdu := by
  simp only [SubscriptionManager.registerDapp] at hret
  split_ifs at hret with h0
  · cases (Prod.mk.inj hret).1
  obtain ⟨-, rfl⟩ := Prod.mk.inj hret
  exact hc h0

variable [DecidableEq ι]

theorem holdsId_update {i j : ι} {a : DApp} {d : UInt32} (h : n'.HoldsId j d)
    (hdapp : n'.dapp = Function.update n.dapp i a) (hatt : n'.attached = n.attached)
    (hawait : n'.awaiting = n.awaiting) (hreply : n'.reply = n.reply)
    (ha : a.state.assignedDappId = (n.dapp i).state.assignedDappId ∨
      a.state.assignedDappId = none) : n.HoldsId j d := by
  rw [HoldsId, hdapp, hatt, hawait, hreply] at h
  refine ⟨h.1, h.2.imp_left fun hd => ?_⟩
  by_cases hj : j = i
  · subst hj
    simp only [Function.update_self] at hd
    rcases ha with ha | ha
    · rw [← ha, hd]
    · rw [ha] at hd
      exact nomatch hd
  · simpa only [Function.update_of_ne hj] using hd

theorem AddressInv.called {result : ErrorCode × DApp × Option Pdu} (h : AddressInv n)
    (hq : (n.dapp i).Queues result) : AddressInv (n.called i result) :=
  h.shrink rfl rfl (fun _ _ hj => holdsId_update hj rfl rfl rfl rfl (.inl (congrArg _ hq.state)))
    (fun _ => List.Subset.refl _) h.logged

theorem receive_assigned (a : DApp) (now : TimePoint) (pdu : Pdu) :
    (a.receive now pdu).1.state.assignedDappId = a.state.assignedDappId ∨
      (a.receive now pdu).1.state.assignedDappId = none := by
  unfold DApp.receive
  split
  · left
    unfold DApp.handleSubscriptionResponse
    split_ifs
    · rfl
    · simp only [applyResponse_eq, recordEffect_assigned]
  · exact .inl rfl
  · exact .inl rfl
  · exact .inl rfl
  · simp only [DApp.handleReleaseFromRan, DApp.onRanGone]
    split_ifs
    · exact .inl rfl
    · exact .inr rfl
    · exact .inl rfl
  · exact .inl rfl

theorem receive_passed {a : DApp} {now : TimePoint} {d : UInt32} (hp : (a.receive now pdu).2 = true)
    (hd : addressee pdu = some d) :
    a.state.assignedDappId = some d := by
  unfold DApp.receive at hp
  unfold addressee at hd
  split at hp
  · rename_i hc
    rw [hc, Option.some.injEq] at hd
    unfold DApp.handleSubscriptionResponse at hp
    split_ifs at hp with hfor
    rw [← hd]
    simpa [DApp.isForUs] using hfor
  · rename_i hc
    rw [hc, Option.some.injEq] at hd
    rw [← hd]
    simpa [DApp.isForUs] using hp
  · rename_i hc
    rw [hc, Option.some.injEq] at hd
    rw [← hd]
    simpa [DApp.isForUs] using hp
  · rename_i hc
    simp [hc] at hd
  · exact nomatch hp
  · exact nomatch hp

theorem AddressInv.dappReceive (h : AddressInv n) (hs : n.step (.dappReceive i) = some n') :
    AddressInv n' := by
  simp only [step] at hs
  split at hs
  swap
  · exact nomatch hs
  rename_i m rest hatt hdown
  obtain rfl := Option.some.inj hs
  have hrest : rest ⊆ n.down i := hdown ▸ List.subset_cons_self m rest
  refine h.shrink rfl rfl (fun j d hj => holdsId_update hj rfl rfl rfl rfl (receive_assigned _ _ _))
    (update_subset hrest) fun p hp => ?_
  simp only at hp
  split_ifs at hp with hpass
  · rcases List.mem_append.mp hp with hp | hp
    · exact h.logged p hp
    · obtain rfl := List.mem_singleton.mp hp
      obtain ⟨d, hd⟩ := Option.isSome_iff_exists.mp hpass.2
      exact h.tagged i d ⟨hatt, .inl (receive_passed hpass.1 hd)⟩ m (by simp [hdown]) hd
  · exact h.logged p hp

theorem AddressInv.setupReply (h : AddressInv n) (hs : n.step (.setupReply i) = some n') :
    AddressInv n' := by
  simp only [step] at hs
  split at hs
  · rename_i pdu rest hwait hreply
    obtain ⟨hatt, hawait⟩ := Bool.and_eq_true_iff.mp hwait
    obtain rfl := Option.some.inj hs
    refine h.shrink rfl rfl (fun j d hj => ?_) (fun _ => List.Subset.refl _) h.logged
    by_cases hji : j = i
    · subst hji
      obtain ⟨-, hid | ⟨hno, -⟩⟩ := hj
      · refine ⟨hatt, ?_⟩
        simp only [Function.update_self] at hid
        split at hid
        · rename_i resp hc
          unfold DApp.handleSetupResponse at hid
          split_ifs at hid with hpos
          · refine .inr ⟨hawait, List.mem_map.mpr ⟨pdu, by simp [hreply], ?_⟩⟩
            simpa [assignment, hc, hpos, DAppSubscriptionState.recordSetupResponse] using hid
          · exact .inl hid
        · exact .inl hid
      · simp at hno
    · simpa [HoldsId, Function.update_of_ne hji] using hj
  · exact nomatch hs

theorem assignment_answerSetup (r : Ran) (stamp : UInt64) (mid : UInt32) :
    assignment (r.answerSetup stamp mid).2 =
      if r.mgr.registerDapp.ret.1 = .success then some r.mgr.registerDapp.ret.2 else none := by
  simp only [Ran.answerSetup]
  split_ifs <;> rfl

/-- Whoever goes by an identifier after a setup did so before, or is the dApp that asked. -/
theorem holdsId_reply {i j : ι} {d : UInt32} {ran : Ran} {holder : UInt32 → Option ι}
    (h : HoldsId { n with
      ran := ran
      holder := holder
      reply := if n.attached i then Function.update n.reply i (n.reply i ++ [pdu])
        else n.reply } j d) :
    n.HoldsId j d ∨ (j = i ∧ assignment pdu = some d) := by
  obtain ⟨hatt, hid | ⟨hawait, hmem⟩⟩ := h
  · exact .inl ⟨hatt, .inl hid⟩
  simp only at hatt hmem
  by_cases hj : j = i
  · subst hj
    simp only [hatt, if_true, Function.update_self, List.map_append, List.mem_append] at hmem
    rcases hmem with hmem | hmem
    · exact .inl ⟨hatt, .inr ⟨hawait, hmem⟩⟩
    · exact .inr ⟨rfl, (List.mem_singleton.mp hmem).symm⟩
  · refine .inl ⟨hatt, .inr ⟨hawait, ?_⟩⟩
    split_ifs at hmem
    · rwa [Function.update_of_ne hj] at hmem
    · exact hmem

theorem AddressInv.setup {stamp : UInt64} {mid : UInt32} (h : AddressInv n)
    (hc : n.KeepsAddresses (.setup i stamp mid)) (hs : n.step (.setup i stamp mid) = some n') :
    AddressInv n' := by
  obtain ⟨T, hT⟩ := h.represents
  have hmgr : (n.ran.answerSetup stamp mid).1.mgr = n.ran.mgr.registerDapp.mgr := rfl
  simp only [step, Option.some.injEq] at hs
  subst hs
  by_cases hfull : ∀ id, InIdRange id → id ∈ T.registered
  · have hret := registerDapp_full hT hfull
    have hnone : assignment (n.ran.answerSetup stamp mid).2 = none := by
      rw [assignment_answerSetup, hret]
      rfl
    refine h.shrink (by rw [hmgr, hret]) (by rw [hret]; rfl) (fun j d hj => ?_)
      (fun _ => List.Subset.refl _) h.logged
    rcases holdsId_reply hj with hj | ⟨-, hj⟩
    · exact hj
    · rw [hnone] at hj
      exact nomatch hj
  · push Not at hfull
    obtain ⟨d, hd, hret, -, hrep⟩ := registerDapp_free hT hfull
    obtain ⟨hothers, hempty⟩ := hc.of_registerDapp hret
    have hsome : assignment (n.ran.answerSetup stamp mid).2 = some d := by
      rw [assignment_answerSetup, hret]
      rfl
    simp only [hret, if_true]
    refine ⟨⟨_, hmgr ▸ hrep⟩, fun d' => ?_, fun j d' hj k hk => ?_,
      fun j d' hj m hm hd' => ?_, h.logged⟩
    · rw [hmgr, hrep.registered]
      by_cases hd' : d' = d
      · subst hd'
        simp [Table.register]
      · simp [Table.register, hd', h.holder_iff, hT.registered]
    · by_cases hd' : d' = d
      · subst hd'
        obtain rfl : i = k := by simpa using hk
        rcases holdsId_reply hj with hj | ⟨hj, -⟩
        · by_contra hne
          exact hothers j (Ne.symm hne) hj
        · exact hj.symm
      · rcases holdsId_reply hj with hj | ⟨-, hj⟩
        · exact h.held j d' hj k (by simpa [Function.update_of_ne hd'] using hk)
        · exact absurd (Option.some.inj (hj.symm.trans hsome)) hd'
    · rcases holdsId_reply hj with hold | ⟨rfl, hnew⟩
      · exact h.tagged j d' hold m hm hd'
      · rw [hnew.symm.trans hsome] at hd'
        exact absurd (List.mem_map.mpr ⟨m, hm, hd'⟩) hempty

theorem addressInv_step {a : Label ι} (h : AddressInv n) (hc : n.KeepsAddresses a)
    (hs : n.step a = some n') : AddressInv n' := by
  cases a with
  | tick elapsed =>
    obtain rfl := Option.some.inj hs
    exact ⟨h.represents, h.holder_iff, h.held, h.tagged, h.logged⟩
  | subscribe i stamp f ts cs time period queued =>
    obtain ⟨-, rfl⟩ := of_check hs
    exact h.called (DApp.queues_subscriptionRequest _ _ _ _ _ _ _ _)
  | unsubscribe i stamp f queued =>
    obtain ⟨-, rfl⟩ := of_check hs
    exact h.called (DApp.queues_subscriptionDelete _ _ _ _)
  | release i stamp queued =>
    obtain ⟨-, rfl⟩ := of_check hs
    exact h.called (DApp.queues_releaseMessage _ _ _)
  | control i stamp f c data sequenceId queued =>
    obtain ⟨-, rfl⟩ := of_check hs
    exact h.called (DApp.queues_dappControlAction _ _ _ _ _ _ _)
  | report i stamp f data sequenceId queued =>
    obtain ⟨-, rfl⟩ := of_check hs
    exact h.called (DApp.queues_dappReport _ _ _ _ _ _)
  | ranReceive i stamp order =>
    simp only [step] at hs
    split at hs
    · cases hs
    · rename_i pdu rest hup
      have hi : AddressInv { n with up := Function.update n.up i rest } :=
        ⟨h.represents, h.holder_iff, h.held, h.tagged, h.logged⟩
      exact hi.ranHandle (by simpa [KeepsAddresses, hup] using hc) hs
  | dappReceive i => exact h.dappReceive hs
  | ranSweep order =>
    obtain ⟨ho, rfl⟩ := of_check hs
    obtain ⟨T, hT⟩ := h.represents
    have hrep := (expireSubscriptions_spec hT n.now ho).1
    exact h.of_ran hrep fun d => (hT.registered d).symm
  | dappSweep i order =>
    obtain ⟨-, rfl⟩ := of_check hs
    exact h.shrink rfl rfl
      (fun j d hj => holdsId_update hj rfl rfl rfl rfl
        (.inl (expireSubscriptions_assigned n.now order _)))
      (fun _ => List.Subset.refl _) h.logged
  | ranSend pdu =>
    obtain rfl := Option.some.inj hs
    exact h.broadcast hc
  | smAck k stamp responseCode cause detail =>
    simp only [step] at hs
    split at hs
    · cases hs
    · rename_i i mid hk
      obtain rfl := Option.some.inj hs
      obtain ⟨T, hT⟩ := h.represents
      have hran : ∀ nextMessageId,
          AddressInv { n with ran := { n.ran with nextMessageId := nextMessageId } } :=
        fun _ => h.of_ran hT fun d => (hT.registered d).symm
      refine (hran _).broadcast fun d hd => ?_
      cases hd
  | attach i =>
    simp only [step] at hs
    split_ifs at hs
    obtain rfl := Option.some.inj hs
    refine h.shrink rfl rfl (fun j d hj => ?_) (update_subset (List.nil_subset _)) h.logged
    by_cases hj' : j = i
    · subst hj'
      simp [HoldsId, DApp.start, DAppSubscriptionState.clearSession] at hj
    · simpa [HoldsId, Function.update_of_ne hj'] using hj
  | detach i =>
    obtain ⟨hatt, rfl⟩ := of_check hs
    refine h.shrink rfl rfl (fun j d hj => ⟨?_, hj.2⟩) (fun _ => List.Subset.refl _) h.logged
    by_cases hj' : j = i
    · exact hj' ▸ hatt
    · simpa [Function.update_of_ne hj'] using hj.1
  | setup i stamp mid => exact h.setup hc hs
  | setupReply i => exact h.setupReply hs

/-- An indication to the dApp with identifier 1. -/
def indication : Pdu where
  type := .indicationMessage
  choice := .indicationMessage ⟨1, 7, [0]⟩
  messageId := 9
  timestamp := 0

end Net

end LibE3
