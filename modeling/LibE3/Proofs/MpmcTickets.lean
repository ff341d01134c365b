import LibE3.Lib.TicketRing
import LibE3.Proofs.MpmcRing

/-!
# The ring as a ring of tickets

A claim of the head or of the tail takes a ticket, the store that fills a slot publishes the item of
a ticket, and the store that frees it releases the slot. The other steps change nothing, so a thread
sees the ring as one where these are single steps.
-/

namespace LibE3.MpmcQueue.Traced

variable {τ α : Type} {q q' : Traced τ α} {t : τ} {pos : ℕ}

/-- The ring without its slots: what was published under the tickets, and which are released. -/
def tickets (q : Traced τ α) : TicketRing α where
  capacity := q.queue.capacity
  head := q.queue.head
  tail := q.queue.tail
  slots i := if i ∈ q.log.filled then q.log.headClaims[i]?.map Prod.snd else none
  released i := decide (i ∈ q.log.freed)

/-- What wrote the sequence of the slot of `pos`. -/
inductive Stamp (q : Traced τ α) (pos : ℕ) : Prop
  | new (hlt : q.sequence pos < q.queue.capacity)
      (hmod : q.sequence pos % q.queue.capacity = pos % q.queue.capacity)
  | filled {p : ℕ} (hmem : p ∈ q.log.filled)
      (hmod : p % q.queue.capacity = pos % q.queue.capacity) (hseq : q.sequence pos = p + 1)
  | freed {p : ℕ} (hmem : p ∈ q.log.freed)
      (hmod : p % q.queue.capacity = pos % q.queue.capacity)
      (hseq : q.sequence pos = p + q.queue.capacity)

def Stamped (q : Traced τ α) : Prop := ∀ pos, q.Stamp pos

theorem Stamp.congr (h : q.Stamp pos) {i : ℕ} (hcapacity : q'.queue.capacity = q.queue.capacity)
    (hmod : i % q.queue.capacity = pos % q.queue.capacity) (hseq : q'.sequence i = q.sequence pos)
    (hfilled : q.log.filled ⊆ q'.log.filled) (hfreed : q.log.freed ⊆ q'.log.freed) :
    q'.Stamp i := by
  rcases h with ⟨hlt, hpos⟩ | ⟨hmem, hpos, heq⟩ | ⟨hmem, hpos, heq⟩
  · refine .new ?_ ?_
    · rwa [hseq, hcapacity]
    · rw [hseq, hcapacity, hpos, hmod]
  · exact .filled (hfilled hmem) (by rw [hcapacity, hpos, hmod]) (by rw [hseq, heq])
  · exact .freed (hfreed hmem) (by rw [hcapacity, hpos, hmod]) (by rw [hseq, heq, hcapacity])

/-- A slot that is free for a position was never filled, or was released by the position one round
before. -/
theorem Stamp.room (h : q.Stamp pos) (hinv : q.Inv) (hseq : q.sequence pos = pos) :
    pos < q.queue.capacity ∨ pos - q.queue.capacity ∈ q.log.freed := by
  rcases h with ⟨hlt, -⟩ | ⟨hmem, hmod, heq⟩ | ⟨hmem, hmod, heq⟩
  · exact .inl (hseq ▸ hlt)
  · rw [hseq] at heq
    rw [heq] at hmod
    exact absurd hmod.symm (succ_mod_ne hinv.two_le _)
  · rw [hseq] at heq
    rw [heq, Nat.add_sub_cancel]
    exact .inr hmem

theorem Stamp.ready (h : q.Stamp pos) (hinv : q.Inv) (hseq : q.sequence pos = pos + 1) :
    pos ∈ q.log.filled := by
  have hne := succ_mod_ne hinv.two_le pos
  rcases h with ⟨-, hmod⟩ | ⟨hmem, hmod, heq⟩ | ⟨hmem, hmod, heq⟩
  · rw [hseq] at hmod
    exact absurd hmod hne
  · obtain rfl := Nat.succ_injective (hseq.symm.trans heq)
    exact hmem
  · rw [hseq] at heq
    rw [heq, Nat.add_mod_right] at hne
    exact absurd hmod hne

theorem Inv.filled_lt (h : q.Inv) (hmem : pos ∈ q.log.filled) : pos < q.heads := by
  have hle := h.filled pos hmem
  by_contra hge
  have hheads := h.tails_le
  obtain ⟨p, hmod, -, hfree | hfilled⟩ := h.slots pos
  · have hlt := hfree.lt
    rw [hfree.sequence] at hle
    have hdvd : q.queue.capacity ∣ p - pos := (Nat.modEq_iff_dvd' (by omega)).mp hmod.symm
    have hcapacity := Nat.le_of_dvd (by omega) hdvd
    omega
  · have hlt := hfilled.lt
    rw [hfilled.sequence] at hle
    omega

theorem Inv.sequence_ge (h : q.Inv) (hlt : pos < q.heads) : pos ≤ q.sequence pos := by
  obtain ⟨p, hmod, hle, hcase⟩ := h.slots pos
  have hp : pos ≤ p := by
    by_contra hnot
    have hdvd : q.queue.capacity ∣ pos - p := (Nat.modEq_iff_dvd' (by omega)).mp hmod
    have hcapacity := Nat.le_of_dvd (by omega) hdvd
    omega
  rcases hcase with hfree | hfilled
  · rw [hfree.sequence]
    exact hp
  · rw [hfilled.sequence]
    omega

theorem Inv.sequence_gt (h : q.Inv) (hlt : pos < q.tails) : pos < q.sequence pos := by
  have hge := h.sequence_ge (hlt.trans_le h.tails_le)
  refine lt_of_le_of_ne hge fun heq => ?_
  have hle := (h.free_of_sequence heq.symm).1.tails_le
  omega

variable [DecidableEq τ]

theorem Stamped.setSlot (h : q.Stamped) (hinv : q.Inv) {s : Slot α} {pc : Pc α} {log : Log τ α}
    (hfilled : q.log.filled ⊆ log.filled) (hfreed : q.log.freed ⊆ log.freed)
    (hpos : s.sequence = q.sequence pos ∨ (s.sequence = pos + 1 ∧ pos ∈ log.filled)
      ∨ (s.sequence = pos + q.queue.capacity ∧ pos ∈ log.freed)) :
    (⟨(q.queue.setSlot pos s).goto t pc, log⟩ : Traced τ α).Stamped := by
  intro i
  have hslot := slot_setSlot hinv pos i s
  by_cases hi : i % q.queue.capacity = pos % q.queue.capacity
  · have hseq : (⟨(q.queue.setSlot pos s).goto t pc, log⟩ : Traced τ α).sequence i
        = s.sequence := congrArg Slot.sequence (hslot.trans (if_pos hi))
    rcases hpos with heq | ⟨heq, hmem⟩ | ⟨heq, hmem⟩
    · exact (h pos).congr rfl hi (hseq.trans heq) hfilled hfreed
    · exact .filled hmem hi.symm (hseq.trans heq)
    · exact .freed hmem hi.symm (hseq.trans heq)
  · exact (h i).congr rfl rfl (congrArg Slot.sequence (hslot.trans (if_neg hi))) hfilled hfreed

theorem Stamped.moved (h : q.Stamped) (hinv : q.Inv) (hbound : q.heads + q.tails < 2 ^ 63)
    (hmoved : q.Moved t q') : q'.Stamped := by
  cases hmoved with
  | movePush hpc =>
    exact h.setSlot hinv (List.Subset.refl _) (List.Subset.refl _) (.inl rfl)
  | movePop hpc =>
    exact h.setSlot hinv (List.Subset.refl _) (List.Subset.refl _) (.inl rfl)
  | @storePush pos hpc =>
    have hthread := hinv.threads t
    rw [hpc] at hthread
    obtain ⟨⟨data, hclaim, -⟩, -⟩ := hthread
    have hlt : pos < q.heads := (List.getElem?_eq_some_iff.mp hclaim).1
    refine h.setSlot hinv (List.subset_append_left _ _) (List.Subset.refl _) (.inr (.inl ⟨?_, ?_⟩))
    · exact wrap_eq (by omega)
    · simp
  | @storePop pos data hpc =>
    have hthread := hinv.threads t
    rw [hpc] at hthread
    have hlt : pos < q.tails := (List.getElem?_eq_some_iff.mp hthread.1).1
    have hcapacity := hinv.capacity_le
    refine h.setSlot hinv (List.Subset.refl _) (List.subset_append_left _ _) (.inr (.inr ⟨?_, ?_⟩))
    · exact wrap_eq (by omega)
    · simp
  | _ => exact fun pos => (h pos).congr rfl rfl rfl (List.Subset.refl _) (List.Subset.refl _)

theorem tickets_moved (h : q.Inv) (hs : q.Stamped) (hbound : q.heads + q.tails < 2 ^ 63)
    (hmoved : q.Moved t q') : q'.tickets = q.tickets ∨ TicketRing.Step q.tickets q'.tickets := by
  have hthread := h.threads t
  cases hmoved with
  | @claimHead data pos hpc hhead =>
    rw [hpc] at hthread
    have hpos : pos = q.heads := hhead.symm.trans h.head_eq
    have hseq : q.sequence pos = pos := hthread.2.resolve_right (by omega)
    have hroom : q.tickets.HasRoom := by
      have hcases := (hs pos).room h hseq
      simpa [TicketRing.HasRoom, tickets, hhead] using hcases
    have heq : (⟨{ q.queue with head := wrap (pos + 1) }.goto t (.pushMove data pos),
        { q.log with headClaims := q.log.headClaims ++ [(t, data)] }⟩ : Traced τ α).tickets
          = q.tickets.claimHead := by
      have hwrap : wrap (pos + 1) = q.queue.head + 1 := by
        rw [hhead]
        exact wrap_eq (by omega)
      have hslots : ∀ i ∈ q.log.filled,
          (q.log.headClaims ++ [(t, data)])[i]? = q.log.headClaims[i]? := fun i hi =>
        List.getElem?_append_left (h.filled_lt hi)
      simp only [tickets, TicketRing.claimHead, MpmcQueue.goto, hwrap, TicketRing.mk.injEq,
        true_and, and_true]
      funext i
      split_ifs with hi
      · rw [hslots i hi]
      · rfl
    rw [heq]
    exact .inr (.claimHead hroom)
  | @storePush pos hpc =>
    rw [hpc] at hthread
    obtain ⟨⟨data, hclaim, -⟩, -⟩ := hthread
    have hlt : pos < q.heads := (List.getElem?_eq_some_iff.mp hclaim).1
    have heq : (⟨(q.queue.setSlot pos { q.queue.slot pos with sequence := wrap (pos + 1) }).goto t
        (.returned (.pushed true)), { q.log with filled := q.log.filled ++ [pos] }⟩ :
          Traced τ α).tickets = q.tickets.publish pos data := by
      simp only [tickets, TicketRing.publish, MpmcQueue.goto, setSlot, TicketRing.mk.injEq,
        true_and, and_true]
      funext i
      by_cases hi : i = pos
      · subst hi
        simp [hclaim]
      · simp [hi]
    rw [heq]
    refine .inr (.publish data ?_)
    rw [tickets, h.head_eq]
    exact hlt
  | @claimTail pos hpc htail =>
    rw [hpc] at hthread
    have hpos : pos = q.tails := htail.symm.trans h.tail_eq
    have hseq : q.sequence pos = pos + 1 := hthread.2.resolve_right (by omega)
    have hmem := (hs pos).ready h hseq
    have hlt : pos < q.log.headClaims.length := h.filled_lt hmem
    have htails := h.tails_le
    have hready : q.tickets.Ready := by
      simp [TicketRing.Ready, tickets, htail, hmem, hlt]
    have heq : (⟨{ q.queue with tail := wrap (pos + 1) }.goto t (.popMove pos),
        { q.log with tailClaims := q.log.tailClaims ++ [t] }⟩ : Traced τ α).tickets
          = q.tickets.claimTail := by
      have hwrap : wrap (pos + 1) = q.queue.tail + 1 := by
        rw [htail]
        exact wrap_eq (by omega)
      simp only [tickets, TicketRing.claimTail, MpmcQueue.goto, hwrap]
    rw [heq]
    exact .inr (.claimTail hready)
  | @storePop pos data hpc =>
    rw [hpc] at hthread
    have hlt : pos < q.tails := (List.getElem?_eq_some_iff.mp hthread.1).1
    have heq : (⟨(q.queue.setSlot pos
        { q.queue.slot pos with sequence := wrap (pos + q.queue.capacity) }).goto t
          (.returned (.popped data)), { q.log with freed := q.log.freed ++ [pos] }⟩ :
            Traced τ α).tickets = q.tickets.release pos := by
      simp only [tickets, TicketRing.release, MpmcQueue.goto, setSlot, TicketRing.mk.injEq,
        true_and]
      funext i
      by_cases hi : i = pos
      · simp [hi]
      · simp [hi]
    rw [heq]
    refine .inr (.release ?_)
    rw [tickets, h.tail_eq]
    exact hlt
  | _ => exact .inl rfl

omit [DecidableEq τ] in
theorem full_of_pushCompare (h : q.Inv) (hbound : q.heads + q.tails < 2 ^ 63) {data : α}
    (hpos : pos ≤ q.heads) (hfull : q.queue.pushCompare data pos = .returned (.pushed false)) :
    ¬ q.tickets.HasRoom := by
  obtain ⟨hle, hfreed⟩ := pushCompare_full h hbound hpos hfull
  have hlt : q.sequence pos < pos := by
    rw [pushCompare_eq h hbound data hpos] at hfull
    split_ifs at hfull with hne hlt
    exact hlt
  have heq : pos = q.heads := by
    by_contra hne
    have hge := h.sequence_ge (show pos < q.heads by omega)
    omega
  have hhead := h.head_eq
  rintro (hroom | hroom) <;> simp only [tickets, hhead, ← heq] at hroom
  · omega
  · exact hfreed (of_decide_eq_true hroom)

omit [DecidableEq τ] in
theorem empty_of_popCompare (h : q.Inv) (hbound : q.heads + q.tails < 2 ^ 63)
    (hpos : pos ≤ q.tails) (hempty : q.queue.popCompare pos = .returned .notPopped) :
    ¬ q.tickets.Ready := by
  have hfilled := popCompare_empty h hbound hpos hempty
  have hlt : q.sequence pos < pos + 1 := by
    rw [popCompare_eq h hbound hpos] at hempty
    split_ifs at hempty with hne hlt
    exact hlt
  have heq : pos = q.tails := by
    by_contra hne
    have hgt := h.sequence_gt (show pos < q.tails by omega)
    omega
  have htail := h.tail_eq
  simp [TicketRing.Ready, tickets, htail, ← heq, hfilled]

/-- What a run keeps: while the calls are few, the sequences were written by stores and the tickets
are what steps with tickets lead to. -/
structure Ticketed (minCapacity : ℕ) (q : Traced τ α) : Prop where
  reached : q.Reached minCapacity
  stamped : q.log.calls.length < 2 ^ 63 → q.Stamped
  tickets : q.log.calls.length < 2 ^ 63 →
    Relation.ReflTransGen TicketRing.Step (TicketRing.make (ringCapacity minCapacity)) q.tickets

theorem Ticketed.moved {minCapacity : ℕ} (h : q.Ticketed minCapacity) (hmoved : q.Moved t q') :
    q'.Ticketed minCapacity := by
  have hbefore : q'.log.calls.length < 2 ^ 63 → q.log.calls.length < 2 ^ 63 :=
    hmoved.calls_le.trans_lt
  refine ⟨h.reached.moved hmoved, fun hlt => ?_, fun hlt => ?_⟩
  · have hcalls := hbefore hlt
    exact (h.stamped hcalls).moved (h.reached.inv hcalls) (h.reached.bound hcalls) hmoved
  · have hcalls := hbefore hlt
    rcases tickets_moved (h.reached.inv hcalls) (h.stamped hcalls) (h.reached.bound hcalls) hmoved
      with heq | hstep
    · rw [heq]
      exact h.tickets hcalls
    · exact (h.tickets hcalls).tail hstep

omit [DecidableEq τ] in
theorem stamped_make {minCapacity : ℕ} (h : minCapacity ≤ 2 ^ 62) :
    (Traced.make minCapacity : Traced τ α).Stamped := by
  intro pos
  obtain ⟨k, -, -, hc⟩ := (inv_make h : (Traced.make minCapacity : Traced τ α).Inv).capacity
  have hseq : (Traced.make minCapacity : Traced τ α).sequence pos
      = pos % (Traced.make minCapacity : Traced τ α).queue.capacity := and_mask hc pos
  refine .new ?_ ?_
  · rw [hseq, hc]
    exact Nat.mod_lt pos (Nat.two_pow_pos k)
  · rw [hseq, Nat.mod_mod]

/-- For any number of threads and any interleaving of their steps, the ring does what the ring of
tickets does, and a call fails only where the ring of tickets would not let it succeed. -/
theorem tickets_of_run (minCapacity : ℕ) (hcapacity : minCapacity ≤ 2 ^ 62)
    (labels : List (Label τ α)) (hrun : Runs.run step (Traced.make minCapacity) labels = some q)
    (hcalls : q.log.calls.length < 2 ^ 63) :
    Relation.ReflTransGen TicketRing.Step (TicketRing.make (ringCapacity minCapacity)) q.tickets
      ∧ (∀ t spurious q', q.step (.step t spurious) = some q' →
        q'.queue.threads t = .returned (.pushed false) → ¬ q.tickets.HasRoom)
      ∧ ∀ t spurious q', q.step (.step t spurious) = some q' →
        q'.queue.threads t = .returned .notPopped → ¬ q.tickets.Ready := by
  have hticketed : q.Ticketed minCapacity := by
    refine Runs.inv (I := Ticketed minCapacity) (fun h hstep => ?_)
      ⟨reached_of_run minCapacity hcapacity [] rfl, fun _ => stamped_make hcapacity, fun _ => ?_⟩
      hrun
    · obtain ⟨t, hmoved⟩ := moved_of_step hstep
      exact h.moved hmoved
    · exact .refl
  have hinv := hticketed.reached.inv hcalls
  have hbound := hticketed.reached.bound hcalls
  have hthread : ∀ {t pc}, q.queue.threads t = pc → q.ThreadInv t pc := by
    rintro t pc rfl
    exact hinv.threads t
  refine ⟨hticketed.tickets hcalls, fun t spurious q' hstep ht => ?_,
    fun t spurious q' hstep ht => ?_⟩
  · rcases (moved_of_advance hstep).returned ht with hgoes | ⟨_, _, hne, _⟩ | ⟨_, _, _, hne⟩
    · rcases hgoes.returned with ⟨data, pos, hpc, hc⟩ | ⟨pos, -, hc⟩ | ⟨n, hne⟩
      · exact full_of_pushCompare hinv hbound (hthread hpc) hc
      · cases popCompare_returned hc
      · cases hne
    · cases hne
    · cases hne
  · rcases (moved_of_advance hstep).returned ht with hgoes | ⟨_, _, hne, _⟩ | ⟨_, _, _, hne⟩
    · rcases hgoes.returned with ⟨data, pos, -, hc⟩ | ⟨pos, hpc, hc⟩ | ⟨n, hne⟩
      · cases pushCompare_returned hc
      · exact empty_of_popCompare hinv hbound (hthread hpc) hc
      · cases hne
    · cases hne
    · cases hne

theorem tickets_of_hand_over : ∃ q : Traced Bool ℕ,
    Runs.run step (Traced.make 2) handOver = some q ∧ q.tickets.head = 1
      ∧ Relation.ReflTransGen TicketRing.Step (TicketRing.make (ringCapacity 2)) q.tickets := by
  refine ⟨_, rfl, rfl, ?_⟩
  exact (tickets_of_run 2 (by decide) handOver rfl (by decide)).1

end LibE3.MpmcQueue.Traced
