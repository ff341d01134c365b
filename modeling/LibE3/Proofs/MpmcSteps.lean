import LibE3.Proofs.MpmcInv
import Mathlib.Data.List.Nodup

/-!
# The steps of the ring

Every step of `try_push` and `try_pop` keeps the invariant. Most only move the thread on. A claim
moves the head or the tail; a move writes or reads the data of a claimed slot; a store releases it.
-/

namespace LibE3.MpmcQueue.Traced

variable {τ α : Type} {q : Traced τ α} {t : τ} {pos : ℕ}

theorem wrap_eq {n : ℕ} (h : n < 2 ^ 64) : wrap n = n := Nat.mod_eq_of_lt h

theorem signed_eq {n : ℕ} (h : n < 2 ^ 63) : signed n = n := if_pos h

theorem slot_setSlot (h : q.Inv) (pos i : ℕ) (s : Slot α) :
    (q.queue.setSlot pos s).slot i
      = if i % q.queue.capacity = pos % q.queue.capacity then s else q.queue.slot i := by
  obtain ⟨k, -, -, hc⟩ := h.capacity
  have hmask : ∀ p, p &&& q.queue.mask = p % q.queue.capacity := fun p => and_mask hc p
  unfold slot setSlot
  change Function.update q.queue.buffer (pos &&& q.queue.mask) s (i &&& q.queue.mask) = _
  rw [Function.update_apply, hmask, hmask]

theorem Frame.of_slots {q' : Traced τ α} (hcapacity : q'.queue.capacity = q.queue.capacity)
    (hslot : ∀ i, q'.queue.slot i = q.queue.slot i)
    (hthreads : ∀ u ≠ t, q'.queue.threads u = q.queue.threads u)
    (hhead : q.log.headClaims <+: q'.log.headClaims)
    (htail : q.log.tailClaims <+: q'.log.tailClaims) (htaken : q'.log.taken = q.log.taken) :
    Frame q q' t := by
  have hseq : ∀ i, q'.sequence i = q.sequence i := fun i => congrArg Slot.sequence (hslot i)
  exact
    { capacity := hcapacity
      threads := hthreads
      headClaims := hhead
      tailClaims := htail
      taken := htaken ▸ List.Subset.refl _
      taken_new := fun i hi => by
        rw [takenPositions, htaken] at hi
        exact .inl hi
      slots := fun u _ i _ => hslot i
      grows := fun i => (hseq i).ge
      push := fun i hi => .inl ((hseq i).trans hi)
      pop := fun i hi => .inl ((hseq i).trans hi) }

variable [DecidableEq τ]

/-! ## A thread that moves on -/

theorem Inv.goto (h : q.Inv) {pc : Pc α} {calls : List τ}
    (hheld : (q.queue.threads t).held = none) (hpc : q.ThreadInv t pc) :
    (⟨q.queue.goto t pc, { q.log with calls := calls }⟩ : Traced τ α).Inv := by
  have hf : Frame q ⟨q.queue.goto t pc, { q.log with calls := calls }⟩ t :=
    .of_slots rfl (fun _ => rfl) (fun u hu => Function.update_of_ne hu _ _)
      (List.prefix_refl _) (List.prefix_refl _) rfl
  have hown : (⟨q.queue.goto t pc, { q.log with calls := calls }⟩ : Traced τ α).ThreadInv t
      ((q.queue.goto t pc).threads t) := by
    have hself : (q.queue.goto t pc).threads t = pc := Function.update_self t _ _
    rw [hself]
    cases pc with
    | returned result => cases result <;> exact hpc
    | _ => exact hpc
  exact
    { capacity := h.capacity
      head_eq := h.head_eq
      tail_eq := h.tail_eq
      tails_le := h.tails_le
      heads_le := h.heads_le
      slots := fun pos => by
        obtain ⟨p, hp, hle, hfree | hfilled⟩ := h.slots pos
        · exact ⟨p, hp, hle, .inl ⟨hfree.sequence, hfree.tails_le, hfree.lt⟩⟩
        · exact ⟨p, hp, hle, .inr ⟨hfilled.sequence, hfilled.lt, hfilled.data⟩⟩
      threads := hf.threads_inv h hown
      filled := h.filled
      freed := h.freed
      fifo := h.fifo
      once := h.once
      kept := fun i hi => hf.kept (h.kept i hi) (fun hown => by rw [hheld] at hown; cases hown)
        fun htails hseq hcarries => .inr (.inr (.inl ⟨htails, hseq, hcarries⟩)) }

/-! ## Claims -/

theorem Inv.claimHead (h : q.Inv) {data : α} (hbound : q.heads + q.tails < 2 ^ 63)
    (ht : q.queue.threads t = .pushExchange data pos) (hhead : q.queue.head = pos) :
    (⟨{ q.queue with head := wrap (pos + 1) }.goto t (.pushMove data pos),
      { q.log with headClaims := q.log.headClaims ++ [(t, data)] }⟩ : Traced τ α).Inv := by
  have hpos : pos = q.heads := hhead.symm.trans h.head_eq
  have hinv := h.threads t
  rw [ht] at hinv
  have hseq : q.sequence pos = pos := hinv.2.resolve_right (by omega)
  obtain ⟨hfree, -⟩ := h.free_of_sequence hseq
  have hlt := hfree.lt
  have htwo := h.two_le
  set q' : Traced τ α := ⟨{ q.queue with head := wrap (pos + 1) }.goto t (.pushMove data pos),
    { q.log with headClaims := q.log.headClaims ++ [(t, data)] }⟩ with hq'
  have hheads : q'.heads = q.heads + 1 := List.length_append
  have hclaim : q'.log.headClaims[pos]? = some (t, data) := by
    rw [hpos]
    exact List.getElem?_concat_length
  have hself : q'.queue.threads t = .pushMove data pos := Function.update_self t _ _
  have hf : Frame q q' t :=
    .of_slots rfl (fun _ => rfl) (fun u hu => Function.update_of_ne hu _ _)
      (List.prefix_append _ _) (List.prefix_refl _) rfl
  exact
    { capacity := h.capacity
      head_eq := by
        rw [hheads, ← hpos]
        exact wrap_eq (by omega)
      tail_eq := h.tail_eq
      tails_le := h.tails_le.trans hf.heads_le
      heads_le := by
        rw [hheads]
        change q.heads + 1 ≤ q.tails + q.queue.capacity
        omega
      slots := fun i => by
        obtain ⟨p, hp, hle, hcase⟩ := h.slots i
        refine ⟨p, hp, ?_, ?_⟩
        · rw [hheads]
          change q.heads + 1 ≤ p + q.queue.capacity
          -- the slot of the claimed position is free for it, and others are not reached yet
          by_cases hi : i % q.queue.capacity = pos % q.queue.capacity
          · have hslot : q.sequence i = pos :=
              (congrArg Slot.sequence (h.slot_congr hi)).trans hseq
            rcases hcase with hfree | hfilled
            · have hp' : p = pos := hfree.sequence.symm.trans hslot
              omega
            · have hp' : p + 1 = pos := hfilled.sequence.symm.trans hslot
              omega
          · have hne : p + q.queue.capacity ≠ pos := fun heq => hi (by
              rw [← hp, ← heq, Nat.add_mod_right])
            omega
        · rcases hcase with hfree | hfilled
          · exact .inl ⟨hfree.sequence, hfree.tails_le, hfree.lt⟩
          · exact .inr ⟨hfilled.sequence, hfilled.lt.trans_le hf.heads_le,
              fun htails => hf.carries rfl (hfilled.data htails)⟩
      threads := hf.threads_inv h (by
        rw [hself]
        exact ⟨hclaim, hseq⟩)
      filled := h.filled
      freed := h.freed
      fifo := fun hmem => by
        obtain ⟨htail, u, v, hv, hd⟩ := h.fifo hmem
        exact ⟨htail, u, v, getElem?_of_grown hf.headClaims hv, hd⟩
      once := h.once
      kept := fun i hi => by
        rw [hheads] at hi
        by_cases hiq : i < q.heads
        · refine hf.kept (h.kept i hiq) (fun hown => ?_) fun htails hseq hcarries =>
            .inr (.inr (.inl ⟨htails, hseq, hf.carries rfl hcarries⟩))
          rw [ht] at hown
          cases hown
        · have hi' : i = pos := by omega
          exact .inl ⟨t, data, hi' ▸ hself⟩ }

theorem Inv.claimTail (h : q.Inv) (hbound : q.heads + q.tails < 2 ^ 63)
    (ht : q.queue.threads t = .popExchange pos) (htail : q.queue.tail = pos) :
    (⟨{ q.queue with tail := wrap (pos + 1) }.goto t (.popMove pos),
      { q.log with tailClaims := q.log.tailClaims ++ [t] }⟩ : Traced τ α).Inv := by
  have hpos : pos = q.tails := htail.symm.trans h.tail_eq
  have hinv := h.threads t
  rw [ht] at hinv
  have hseq : q.sequence pos = pos + 1 := hinv.2.resolve_right (by omega)
  obtain ⟨hfilled, -⟩ := h.filled_of_sequence hseq
  have hlt := hfilled.lt
  have hheadsLe := h.heads_le
  set q' : Traced τ α := ⟨{ q.queue with tail := wrap (pos + 1) }.goto t (.popMove pos),
    { q.log with tailClaims := q.log.tailClaims ++ [t] }⟩ with hq'
  have htails : q'.tails = q.tails + 1 := List.length_append
  have hclaim : q'.log.tailClaims[pos]? = some t := by
    rw [hpos]
    exact List.getElem?_concat_length
  have hself : q'.queue.threads t = .popMove pos := Function.update_self t _ _
  have hf : Frame q q' t :=
    .of_slots rfl (fun _ => rfl) (fun u hu => Function.update_of_ne hu _ _)
      (List.prefix_refl _) (List.prefix_append _ _) rfl
  have hnot : pos ∉ q.takenPositions := fun hmem => by
    obtain ⟨⟨i, u, d⟩, hx, hi⟩ := List.mem_map.mp hmem
    obtain ⟨hlen, -⟩ := List.getElem?_eq_some_iff.mp (h.fifo hx).1
    have hi' : i = pos := hi
    have hlen' : i < q.tails := hlen
    omega
  exact
    { capacity := h.capacity
      head_eq := h.head_eq
      tail_eq := by
        rw [htails, ← hpos]
        exact wrap_eq (by omega)
      tails_le := by
        rw [htails]
        change q.tails + 1 ≤ q.heads
        omega
      heads_le := by
        rw [htails]
        change q.heads ≤ q.tails + 1 + q.queue.capacity
        omega
      slots := fun i => by
        obtain ⟨p, hp, hle, hfree | hfilled⟩ := h.slots i
        · refine ⟨p, hp, hle, .inl ⟨hfree.sequence, ?_, ?_⟩⟩
          · -- the slot of the claimed position is not free
            have hne : p ≠ pos := fun heq => by
              have hslot := congrArg Slot.sequence (h.slot_congr (heq ▸ hp))
              have hp' : q.sequence pos = p := hslot.trans hfree.sequence
              omega
            have hge := hfree.tails_le
            rw [htails]
            omega
          · have hlt := hfree.lt
            rw [htails]
            change p < q.tails + 1 + q.queue.capacity
            omega
        · exact ⟨p, hp, hle, .inr ⟨hfilled.sequence, hfilled.lt, fun hge =>
            hfilled.data (hf.tails_le.trans hge)⟩⟩
      threads := hf.threads_inv h (by
        rw [hself]
        exact ⟨hclaim, hseq, hfilled.data hpos.ge, hnot⟩)
      filled := h.filled
      freed := h.freed
      fifo := fun hmem => by
        obtain ⟨htail, hv⟩ := h.fifo hmem
        exact ⟨getElem?_of_grown hf.tailClaims htail, hv⟩
      once := h.once
      kept := fun i hi => by
        by_cases hip : i = pos
        · exact .inr (.inr (.inr (.inl ⟨t, hip ▸ hself⟩)))
        · refine hf.kept (h.kept i hi) (fun hown => ?_) fun hge hseq hcarries =>
            .inr (.inr (.inl ⟨by rw [htails]; omega, hseq, hcarries⟩))
          rw [ht] at hown
          cases hown }

/-! ## Claimed slots -/

omit [DecidableEq τ] in
theorem Inv.other_slot (h : q.Inv) {u : τ} {i : ℕ} (hheld : (q.queue.threads t).held = some pos)
    (hu : u ≠ t) (hi : (q.queue.threads u).held = some i) :
    i % q.queue.capacity ≠ pos % q.queue.capacity :=
  fun heq => hu (h.exclusive hi hheld heq)

theorem frame_setSlot (h : q.Inv) {s : Slot α} {pc : Pc α} {log : Log τ α}
    (hheld : (q.queue.threads t).held = some pos) (hhead : log.headClaims = q.log.headClaims)
    (htail : log.tailClaims = q.log.tailClaims) (htaken : q.log.taken ⊆ log.taken)
    (hnew : ∀ i ∈ log.taken.map Prod.fst, i ∈ q.takenPositions ∨ i = pos)
    (hgrows : q.sequence pos ≤ s.sequence)
    (hpush : q.sequence pos = pos → s.sequence = pos ∨ pos < q.heads)
    (hpop : q.sequence pos = pos + 1 → s.sequence = pos + 1 ∨ pos < q.tails) :
    Frame q ⟨(q.queue.setSlot pos s).goto t pc, log⟩ t := by
  set q' : Traced τ α := ⟨(q.queue.setSlot pos s).goto t pc, log⟩ with hq'
  have hslot : ∀ i, q'.queue.slot i
      = if i % q.queue.capacity = pos % q.queue.capacity then s else q.queue.slot i := fun i =>
    slot_setSlot h pos i s
  have hother : ∀ i, i % q.queue.capacity ≠ pos % q.queue.capacity →
      q'.queue.slot i = q.queue.slot i := fun i hi => (hslot i).trans (if_neg hi)
  have hmine : ∀ i, i % q.queue.capacity = pos % q.queue.capacity →
      q'.sequence i = s.sequence := fun i hi =>
    congrArg Slot.sequence ((hslot i).trans (if_pos hi))
  have hsame : ∀ i, i % q.queue.capacity = pos % q.queue.capacity →
      q.sequence i = q.sequence pos := fun i hi => congrArg Slot.sequence (h.slot_congr hi)
  have hheads : q'.heads = q.heads := congrArg List.length hhead
  have htails : q'.tails = q.tails := congrArg List.length htail
  exact
    { capacity := rfl
      threads := fun u hu => Function.update_of_ne hu _ _
      headClaims := hhead ▸ List.prefix_refl _
      tailClaims := htail ▸ List.prefix_refl _
      taken := htaken
      taken_new := fun i hi => by
        rcases hnew i hi with hold | rfl
        · exact .inl hold
        · exact .inr hheld
      slots := fun u hu i hi => hother i (h.other_slot hheld hu hi)
      grows := fun i => by
        by_cases hi : i % q.queue.capacity = pos % q.queue.capacity
        · rw [hsame i hi, hmine i hi]
          exact hgrows
        · exact (congrArg Slot.sequence (hother i hi)).ge
      push := fun i hseq => by
        by_cases hi : i % q.queue.capacity = pos % q.queue.capacity
        · have hpos : i = pos := by
            have hsame := hsame i hi
            rcases h.held hheld with ⟨-, hp⟩ | ⟨-, hp⟩
            · omega
            · have heq : i = pos + 1 := by omega
              exact absurd (heq ▸ hi) (succ_mod_ne h.two_le pos)
          subst hpos
          rw [hmine i hi, hheads]
          exact hpush hseq
        · exact .inl ((congrArg Slot.sequence (hother i hi)).trans hseq)
      pop := fun i hseq => by
        by_cases hi : i % q.queue.capacity = pos % q.queue.capacity
        · have hpos : i = pos := by
            have hsame := hsame i hi
            rcases h.held hheld with ⟨-, hp⟩ | ⟨-, hp⟩
            · have heq : pos = i + 1 := by omega
              exact absurd (heq ▸ hi).symm (succ_mod_ne h.two_le i)
            · omega
          subst hpos
          rw [hmine i hi, htails]
          exact hpop hseq
        · exact .inl ((congrArg Slot.sequence (hother i hi)).trans hseq) }

omit [DecidableEq τ] in
theorem Frame.slots_setSlot {q' : Traced τ α} (hf : Frame q q' t) (h : q.Inv)
    (hheads : q'.heads = q.heads) (htails : q'.tails = q.tails)
    (hslot : ∀ i, q'.queue.slot i = if i % q.queue.capacity = pos % q.queue.capacity
      then q'.queue.slot pos else q.queue.slot i)
    (hpos : ∃ p, p % q.queue.capacity = pos % q.queue.capacity ∧ q.heads ≤ p + q.queue.capacity
      ∧ (q'.FreeFor pos p ∨ q'.FilledWith pos p)) :
    ∀ i, ∃ p, p % q'.queue.capacity = i % q'.queue.capacity
      ∧ q'.heads ≤ p + q'.queue.capacity ∧ (q'.FreeFor i p ∨ q'.FilledWith i p) := by
  intro i
  have hcap := hf.capacity
  rw [hcap, hheads]
  by_cases hi : i % q.queue.capacity = pos % q.queue.capacity
  · have hsame : q'.queue.slot i = q'.queue.slot pos := (hslot i).trans (if_pos hi)
    have hseq : q'.sequence i = q'.sequence pos := congrArg Slot.sequence hsame
    obtain ⟨p, hp, hle, hfree | hfilled⟩ := hpos
    · exact ⟨p, hp.trans hi.symm, hle, .inl ⟨hseq.trans hfree.sequence, hfree.tails_le, hfree.lt⟩⟩
    · refine ⟨p, hp.trans hi.symm, hle,
        .inr ⟨hseq.trans hfilled.sequence, hfilled.lt, fun hge => ?_⟩⟩
      obtain ⟨u, v, hclaim, hdata⟩ := hfilled.data hge
      exact ⟨u, v, hclaim, (congrArg Slot.data hsame).trans hdata⟩
  · have hsame : q'.queue.slot i = q.queue.slot i := (hslot i).trans (if_neg hi)
    have hseq : q'.sequence i = q.sequence i := congrArg Slot.sequence hsame
    obtain ⟨p, hp, hle, hfree | hfilled⟩ := h.slots i
    · refine ⟨p, hp, hle, .inl ⟨hseq.trans hfree.sequence, ?_, ?_⟩⟩
      · rw [htails]
        exact hfree.tails_le
      · rw [htails, hcap]
        exact hfree.lt
    · refine ⟨p, hp, hle, .inr ⟨hseq.trans hfilled.sequence, ?_, fun hge => ?_⟩⟩
      · rw [hheads]
        exact hfilled.lt
      · rw [htails] at hge
        exact hf.carries hsame (hfilled.data hge)

omit [DecidableEq τ] in
theorem Inv.filled_other (h : q.Inv) {i : ℕ} (hheld : (q.queue.threads t).held = some pos)
    (hge : q.tails ≤ i) (hseq : q.sequence i = i + 1) :
    i % q.queue.capacity ≠ pos % q.queue.capacity := by
  intro hi
  have hsame : q.sequence i = q.sequence pos := congrArg Slot.sequence (h.slot_congr hi)
  rcases h.held hheld with ⟨-, hp⟩ | ⟨hclaim, hp⟩
  · have heq : pos = i + 1 := by omega
    exact succ_mod_ne h.two_le i (heq ▸ hi).symm
  · have hlt : pos < q.tails := (List.getElem?_eq_some_iff.mp hclaim).1
    omega

section

variable {s : Slot α} {pc : Pc α} {log : Log τ α}

theorem Inv.writeSlot (h : q.Inv) (hheld : (q.queue.threads t).held = some pos)
    (hhead : log.headClaims = q.log.headClaims) (htail : log.tailClaims = q.log.tailClaims)
    (hf : Frame q ⟨(q.queue.setSlot pos s).goto t pc, log⟩ t)
    (hpos : ∃ p, p % q.queue.capacity = pos % q.queue.capacity ∧ q.heads ≤ p + q.queue.capacity
      ∧ ((⟨(q.queue.setSlot pos s).goto t pc, log⟩ : Traced τ α).FreeFor pos p
        ∨ (⟨(q.queue.setSlot pos s).goto t pc, log⟩ : Traced τ α).FilledWith pos p))
    (hown : (⟨(q.queue.setSlot pos s).goto t pc, log⟩ : Traced τ α).ThreadInv t pc)
    (hfilled : ∀ p ∈ log.filled, p ∈ q.log.filled ∨ p = pos ∧ pos + 1 ≤ s.sequence)
    (hfreed : ∀ p ∈ log.freed,
      p ∈ q.log.freed ∨ p = pos ∧ pos + q.queue.capacity ≤ s.sequence)
    (hfifo : ∀ {i u d}, (i, u, d) ∈ log.taken → q.log.tailClaims[i]? = some u
      ∧ ∃ p v, q.log.headClaims[i]? = some (p, v) ∧ d = some v)
    (honce : (log.taken.map Prod.fst).Nodup)
    (hkept : (⟨(q.queue.setSlot pos s).goto t pc, log⟩ : Traced τ α).Kept pos) :
    (⟨(q.queue.setSlot pos s).goto t pc, log⟩ : Traced τ α).Inv := by
  set q' : Traced τ α := ⟨(q.queue.setSlot pos s).goto t pc, log⟩ with hq'
  have hslot : ∀ i, q'.queue.slot i = if i % q.queue.capacity = pos % q.queue.capacity
      then s else q.queue.slot i := fun i => slot_setSlot h pos i s
  have hmine : q'.queue.slot pos = s := (hslot pos).trans (if_pos rfl)
  have hheads : q'.heads = q.heads := congrArg List.length hhead
  have htails : q'.tails = q.tails := congrArg List.length htail
  have hself : q'.queue.threads t = pc := Function.update_self t _ _
  exact
    { capacity := h.capacity
      head_eq := h.head_eq.trans hheads.symm
      tail_eq := h.tail_eq.trans htails.symm
      tails_le := by
        rw [hheads, htails]
        exact h.tails_le
      heads_le := by
        rw [hheads, htails]
        exact h.heads_le
      slots := hf.slots_setSlot h hheads htails (fun i => by rw [hslot, hmine]) hpos
      threads := hf.threads_inv h (hself ▸ hown)
      filled := fun p hp => by
        rcases hfilled p hp with hold | ⟨rfl, hle⟩
        · exact (h.filled p hold).trans (hf.grows p)
        · rw [sequence, hmine]
          exact hle
      freed := fun p hp => by
        rcases hfreed p hp with hold | ⟨rfl, hle⟩
        · exact (h.freed p hold).trans (hf.grows p)
        · rw [sequence, hmine]
          exact hle
      fifo := fun hmem => by
        change log.tailClaims[_]? = _ ∧ ∃ p v, log.headClaims[_]? = _ ∧ _
        rw [hhead, htail]
        exact hfifo hmem
      once := honce
      kept := fun i hi => by
        refine hf.kept (h.kept i (hheads ▸ hi)) (fun hmem => ?_) fun hge hseq hcarries => ?_
        · rw [hheld] at hmem
          obtain rfl := Option.some.inj hmem
          exact hkept
        · have hother : q'.queue.slot i = q.queue.slot i :=
            (hslot i).trans (if_neg (h.filled_other hheld hge hseq))
          refine .inr (.inr (.inl ⟨?_, (congrArg Slot.sequence hother).trans hseq,
            hf.carries hother hcarries⟩))
          rw [htails]
          exact hge }

omit [DecidableEq τ] in
theorem held_of_threads {i : ℕ} (ht : q.queue.threads t = pc) (hpc : pc.held = some i) :
    (q.queue.threads t).held = some i := by
  rw [ht, hpc]

theorem slot_written (h : q.Inv) (t : τ) (pos : ℕ) (s : Slot α) (pc : Pc α) :
    ((q.queue.setSlot pos s).goto t pc).slot pos = s :=
  (slot_setSlot h pos pos s).trans (if_pos rfl)

end

theorem Inv.movePush (h : q.Inv) {data : α} (ht : q.queue.threads t = .pushMove data pos) :
    (⟨(q.queue.setSlot pos { q.queue.slot pos with data := some data }).goto t (.pushStore pos),
      q.log⟩ : Traced τ α).Inv := by
  have hheld := held_of_threads ht rfl
  obtain ⟨hclaim, hseq⟩ : q.log.headClaims[pos]? = some (t, data) ∧ q.sequence pos = pos := by
    have hinv := h.threads t
    rwa [ht] at hinv
  obtain ⟨hfree, hle⟩ := h.free_of_sequence hseq
  have hslot := slot_written h t pos { q.queue.slot pos with data := some data } (.pushStore pos)
  refine h.writeSlot hheld rfl rfl ?_ ?_ ?_ (fun p hp => .inl hp) (fun p hp => .inl hp) h.fifo
    h.once ?_
  · exact frame_setSlot h hheld rfl rfl (List.Subset.refl _) (fun i hi => .inl hi) (le_refl _)
      .inl .inl
  · exact ⟨pos, rfl, hle, .inl ⟨(congrArg Slot.sequence hslot).trans hseq, hfree.tails_le,
      hfree.lt⟩⟩
  · exact ⟨⟨data, hclaim, congrArg Slot.data hslot⟩, (congrArg Slot.sequence hslot).trans hseq⟩
  · exact .inr (.inl ⟨t, Function.update_self t _ _⟩)

theorem Inv.storePush (h : q.Inv) (hbound : q.heads + q.tails < 2 ^ 63)
    (ht : q.queue.threads t = .pushStore pos) :
    (⟨(q.queue.setSlot pos { q.queue.slot pos with sequence := wrap (pos + 1) }).goto t
        (.returned (.pushed true)),
      { q.log with filled := q.log.filled ++ [pos] }⟩ : Traced τ α).Inv := by
  have hheld := held_of_threads ht rfl
  obtain ⟨⟨data, hclaim, hdata⟩, hseq⟩ : (∃ data, q.log.headClaims[pos]? = some (t, data)
      ∧ q.data pos = some data) ∧ q.sequence pos = pos := by
    have hinv := h.threads t
    rwa [ht] at hinv
  obtain ⟨hfree, hle⟩ := h.free_of_sequence hseq
  have hlt : pos < q.heads := (List.getElem?_eq_some_iff.mp hclaim).1
  rw [wrap_eq (show pos + 1 < 2 ^ 64 by omega)]
  have hslot := slot_written h t pos { q.queue.slot pos with sequence := pos + 1 }
    (.returned (.pushed true))
  refine h.writeSlot hheld rfl rfl ?_ ?_ trivial (fun p hp => ?_) (fun p hp => .inl hp) h.fifo
    h.once ?_
  · exact frame_setSlot h hheld rfl rfl (List.Subset.refl _) (fun i hi => .inl hi)
      (hseq.le.trans (Nat.le_succ pos)) (fun _ => .inr hlt) (fun _ => .inl rfl)
  · exact ⟨pos, rfl, hle, .inr ⟨congrArg Slot.sequence hslot, hlt, fun _ =>
      ⟨t, data, hclaim, (congrArg Slot.data hslot).trans hdata⟩⟩⟩
  · rcases List.mem_append.mp hp with hp | hp
    · exact .inl hp
    · exact .inr ⟨List.mem_singleton.mp hp, le_refl _⟩
  · exact .inr (.inr (.inl ⟨hfree.tails_le, congrArg Slot.sequence hslot,
      ⟨t, data, hclaim, (congrArg Slot.data hslot).trans hdata⟩⟩))

theorem Inv.movePop (h : q.Inv) (ht : q.queue.threads t = .popMove pos) :
    (⟨(q.queue.setSlot pos { q.queue.slot pos with data := none }).goto t
        (.popStore pos (q.queue.slot pos).data),
      { q.log with taken := q.log.taken ++ [(pos, t, (q.queue.slot pos).data)] }⟩ :
      Traced τ α).Inv := by
  have hheld := held_of_threads ht rfl
  obtain ⟨hclaim, hseq, ⟨u, v, hv, hdata⟩, hnot⟩ : q.log.tailClaims[pos]? = some t
      ∧ q.sequence pos = pos + 1 ∧ q.Carries pos pos ∧ pos ∉ q.takenPositions := by
    have hinv := h.threads t
    rwa [ht] at hinv
  obtain ⟨hfilled, hle⟩ := h.filled_of_sequence hseq
  have hlt : pos < q.tails := (List.getElem?_eq_some_iff.mp hclaim).1
  have hslot := slot_written h t pos { q.queue.slot pos with data := none }
    (.popStore pos (q.queue.slot pos).data)
  refine h.writeSlot hheld rfl rfl ?_ ?_ ?_ (fun p hp => .inl hp) (fun p hp => .inl hp)
    (fun hmem => ?_) ?_ ?_
  · refine frame_setSlot h hheld rfl rfl (List.subset_append_left _ _) (fun i hi => ?_) (le_refl _)
      .inl .inl
    rw [List.map_append, List.mem_append] at hi
    rcases hi with hi | hi
    · exact .inl hi
    · exact .inr (List.mem_singleton.mp hi)
  · exact ⟨pos, rfl, hle, .inr ⟨(congrArg Slot.sequence hslot).trans hseq, hfilled.lt, fun hge =>
      absurd (show q.tails ≤ pos from hge) (by omega)⟩⟩
  · exact ⟨hclaim, (congrArg Slot.sequence hslot).trans hseq,
      List.mem_append_right _ List.mem_cons_self⟩
  · rcases List.mem_append.mp hmem with hmem | hmem
    · exact h.fifo hmem
    · obtain ⟨rfl, rfl, rfl⟩ := Prod.mk.inj (List.mem_singleton.mp hmem)
      exact ⟨hclaim, u, v, hv, hdata⟩
  · rw [List.map_append]
    refine List.nodup_append.mpr ⟨h.once, List.nodup_singleton _, fun i hi j hj heq => ?_⟩
    obtain rfl := List.mem_singleton.mp hj
    exact hnot (heq ▸ hi)
  · refine .inr (.inr (.inr (.inr ?_)))
    rw [takenPositions, List.map_append]
    exact List.mem_append_right _ List.mem_cons_self

theorem Inv.storePop (h : q.Inv) (hbound : q.heads + q.tails < 2 ^ 63) {data : Option α}
    (ht : q.queue.threads t = .popStore pos data) :
    (⟨(q.queue.setSlot pos
          { q.queue.slot pos with sequence := wrap (pos + q.queue.capacity) }).goto t
        (.returned (.popped data)),
      { q.log with freed := q.log.freed ++ [pos] }⟩ : Traced τ α).Inv := by
  have hheld := held_of_threads ht rfl
  obtain ⟨hclaim, hseq, htaken⟩ : q.log.tailClaims[pos]? = some t
      ∧ q.sequence pos = pos + 1 ∧ (pos, t, data) ∈ q.log.taken := by
    have hinv := h.threads t
    rwa [ht] at hinv
  obtain ⟨hfilled, hle⟩ := h.filled_of_sequence hseq
  have hlt : pos < q.tails := (List.getElem?_eq_some_iff.mp hclaim).1
  have hcap := h.capacity_le
  have htwo := h.two_le
  have htails := h.tails_le
  rw [wrap_eq (show pos + q.queue.capacity < 2 ^ 64 by omega)]
  have hslot := slot_written h t pos
    { q.queue.slot pos with sequence := pos + q.queue.capacity } (.returned (.popped data))
  refine h.writeSlot hheld rfl rfl ?_ ?_ ?_ (fun p hp => .inl hp) (fun p hp => ?_) h.fifo h.once ?_
  · refine frame_setSlot h hheld rfl rfl (List.Subset.refl _) (fun i hi => .inl hi) ?_
      (fun hpos => ?_) (fun _ => .inr hlt)
    · rw [hseq]
      change pos + 1 ≤ pos + q.queue.capacity
      omega
    · omega
  · refine ⟨pos + q.queue.capacity, Nat.add_mod_right _ _, by omega,
      .inl ⟨congrArg Slot.sequence hslot, ?_, ?_⟩⟩
    · exact htails.trans hle
    · exact Nat.add_lt_add_right hlt _
  · exact ⟨pos, htaken⟩
  · rcases List.mem_append.mp hp with hp | hp
    · exact .inl hp
    · exact .inr ⟨List.mem_singleton.mp hp, le_refl _⟩
  · exact .inr (.inr (.inr (.inr (List.mem_map_of_mem htaken))))

end LibE3.MpmcQueue.Traced
