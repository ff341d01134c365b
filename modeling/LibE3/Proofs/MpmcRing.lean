import LibE3.Proofs.MpmcSteps

/-!
# The ring is a queue

In every run of any number of threads with fewer than `2 ^ 63` calls: the data that the consumer of
a position takes is the data of its producer, no position is taken twice and none is lost, a slot
has one thread at a time, and a call fails only on a slot that was not released, or not filled. With
each claim taken as the push or the pop, the ring is the list queue.
-/

namespace LibE3.MpmcQueue.Traced

variable {τ α : Type} [DecidableEq τ] {q q' : Traced τ α} {t : τ} {pos : ℕ}

/-! ## Comparisons -/

omit [DecidableEq τ] in
theorem pushCompare_eq (h : q.Inv) (hbound : q.heads + q.tails < 2 ^ 63) (data : α)
    (hpos : pos ≤ q.heads) : q.queue.pushCompare data pos
      = if q.sequence pos = pos then .pushExchange data pos
        else if q.sequence pos < pos then .returned (.pushed false) else .pushLoadHead data := by
  have hseq := h.sequence_lt hbound pos
  have hzero : signed (q.sequence pos) - signed pos = 0 ↔ q.sequence pos = pos := by
    rw [signed_eq hseq, signed_eq (by omega)]
    omega
  have hneg : signed (q.sequence pos) - signed pos < 0 ↔ q.sequence pos < pos := by
    rw [signed_eq hseq, signed_eq (by omega)]
    omega
  exact if_congr hzero rfl (if_congr hneg rfl rfl)

omit [DecidableEq τ] in
theorem popCompare_eq (h : q.Inv) (hbound : q.heads + q.tails < 2 ^ 63) (hpos : pos ≤ q.tails) :
    q.queue.popCompare pos
      = if q.sequence pos = pos + 1 then .popExchange pos
        else if q.sequence pos < pos + 1 then .returned .notPopped else .popLoadTail := by
  have hseq := h.sequence_lt hbound pos
  have htails := h.tails_le
  have hzero : signed (q.sequence pos) - signed (wrap (pos + 1)) = 0
      ↔ q.sequence pos = pos + 1 := by
    rw [wrap_eq (by omega), signed_eq hseq, signed_eq (by omega)]
    omega
  have hneg : signed (q.sequence pos) - signed (wrap (pos + 1)) < 0
      ↔ q.sequence pos < pos + 1 := by
    rw [wrap_eq (by omega), signed_eq hseq, signed_eq (by omega)]
    omega
  exact if_congr hzero rfl (if_congr hneg rfl rfl)

/-! ## Steps -/

/-- The steps that claim nothing and write to no slot. -/
inductive Goes (q : Traced τ α) : Pc α → Pc α → Prop
  | loadHead (data : α) : Goes q (.pushLoadHead data) (.pushLoadSequence data q.queue.head)
  | pushCompare (data : α) (pos : ℕ) :
    Goes q (.pushLoadSequence data pos) (q.queue.pushCompare data pos)
  | pushRetry (data : α) (pos : ℕ) :
    Goes q (.pushExchange data pos) (.pushLoadSequence data q.queue.head)
  | loadTail : Goes q .popLoadTail (.popLoadSequence q.queue.tail)
  | popCompare (pos : ℕ) : Goes q (.popLoadSequence pos) (q.queue.popCompare pos)
  | popRetry (pos : ℕ) : Goes q (.popExchange pos) (.popLoadSequence q.queue.tail)
  | sizeHead : Goes q .sizeLoadHead (.sizeLoadTail q.queue.head)
  | sizeTail (h : ℕ) : Goes q (.sizeLoadTail h)
    (.returned (.size (if q.queue.tail ≤ h then h - q.queue.tail else 0)))

/-- Between its calls. -/
def Rests (pc : Pc α) : Prop := pc = .idle ∨ ∃ result, pc = .returned result

/-- Everything that a step of `t` can do. -/
inductive Moved (q : Traced τ α) (t : τ) : Traced τ α → Prop
  | call (op : Op α) (hrests : Rests (q.queue.threads t)) :
    Moved q t ⟨q.queue.goto t op.entry, { q.log with calls := q.log.calls ++ [t] }⟩
  | goes {pc : Pc α} (hgoes : q.Goes (q.queue.threads t) pc) :
    Moved q t ⟨q.queue.goto t pc, q.log⟩
  | claimHead {data : α} {pos : ℕ} (hpc : q.queue.threads t = .pushExchange data pos)
      (hhead : q.queue.head = pos) :
    Moved q t ⟨{ q.queue with head := wrap (pos + 1) }.goto t (.pushMove data pos),
      { q.log with headClaims := q.log.headClaims ++ [(t, data)] }⟩
  | movePush {data : α} {pos : ℕ} (hpc : q.queue.threads t = .pushMove data pos) :
    Moved q t ⟨(q.queue.setSlot pos { q.queue.slot pos with data := some data }).goto t
      (.pushStore pos), q.log⟩
  | storePush {pos : ℕ} (hpc : q.queue.threads t = .pushStore pos) :
    Moved q t ⟨(q.queue.setSlot pos { q.queue.slot pos with sequence := wrap (pos + 1) }).goto t
      (.returned (.pushed true)), { q.log with filled := q.log.filled ++ [pos] }⟩
  | claimTail {pos : ℕ} (hpc : q.queue.threads t = .popExchange pos)
      (htail : q.queue.tail = pos) :
    Moved q t ⟨{ q.queue with tail := wrap (pos + 1) }.goto t (.popMove pos),
      { q.log with tailClaims := q.log.tailClaims ++ [t] }⟩
  | movePop {pos : ℕ} (hpc : q.queue.threads t = .popMove pos) :
    Moved q t ⟨(q.queue.setSlot pos { q.queue.slot pos with data := none }).goto t
      (.popStore pos (q.queue.slot pos).data),
      { q.log with taken := q.log.taken ++ [(pos, t, (q.queue.slot pos).data)] }⟩
  | storePop {pos : ℕ} {data : Option α} (hpc : q.queue.threads t = .popStore pos data) :
    Moved q t ⟨(q.queue.setSlot pos
        { q.queue.slot pos with sequence := wrap (pos + q.queue.capacity) }).goto t
      (.returned (.popped data)), { q.log with freed := q.log.freed ++ [pos] }⟩

theorem moved_of_call {op : Op α} (h : q.step (.call t op) = some q') : q.Moved t q' := by
  obtain ⟨queue, hqueue, rfl⟩ := Option.map_eq_some_iff.mp h
  have hcall : queue = q.queue.goto t op.entry ∧ Rests (q.queue.threads t) := by
    simp only [MpmcQueue.step, MpmcQueue.call] at hqueue
    split at hqueue
    · next hpc => exact ⟨(Option.some.inj hqueue).symm, .inl hpc⟩
    · next result hpc => exact ⟨(Option.some.inj hqueue).symm, .inr ⟨result, hpc⟩⟩
    · cases hqueue
  obtain ⟨rfl, hrests⟩ := hcall
  exact .call op hrests

theorem moved_of_advance {spurious : Bool} (h : q.step (.step t spurious) = some q') :
    q.Moved t q' := by
  obtain ⟨queue, hqueue, rfl⟩ := Option.map_eq_some_iff.mp h
  have goes : ∀ {pc pc'}, q.queue.threads t = pc → q.Goes pc pc' →
      q.Moved t ⟨q.queue.goto t pc', q.log⟩ := fun hpc hgoes => .goes (hpc ▸ hgoes)
  cases hpc : q.queue.threads t with
  | pushExchange data pos =>
    simp only [MpmcQueue.step, advance, hpc] at hqueue
    simp only [Log.record, hpc]
    split_ifs at hqueue ⊢ with hclaim
    · obtain rfl := Option.some.inj hqueue
      exact .claimHead hpc hclaim.1
    · obtain rfl := Option.some.inj hqueue
      exact goes hpc (.pushRetry data pos)
  | popExchange pos =>
    simp only [MpmcQueue.step, advance, hpc] at hqueue
    simp only [Log.record, hpc]
    split_ifs at hqueue ⊢ with hclaim
    · obtain rfl := Option.some.inj hqueue
      exact .claimTail hpc hclaim.1
    · obtain rfl := Option.some.inj hqueue
      exact goes hpc (.popRetry pos)
  | idle => simp [MpmcQueue.step, advance, hpc] at hqueue
  | returned result => simp [MpmcQueue.step, advance, hpc] at hqueue
  | _ =>
    simp only [MpmcQueue.step, advance, hpc, Option.some.injEq] at hqueue
    simp only [Log.record, hpc, ← hqueue]
    first
      | exact .movePush hpc
      | exact .storePush hpc
      | exact .movePop hpc
      | exact .storePop hpc
      | exact goes hpc (by constructor)

theorem moved_of_step {label : Label τ α} (h : q.step label = some q') : ∃ t, q.Moved t q' := by
  cases label with
  | call t op => exact ⟨t, moved_of_call h⟩
  | step t spurious => exact ⟨t, moved_of_advance h⟩

omit [DecidableEq τ] in
theorem Goes.held {pc pc' : Pc α} (h : q.Goes pc pc') : pc.held = none := by
  cases h <;> rfl

omit [DecidableEq τ] in
theorem Goes.threadInv {pc pc' : Pc α} (hgoes : q.Goes pc pc') (h : q.Inv)
    (hbound : q.heads + q.tails < 2 ^ 63) (hpc : q.ThreadInv t pc) : q.ThreadInv t pc' := by
  have hhead := h.head_eq
  have htail := h.tail_eq
  cases hgoes with
  | loadHead data => exact hhead.le
  | pushCompare data pos =>
    rw [pushCompare_eq h hbound data hpc]
    split_ifs with heq hlt
    · exact ⟨hpc, .inl heq⟩
    · trivial
    · trivial
  | pushRetry data pos => exact hhead.le
  | loadTail => exact htail.le
  | popCompare pos =>
    rw [popCompare_eq h hbound hpc]
    split_ifs with heq hlt
    · exact ⟨hpc, .inl heq⟩
    · trivial
    · trivial
  | popRetry pos => exact htail.le
  | sizeHead => exact hhead.le.trans h.heads_le
  | sizeTail n =>
    have hn : n ≤ q.tails + q.queue.capacity := hpc
    show (if q.queue.tail ≤ n then n - q.queue.tail else 0) ≤ q.queue.capacity
    split_ifs <;> omega

theorem Inv.moved (h : q.Inv) (hbound : q.heads + q.tails < 2 ^ 63) (hmoved : q.Moved t q') :
    q'.Inv := by
  cases hmoved with
  | call op hrests =>
    refine h.goto ?_ (by cases op <;> trivial)
    rcases hrests with hpc | ⟨result, hpc⟩ <;> rw [hpc] <;> rfl
  | goes hgoes => exact h.goto hgoes.held (hgoes.threadInv h hbound (h.threads t))
  | claimHead hpc hhead => exact h.claimHead hbound hpc hhead
  | movePush hpc => exact h.movePush hpc
  | storePush hpc => exact h.storePush hbound hpc
  | claimTail hpc htail => exact h.claimTail hbound hpc htail
  | movePop hpc => exact h.movePop hpc
  | storePop hpc => exact h.storePop hbound hpc

/-! ## Claims and calls -/

/-- The claims that a thread may still make in its call. -/
def pending : Pc α → ℕ
  | .pushLoadHead _ => 1
  | .pushLoadSequence _ _ => 1
  | .pushExchange _ _ => 1
  | .popLoadTail => 1
  | .popLoadSequence _ => 1
  | .popExchange _ => 1
  | _ => 0

def claimants (q : Traced τ α) : List τ := q.log.headClaims.map Prod.fst ++ q.log.tailClaims

/-- No thread claims more than once in a call. -/
def Credit (q : Traced τ α) : Prop :=
  ∀ u, q.claimants.count u + pending (q.queue.threads u) ≤ q.log.calls.count u

theorem Credit.claims_le (h : q.Credit) : q.heads + q.tails ≤ q.log.calls.length := by
  have hsub : List.Subperm q.claimants q.log.calls :=
    List.subperm_iff_count.mpr fun u => (Nat.le_add_right _ _).trans (h u)
  have hle := hsub.length_le
  rwa [claimants, List.length_append, List.length_map] at hle

omit [DecidableEq τ] in
theorem Goes.pending_le {pc pc' : Pc α} (h : q.Goes pc pc') : pending pc' ≤ pending pc := by
  cases h with
  | pushCompare data pos =>
    unfold MpmcQueue.pushCompare
    simp only
    split_ifs <;> simp [pending]
  | popCompare pos =>
    unfold MpmcQueue.popCompare
    simp only
    split_ifs <;> simp [pending]
  | _ => simp [pending]

theorem Credit.of_counts (h : q.Credit) {pc : Pc α}
    (hpc : q'.queue.threads = Function.update q.queue.threads t pc) (hother : ∀ u ≠ t,
      q'.claimants.count u ≤ q.claimants.count u ∧ q.log.calls.count u ≤ q'.log.calls.count u)
    (hown : q.claimants.count t + pending (q.queue.threads t) ≤ q.log.calls.count t →
      q'.claimants.count t + pending pc ≤ q'.log.calls.count t) : q'.Credit := by
  intro u
  by_cases hu : u = t
  · subst hu
    rw [hpc, Function.update_self]
    exact hown (h u)
  · have hle := h u
    obtain ⟨hclaims, hcalls⟩ := hother u hu
    rw [hpc, Function.update_of_ne hu]
    omega

theorem Credit.of_claim (h : q.Credit) {pc : Pc α}
    (hpc : q'.queue.threads = Function.update q.queue.threads t pc)
    (hcalls : q'.log.calls = q.log.calls) (hpending : pending (q.queue.threads t) = 1)
    (hzero : pending pc = 0)
    (hcount : ∀ u, q'.claimants.count u = q.claimants.count u + [t].count u) : q'.Credit := by
  refine h.of_counts hpc (fun u hu => ?_) fun hle => ?_
  · rw [hcalls, hcount, List.count_singleton, beq_false_of_ne (Ne.symm hu)]
    exact ⟨le_rfl, le_rfl⟩
  · rw [hcalls, hcount, List.count_singleton_self]
    omega

theorem Credit.moved (h : q.Credit) (hmoved : q.Moved t q') : q'.Credit := by
  have hsame : ∀ u ≠ t, q.claimants.count u ≤ q.claimants.count u
      ∧ q.log.calls.count u ≤ q.log.calls.count u := fun u _ => ⟨le_rfl, le_rfl⟩
  cases hmoved with
  | call op hrests =>
    refine h.of_counts rfl (fun u hu => ⟨le_rfl, ?_⟩) fun hle => ?_
    · exact List.Sublist.count_le u (List.sublist_append_left _ _)
    · have hpending : pending op.entry ≤ 1 := by cases op <;> simp [Op.entry, pending]
      show q.claimants.count t + _ ≤ (q.log.calls ++ [t]).count t
      rw [List.count_append, List.count_singleton_self]
      omega
  | goes hgoes =>
    refine h.of_counts rfl hsame fun hle => ?_
    have hpending := hgoes.pending_le
    show q.claimants.count t + _ ≤ q.log.calls.count t
    omega
  | claimHead hpc hhead =>
    refine h.of_claim rfl rfl (by rw [hpc]; rfl) rfl fun u => ?_
    simp only [claimants, List.map_append, List.map_cons, List.map_nil, List.count_append]
    omega
  | claimTail hpc htail =>
    refine h.of_claim rfl rfl (by rw [hpc]; rfl) rfl fun u => ?_
    simp only [claimants, List.count_append]
    omega
  | _ => exact h.of_counts rfl hsame fun hle => (Nat.le_add_right _ _).trans hle

theorem Moved.calls_le (h : q.Moved t q') : q.log.calls.length ≤ q'.log.calls.length := by
  cases h with
  | call op hrests => exact (List.sublist_append_left _ _).length_le
  | _ => exact le_rfl

/-! ## The queue as a list -/

/-- The queue, when each claim is taken as the push or the pop. -/
def list (q : Traced τ α) : LockFreeQueue α where
  capacity := q.queue.capacity
  ring := (q.log.headClaims.drop q.tails).map Prod.snd
  isShutdown := false

inductive ListStep : LockFreeQueue α → LockFreeQueue α → Prop
  | push {l l' : LockFreeQueue α} (data : α) (h : l.push data = (.success, l')) : ListStep l l'
  | tryPop {l l' : LockFreeQueue α} (data : α) (h : l.tryPop = (some data, l')) : ListStep l l'

/-- A claim of the head is a push, a claim of the tail is a pop, and no other step changes the
list. -/
theorem list_moved (h : q.Inv) (h' : q'.Inv) (hmoved : q.Moved t q') :
    q'.list = q.list ∨ ListStep q.list q'.list := by
  cases hmoved with
  | @claimHead data pos hpc hhead =>
    have hle := h.tails_le
    have hlt : q.heads < q.tails + q.queue.capacity := by
      have hheads := h'.heads_le
      simp only [heads, tails, List.length_append, List.length_singleton] at hheads ⊢
      exact hheads
    refine .inr (.push data ?_)
    have hroom : q.list.ring.length < q.list.capacity := by
      simp only [list, List.length_map, List.length_drop]
      have hlen : q.log.headClaims.length = q.heads := rfl
      omega
    have hring : ((q.log.headClaims ++ [(t, data)]).drop q.tails).map Prod.snd
        = q.list.ring ++ [data] := by
      rw [List.drop_append_of_le_length hle, List.map_append]
      rfl
    have hopen : ¬ q.list.isShutdown = true := Bool.false_ne_true
    rw [LockFreeQueue.push, if_neg hopen, if_pos hroom, ← hring]
    rfl
  | claimTail hpc htail =>
    have hlt : q.tails < q.log.headClaims.length := by
      have htails := h'.tails_le
      simp only [heads, tails, List.length_append, List.length_singleton] at htails ⊢
      exact htails
    refine .inr (.tryPop (q.log.headClaims.get ⟨q.tails, hlt⟩).2 ?_)
    have hdrop : q.list.ring = (q.log.headClaims.get ⟨q.tails, hlt⟩).2
        :: (q.log.headClaims.drop (q.tails + 1)).map Prod.snd := by
      simp only [list]
      rw [List.drop_eq_getElem_cons hlt, List.map_cons]
      rfl
    rw [LockFreeQueue.tryPop, hdrop]
    simp only [list, tails, List.length_append, List.length_singleton, List.head?_cons,
      List.tail_cons, MpmcQueue.goto]
  | _ => exact .inl rfl

/-! ## Runs -/

variable {minCapacity : ℕ}

theorem doubleUntil_pow (h : minCapacity ≤ 2 ^ 62) : ∀ (fuel k : ℕ), k ≤ 62 →
    ∃ j, k ≤ j ∧ j ≤ 62 ∧ doubleUntil minCapacity fuel (2 ^ k) = 2 ^ j
  | 0, k, hk => ⟨k, le_rfl, hk, rfl⟩
  | fuel + 1, k, hk => by
    rw [doubleUntil]
    split_ifs with hlt
    · have hk' : k < 62 := (Nat.pow_lt_pow_iff_right (by decide)).mp (hlt.trans_le h)
      obtain ⟨j, hkj, hj, heq⟩ := doubleUntil_pow h fuel (k + 1) hk'
      rw [← pow_succ', heq]
      exact ⟨j, by omega, hj, rfl⟩
    · exact ⟨k, le_rfl, hk, rfl⟩

omit [DecidableEq τ] in
theorem inv_make (h : minCapacity ≤ 2 ^ 62) :
    (Traced.make minCapacity : Traced τ α).Inv := by
  obtain ⟨k, hk, hle, hc⟩ := doubleUntil_pow h minCapacity 1 (by decide)
  have hcapacity : (Traced.make minCapacity : Traced τ α).queue.capacity = 2 ^ k := hc
  refine
    { capacity := ⟨k, hk, hle, hcapacity⟩
      head_eq := rfl
      tail_eq := rfl
      tails_le := le_rfl
      heads_le := Nat.zero_le _
      slots := fun pos => ⟨pos % 2 ^ k, ?_, Nat.zero_le _, .inl ?_⟩
      threads := fun t => trivial
      filled := fun p hp => nomatch hp
      freed := fun p hp => nomatch hp
      fifo := fun hmem => nomatch hmem
      once := List.nodup_nil
      kept := fun i hi => absurd hi (Nat.not_lt_zero i) }
  · rw [hcapacity, Nat.mod_mod]
  · refine ⟨?_, Nat.zero_le _, ?_⟩
    · exact (and_mask hcapacity pos).trans (by rw [hcapacity])
    · rw [hcapacity]
      exact (Nat.mod_lt pos (Nat.two_pow_pos k)).trans_le (Nat.le_add_left _ _)

/-- What a run keeps: the claims are paid for by calls, and while these are few the invariant holds
and the list is one that pushes and pops lead to. -/
structure Reached (minCapacity : ℕ) (q : Traced τ α) : Prop where
  credit : q.Credit
  inv : q.log.calls.length < 2 ^ 63 → q.Inv
  list : q.log.calls.length < 2 ^ 63 →
    Relation.ReflTransGen ListStep (LockFreeQueue.make minCapacity) q.list

theorem Reached.bound (h : q.Reached minCapacity) (hcalls : q.log.calls.length < 2 ^ 63) :
    q.heads + q.tails < 2 ^ 63 :=
  h.credit.claims_le.trans_lt hcalls

theorem Reached.moved (h : q.Reached minCapacity) (hmoved : q.Moved t q') :
    q'.Reached minCapacity := by
  have hinv : q'.log.calls.length < 2 ^ 63 → q.Inv ∧ q'.Inv := by
    intro hlt
    have hlt' := hmoved.calls_le.trans_lt hlt
    exact ⟨h.inv hlt', (h.inv hlt').moved (h.bound hlt') hmoved⟩
  refine ⟨h.credit.moved hmoved, fun hlt => (hinv hlt).2, fun hlt => ?_⟩
  have hlist := h.list (hmoved.calls_le.trans_lt hlt)
  rcases list_moved (hinv hlt).1 (hinv hlt).2 hmoved with heq | hstep
  · rw [heq]
    exact hlist
  · exact hlist.tail hstep

theorem reached_of_run (minCapacity : ℕ) (hcapacity : minCapacity ≤ 2 ^ 62)
    (labels : List (Label τ α)) (hrun : Runs.run step (Traced.make minCapacity) labels = some q) :
    q.Reached minCapacity := by
  refine Runs.inv (I := Reached minCapacity) (fun h hstep => ?_)
    ⟨fun u => le_rfl, fun _ => inv_make hcapacity, fun _ => .refl⟩ hrun
  obtain ⟨t, hmoved⟩ := moved_of_step hstep
  exact h.moved hmoved

/-! ## Correctness -/

omit [DecidableEq τ] in
theorem Inv.claimed (h : q.Inv) {i : ℕ} (hi : q.tails > i) :
    (∃ u, q.queue.threads u = .popMove i) ∨ i ∈ q.takenPositions := by
  have hproducer : q.sequence i ≠ i := by
    intro hseq
    have hle := (h.free_of_sequence hseq).1.tails_le
    omega
  rcases h.kept i (hi.trans_le h.tails_le) with ⟨u, v, hpc⟩ | ⟨u, hpc⟩ | ⟨hle, -⟩ | hpop | htaken
  · have hinv := h.threads u
    rw [hpc] at hinv
    exact absurd hinv.2 hproducer
  · have hinv := h.threads u
    rw [hpc] at hinv
    exact absurd hinv.2 hproducer
  · omega
  · exact .inl hpop
  · exact .inr htaken

omit [DecidableEq τ] in
theorem pushCompare_full (h : q.Inv) (hbound : q.heads + q.tails < 2 ^ 63) {data : α}
    (hpos : pos ≤ q.heads) (hfull : q.queue.pushCompare data pos = .returned (.pushed false)) :
    q.queue.capacity ≤ pos ∧ pos - q.queue.capacity ∉ q.log.freed := by
  rw [pushCompare_eq h hbound data hpos] at hfull
  split_ifs at hfull with hne hlt
  have hle : q.queue.capacity ≤ pos := by
    obtain ⟨p, hp, -, hfree | hfilled⟩ := h.slots pos
    · rw [hfree.sequence] at hlt
      have hdvd : q.queue.capacity ∣ pos - p := (Nat.modEq_iff_dvd' hlt.le).mp hp
      exact (Nat.le_of_dvd (by omega) hdvd).trans (Nat.sub_le _ _)
    · rw [hfilled.sequence] at hlt
      have hdvd : q.queue.capacity ∣ pos - p := (Nat.modEq_iff_dvd' (by omega)).mp hp
      exact (Nat.le_of_dvd (by omega) hdvd).trans (Nat.sub_le _ _)
  refine ⟨hle, fun hmem => ?_⟩
  have hfreed := h.freed _ hmem
  have hslot : (pos - q.queue.capacity) % q.queue.capacity = pos % q.queue.capacity :=
    (Nat.mod_eq_sub_mod hle).symm
  rw [sequence, h.slot_congr hslot, Nat.sub_add_cancel hle] at hfreed
  exact absurd hlt (Nat.not_lt.mpr hfreed)

omit [DecidableEq τ] in
theorem popCompare_empty (h : q.Inv) (hbound : q.heads + q.tails < 2 ^ 63)
    (hpos : pos ≤ q.tails) (hempty : q.queue.popCompare pos = .returned .notPopped) :
    pos ∉ q.log.filled := by
  rw [popCompare_eq h hbound hpos] at hempty
  split_ifs at hempty with hne hlt
  exact fun hmem => absurd (h.filled pos hmem) (Nat.not_le.mpr hlt)

structure Correct (q : Traced τ α) : Prop where
  head_eq : q.queue.head = q.heads
  tail_eq : q.queue.tail = q.tails
  /-- What the consumer of a position has taken is what its producer gave. -/
  fifo : ∀ i t d, (i, t, d) ∈ q.log.taken → q.log.tailClaims[i]? = some t
    ∧ ∃ u v, q.log.headClaims[i]? = some (u, v) ∧ d = some v
  /-- A claim of the tail takes its data, with its next step. -/
  claimed : ∀ i < q.tails, (∃ u, q.queue.threads u = .popMove i) ∨ i ∈ q.takenPositions
  once : q.takenPositions.Nodup
  kept : ∀ i < q.heads, q.Kept i
  popped : ∀ t d, q.queue.threads t = .returned (.popped d) →
    ∃ (i : ℕ) (u : τ) (v : α), q.log.tailClaims[i]? = some t
      ∧ q.log.headClaims[i]? = some (u, v) ∧ d = some v
  exclusive : ∀ t u i j, (q.queue.threads t).held = some i → (q.queue.threads u).held = some j →
    i &&& q.queue.mask = j &&& q.queue.mask → t = u
  tail_le : q.queue.tail ≤ q.queue.head
  head_le : q.queue.head ≤ q.queue.tail + q.queue.capacity
  size_le : ∀ t n, q.queue.threads t = .returned (.size n) → n ≤ q.queue.capacity
  /-- A push that succeeds returns from a position that it has claimed. -/
  push_true : ∀ t spurious q', q.step (.step t spurious) = some q' →
    q'.queue.threads t = .returned (.pushed true) →
      ∃ (pos : ℕ) (data : α), q.log.headClaims[pos]? = some (t, data) ∧ pos ∈ q'.log.filled
  /-- A push fails at a position of the head whose slot was not released. -/
  push_false : ∀ t spurious q', q.step (.step t spurious) = some q' →
    q'.queue.threads t = .returned (.pushed false) →
      ∃ data pos, q.queue.threads t = .pushLoadSequence data pos ∧ q.queue.capacity ≤ pos
        ∧ pos - q.queue.capacity ∉ q.log.freed
  /-- A pop fails at a position of the tail whose slot was not filled. -/
  pop_false : ∀ t spurious q', q.step (.step t spurious) = some q' →
    q'.queue.threads t = .returned .notPopped →
      ∃ pos, q.queue.threads t = .popLoadSequence pos ∧ pos ∉ q.log.filled

variable {result : Result α}

theorem Moved.returned (h : q.Moved t q') (ht : q'.queue.threads t = .returned result) :
    q.Goes (q.queue.threads t) (.returned result)
      ∨ (∃ pos, q.queue.threads t = .pushStore pos ∧ result = .pushed true
        ∧ pos ∈ q'.log.filled)
      ∨ ∃ pos data, q.queue.threads t = .popStore pos data ∧ result = .popped data := by
  have hself : ∀ {pc}, Function.update q.queue.threads t pc t = .returned result →
      pc = .returned result := fun hpc => (Function.update_self t _ _).symm.trans hpc
  cases h with
  | call op hrests => cases op <;> cases hself ht
  | goes hgoes => exact .inl (hself ht ▸ hgoes)
  | storePush hpc =>
    obtain rfl := Pc.returned.inj (hself ht)
    exact .inr (.inl ⟨_, hpc, rfl, List.mem_append_right _ (List.mem_singleton_self _)⟩)
  | storePop hpc =>
    obtain rfl := Pc.returned.inj (hself ht)
    exact .inr (.inr ⟨_, _, hpc, rfl⟩)
  | _ => cases hself ht

omit [DecidableEq τ] in
theorem Goes.returned {pc : Pc α} (h : q.Goes pc (.returned result)) :
    (∃ data pos, pc = .pushLoadSequence data pos
        ∧ q.queue.pushCompare data pos = .returned result)
      ∨ (∃ pos, pc = .popLoadSequence pos ∧ q.queue.popCompare pos = .returned result)
      ∨ ∃ n, result = .size n := by
  generalize hresult : Pc.returned result = pc' at h
  cases h with
  | pushCompare data pos => exact .inl ⟨data, pos, rfl, rfl⟩
  | popCompare pos => exact .inr (.inl ⟨pos, rfl, rfl⟩)
  | sizeTail n => exact .inr (.inr ⟨_, Pc.returned.inj hresult⟩)
  | _ => cases hresult

omit [DecidableEq τ] in
theorem pushCompare_returned {data : α} (h : q.queue.pushCompare data pos = .returned result) :
    result = .pushed false := by
  unfold MpmcQueue.pushCompare at h
  simp only at h
  split_ifs at h
  exact (Pc.returned.inj h).symm

omit [DecidableEq τ] in
theorem popCompare_returned (h : q.queue.popCompare pos = .returned result) :
    result = .notPopped := by
  unfold MpmcQueue.popCompare at h
  simp only at h
  split_ifs at h
  exact (Pc.returned.inj h).symm

/-- For any number of threads and any interleaving of their steps, the ring is correct in every
state with fewer than `2 ^ 63` calls. -/
theorem correct_of_run (minCapacity : ℕ) (hcapacity : minCapacity ≤ 2 ^ 62)
    (labels : List (Label τ α)) (hrun : Runs.run step (Traced.make minCapacity) labels = some q)
    (hcalls : q.log.calls.length < 2 ^ 63) : q.Correct := by
  have hreached := reached_of_run minCapacity hcapacity labels hrun
  have h := hreached.inv hcalls
  have hbound := hreached.bound hcalls
  have hthread : ∀ {t pc}, q.queue.threads t = pc → q.ThreadInv t pc := by
    rintro t pc rfl
    exact h.threads t
  refine
    { head_eq := h.head_eq
      tail_eq := h.tail_eq
      fifo := fun i t d hmem => h.fifo hmem
      claimed := fun i hi => h.claimed hi
      once := h.once
      kept := h.kept
      popped := fun t d ht => ?_
      exclusive := fun t u i j ht hu hij => ?_
      tail_le := by rw [h.head_eq, h.tail_eq]; exact h.tails_le
      head_le := by rw [h.head_eq, h.tail_eq]; exact h.heads_le
      size_le := fun t n ht => hthread ht
      push_true := fun t spurious q' hstep ht => ?_
      push_false := fun t spurious q' hstep ht => ?_
      pop_false := fun t spurious q' hstep ht => ?_ }
  · obtain ⟨i, hmem⟩ := hthread ht
    obtain ⟨htail, u, v, hhead, hd⟩ := h.fifo hmem
    exact ⟨i, u, v, htail, hhead, hd⟩
  · obtain ⟨k, -, -, hc⟩ := h.capacity
    rw [mask, and_mask hc, and_mask hc] at hij
    exact h.exclusive ht hu hij
  · rcases (moved_of_advance hstep).returned ht with hgoes | ⟨pos, hpc, -, hmem⟩ | ⟨_, _, _, hne⟩
    · rcases hgoes.returned with ⟨data, pos, -, hc⟩ | ⟨pos, -, hc⟩ | ⟨n, hne⟩
      · cases pushCompare_returned hc
      · cases popCompare_returned hc
      · cases hne
    · obtain ⟨⟨data, hclaim, -⟩, -⟩ := hthread hpc
      exact ⟨pos, data, hclaim, hmem⟩
    · cases hne
  · rcases (moved_of_advance hstep).returned ht with hgoes | ⟨_, _, hne, _⟩ | ⟨_, _, _, hne⟩
    · rcases hgoes.returned with ⟨data, pos, hpc, hc⟩ | ⟨pos, -, hc⟩ | ⟨n, hne⟩
      · exact ⟨data, pos, hpc, pushCompare_full h hbound (hthread hpc) hc⟩
      · cases popCompare_returned hc
      · cases hne
    · cases hne
    · cases hne
  · rcases (moved_of_advance hstep).returned ht with hgoes | ⟨_, _, hne, _⟩ | ⟨_, _, _, hne⟩
    · rcases hgoes.returned with ⟨data, pos, -, hc⟩ | ⟨pos, hpc, hc⟩ | ⟨n, hne⟩
      · cases pushCompare_returned hc
      · exact ⟨pos, hpc, popCompare_empty h hbound (hthread hpc) hc⟩
      · cases hne
    · cases hne
    · cases hne

/-- A producer whose exchange first fails spuriously, and a consumer that comes too early and
comes again. -/
def handOver : List (Label Bool ℕ) :=
  [.call false (.tryPush 7), .step false false, .step false false, .step false true,
    .step false false, .step false false, .call true .tryPop, .step true false, .step true false,
    .step false false, .step false false, .call true .tryPop, .step true false, .step true false,
    .step true false, .step true false, .step true false]

theorem handed_over_correct : ∃ q : Traced Bool ℕ,
    Runs.run step (Traced.make 2) handOver = some q ∧ q.log.calls.length = 3
      ∧ q.log.taken = [(0, true, some 7)] ∧ q.Correct := by
  refine ⟨_, rfl, rfl, rfl, ?_⟩
  exact correct_of_run 2 (by decide) handOver rfl (by decide)

end LibE3.MpmcQueue.Traced
