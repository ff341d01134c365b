import LibE3.Lib.Runs
import LibE3.MpmcQueue
import Mathlib.Data.List.Perm.Subperm
import Mathlib.Data.Nat.ModEq

/-!
# The invariant of the ring

Beside the queue a log is kept: the claims of the head and of the tail in their order, the positions
whose slot was filled or freed, and what the consumers took. The position that a thread claims is
the number of the claims before. The sequence of a slot is the position it is free for, or one more
than the position it is filled with; these differ, as the ring has at least two slots.
-/

namespace LibE3.MpmcQueue

variable {τ α : Type}

/-- The position that a thread has claimed and whose slot it has not released. -/
def Pc.held : Pc α → Option ℕ
  | .pushMove _ pos => some pos
  | .pushStore pos => some pos
  | .popMove pos => some pos
  | .popStore pos _ => some pos
  | _ => none

structure Log (τ α : Type) where
  calls : List τ := []
  headClaims : List (τ × α) := []
  tailClaims : List τ := []
  filled : List ℕ := []
  freed : List ℕ := []
  taken : List (ℕ × τ × Option α) := []

def Log.record (log : Log τ α) (q : MpmcQueue τ α) : Label τ α → Log τ α
  | .call t _ => { log with calls := log.calls ++ [t] }
  | .step t spurious =>
    match q.threads t with
    | .pushExchange data pos =>
      if q.head = pos ∧ spurious = false then
        { log with headClaims := log.headClaims ++ [(t, data)] }
      else log
    | .pushStore pos => { log with filled := log.filled ++ [pos] }
    | .popExchange pos =>
      if q.tail = pos ∧ spurious = false then
        { log with tailClaims := log.tailClaims ++ [t] }
      else log
    | .popMove pos => { log with taken := log.taken ++ [(pos, t, (q.slot pos).data)] }
    | .popStore pos _ => { log with freed := log.freed ++ [pos] }
    | _ => log

structure Traced (τ α : Type) where
  queue : MpmcQueue τ α
  log : Log τ α

namespace Traced

def make (minCapacity : ℕ) : Traced τ α := ⟨MpmcQueue.make minCapacity, {}⟩

def step [DecidableEq τ] (q : Traced τ α) (label : Label τ α) : Option (Traced τ α) :=
  (q.queue.step label).map fun queue => ⟨queue, q.log.record q.queue label⟩

section

variable (q : Traced τ α)

def heads : ℕ := q.log.headClaims.length

def tails : ℕ := q.log.tailClaims.length

def sequence (pos : ℕ) : ℕ := (q.queue.slot pos).sequence

def data (pos : ℕ) : Option α := (q.queue.slot pos).data

/-- The slot of `pos` has the data of the claim of `p`. -/
def Carries (pos p : ℕ) : Prop :=
  ∃ u v, q.log.headClaims[p]? = some (u, v) ∧ q.data pos = some v

def takenPositions : List ℕ := q.log.taken.map Prod.fst

/-- The slot of `pos` is free for the producer of `p`. -/
structure FreeFor (pos p : ℕ) : Prop where
  sequence : q.sequence pos = p
  tails_le : q.tails ≤ p
  lt : p < q.tails + q.queue.capacity

/-- The slot of `pos` is filled with the data of `p`. -/
structure FilledWith (pos p : ℕ) : Prop where
  sequence : q.sequence pos = p + 1
  lt : p < q.heads
  data : q.tails ≤ p → q.Carries pos p

def ThreadInv (t : τ) : Pc α → Prop
  | .pushLoadSequence _ pos => pos ≤ q.heads
  | .pushExchange _ pos => pos ≤ q.heads ∧ (q.sequence pos = pos ∨ pos < q.heads)
  | .pushMove data pos => q.log.headClaims[pos]? = some (t, data) ∧ q.sequence pos = pos
  | .pushStore pos =>
    (∃ data, q.log.headClaims[pos]? = some (t, data) ∧ q.data pos = some data)
      ∧ q.sequence pos = pos
  | .popLoadSequence pos => pos ≤ q.tails
  | .popExchange pos => pos ≤ q.tails ∧ (q.sequence pos = pos + 1 ∨ pos < q.tails)
  | .popMove pos =>
    q.log.tailClaims[pos]? = some t ∧ q.sequence pos = pos + 1 ∧ q.Carries pos pos
      ∧ pos ∉ q.takenPositions
  | .popStore pos data =>
    q.log.tailClaims[pos]? = some t ∧ q.sequence pos = pos + 1 ∧ (pos, t, data) ∈ q.log.taken
  | .sizeLoadTail h => h ≤ q.tails + q.queue.capacity
  | .returned (.size n) => n ≤ q.queue.capacity
  | .returned (.popped data) => ∃ i, (i, t, data) ∈ q.log.taken
  | _ => True

/-- The data of a claimed position: its producer has it, its slot has it, its consumer is about to
take it or has taken it. -/
def Kept (i : ℕ) : Prop :=
  (∃ t data, q.queue.threads t = .pushMove data i) ∨ (∃ t, q.queue.threads t = .pushStore i)
    ∨ (q.tails ≤ i ∧ q.sequence i = i + 1 ∧ q.Carries i i)
    ∨ (∃ t, q.queue.threads t = .popMove i) ∨ i ∈ q.takenPositions

structure Inv : Prop where
  capacity : ∃ k, 1 ≤ k ∧ k ≤ 62 ∧ q.queue.capacity = 2 ^ k
  head_eq : q.queue.head = q.heads
  tail_eq : q.queue.tail = q.tails
  tails_le : q.tails ≤ q.heads
  heads_le : q.heads ≤ q.tails + q.queue.capacity
  slots : ∀ pos, ∃ p, p % q.queue.capacity = pos % q.queue.capacity
    ∧ q.heads ≤ p + q.queue.capacity ∧ (q.FreeFor pos p ∨ q.FilledWith pos p)
  threads : ∀ t, q.ThreadInv t (q.queue.threads t)
  filled : ∀ p ∈ q.log.filled, p + 1 ≤ q.sequence p
  freed : ∀ p ∈ q.log.freed, p + q.queue.capacity ≤ q.sequence p
  fifo : ∀ {i t d}, (i, t, d) ∈ q.log.taken → q.log.tailClaims[i]? = some t
    ∧ ∃ p v, q.log.headClaims[i]? = some (p, v) ∧ d = some v
  once : q.takenPositions.Nodup
  kept : ∀ i < q.heads, q.Kept i

end

theorem and_mask {c k : ℕ} (h : c = 2 ^ k) (pos : ℕ) : pos &&& (c - 1) = pos % c := by
  rw [h, Nat.and_two_pow_sub_one_eq_mod]

theorem succ_mod_ne {c : ℕ} (h : 2 ≤ c) (p : ℕ) : (p + 1) % c ≠ p % c := by
  intro heq
  have hdvd : c ∣ p + 1 - p := (Nat.modEq_iff_dvd' (Nat.le_succ p)).mp heq.symm
  rw [Nat.add_sub_cancel_left] at hdvd
  have hle := Nat.le_of_dvd Nat.one_pos hdvd
  omega

variable {q : Traced τ α} {pos p : ℕ}

namespace Inv

theorem two_le (h : q.Inv) : 2 ≤ q.queue.capacity := by
  obtain ⟨k, hk, -, hc⟩ := h.capacity
  rw [hc]
  exact (Nat.pow_le_pow_right (show 0 < 2 by decide) hk : 2 ^ 1 ≤ 2 ^ k)

theorem capacity_le (h : q.Inv) : q.queue.capacity ≤ 2 ^ 62 := by
  obtain ⟨k, -, hk, hc⟩ := h.capacity
  rw [hc]
  exact Nat.pow_le_pow_right (by decide) hk

theorem slot_congr (h : q.Inv) (hp : p % q.queue.capacity = pos % q.queue.capacity) :
    q.queue.slot p = q.queue.slot pos := by
  obtain ⟨k, -, -, hc⟩ := h.capacity
  rw [slot, slot, mask, and_mask hc, and_mask hc, hp]

theorem free_of_sequence (h : q.Inv) (hseq : q.sequence pos = pos) :
    q.FreeFor pos pos ∧ q.heads ≤ pos + q.queue.capacity := by
  obtain ⟨p, hp, hle, hfree | hfilled⟩ := h.slots pos
  · have hpos : p = pos := hfree.sequence.symm.trans hseq
    subst hpos
    exact ⟨hfree, hle⟩
  · have hpos : p + 1 = pos := hfilled.sequence.symm.trans hseq
    rw [← hpos] at hp
    exact absurd hp.symm (succ_mod_ne h.two_le p)

/-- A slot whose sequence is one more than one of its positions is filled with this position. -/
theorem filled_of_sequence (h : q.Inv) (hseq : q.sequence pos = pos + 1) :
    q.FilledWith pos pos ∧ q.heads ≤ pos + q.queue.capacity := by
  obtain ⟨p, hp, hle, hfree | hfilled⟩ := h.slots pos
  · have hpos : p = pos + 1 := hfree.sequence.symm.trans hseq
    rw [hpos] at hp
    exact absurd hp (succ_mod_ne h.two_le pos)
  · have hpos : p = pos := Nat.succ_injective (hfilled.sequence.symm.trans hseq)
    subst hpos
    exact ⟨hfilled, hle⟩

/-- What a thread has claimed: a position of the head that its slot is free for, or a position of
the tail that its slot is filled with. -/
theorem held (h : q.Inv) {t : τ} {i : ℕ} (ht : (q.queue.threads t).held = some i) :
    ((∃ v, q.log.headClaims[i]? = some (t, v)) ∧ q.sequence i = i)
      ∨ (q.log.tailClaims[i]? = some t ∧ q.sequence i = i + 1) := by
  have hinv := h.threads t
  cases hpc : q.queue.threads t with
  | pushMove data pos =>
    rw [hpc] at hinv ht
    obtain rfl := Option.some.inj ht
    exact .inl ⟨⟨data, hinv.1⟩, hinv.2⟩
  | pushStore pos =>
    rw [hpc] at hinv ht
    obtain rfl := Option.some.inj ht
    obtain ⟨⟨data, hclaim, -⟩, hseq⟩ := hinv
    exact .inl ⟨⟨data, hclaim⟩, hseq⟩
  | popMove pos =>
    rw [hpc] at hinv ht
    obtain rfl := Option.some.inj ht
    exact .inr ⟨hinv.1, hinv.2.1⟩
  | popStore pos data =>
    rw [hpc] at hinv ht
    obtain rfl := Option.some.inj ht
    exact .inr ⟨hinv.1, hinv.2.1⟩
  | _ =>
    rw [hpc] at ht
    cases ht

theorem sequence_lt (h : q.Inv) (hbound : q.heads + q.tails < 2 ^ 63) (pos : ℕ) :
    q.sequence pos < 2 ^ 63 := by
  have htails := h.tails_le
  have hcap := h.capacity_le
  obtain ⟨p, -, -, hfree | hfilled⟩ := h.slots pos
  · have hlt := hfree.lt
    rw [hfree.sequence]
    omega
  · have hlt := hfilled.lt
    rw [hfilled.sequence]
    omega

/-- No two threads have claimed positions of the same slot and not released it. -/
theorem exclusive (h : q.Inv) {t u : τ} {i j : ℕ} (ht : (q.queue.threads t).held = some i)
    (hu : (q.queue.threads u).held = some j)
    (hij : i % q.queue.capacity = j % q.queue.capacity) : t = u := by
  have hslot : q.sequence i = q.sequence j := congrArg Slot.sequence (h.slot_congr hij)
  have hne : i ≠ j + 1 ∧ j ≠ i + 1 := by
    refine ⟨fun heq => ?_, fun heq => ?_⟩
    · exact succ_mod_ne h.two_le j (heq ▸ hij)
    · exact succ_mod_ne h.two_le i (heq ▸ hij.symm)
  rcases h.held ht with ⟨⟨v, hv⟩, hi⟩ | ⟨hv, hi⟩ <;> rcases h.held hu with ⟨⟨w, hw⟩, hj⟩ | ⟨hw, hj⟩
  · have heq : i = j := by omega
    subst heq
    rw [hv, Option.some_inj, Prod.mk.injEq] at hw
    exact hw.1
  · omega
  · omega
  · have heq : i = j := by omega
    subst heq
    rw [hv, Option.some_inj] at hw
    exact hw

end Inv

/-- What a step of `t` leaves to the other threads: the claims grow, a slot that another thread has
claimed stays as it is, and a slot whose sequence changes is one that was claimed. -/
structure Frame (q q' : Traced τ α) (t : τ) : Prop where
  capacity : q'.queue.capacity = q.queue.capacity
  threads : ∀ u ≠ t, q'.queue.threads u = q.queue.threads u
  headClaims : q.log.headClaims <+: q'.log.headClaims
  tailClaims : q.log.tailClaims <+: q'.log.tailClaims
  taken : q.log.taken ⊆ q'.log.taken
  taken_new : ∀ i ∈ q'.takenPositions,
    i ∈ q.takenPositions ∨ (q.queue.threads t).held = some i
  slots : ∀ u ≠ t, ∀ i, (q.queue.threads u).held = some i → q'.queue.slot i = q.queue.slot i
  grows : ∀ pos, q.sequence pos ≤ q'.sequence pos
  push : ∀ pos, q.sequence pos = pos → q'.sequence pos = pos ∨ pos < q'.heads
  pop : ∀ pos, q.sequence pos = pos + 1 → q'.sequence pos = pos + 1 ∨ pos < q'.tails

theorem getElem?_of_grown {β : Type} {l l' : List β} (h : l <+: l') {i : ℕ} {x : β}
    (hx : l[i]? = some x) : l'[i]? = some x := by
  obtain ⟨r, rfl⟩ := h
  have hi : i < l.length := (List.getElem?_eq_some_iff.mp hx).1
  rw [List.getElem?_append_left hi, hx]

namespace Frame

variable {q' : Traced τ α} {t u : τ}

theorem heads_le (hf : Frame q q' t) : q.heads ≤ q'.heads := hf.headClaims.length_le

theorem tails_le (hf : Frame q q' t) : q.tails ≤ q'.tails := hf.tailClaims.length_le

theorem carries (hf : Frame q q' t) (hslot : q'.queue.slot pos = q.queue.slot pos)
    (h : q.Carries pos p) : q'.Carries pos p := by
  obtain ⟨v, w, hclaim, hdata⟩ := h
  refine ⟨v, w, getElem?_of_grown hf.headClaims hclaim, ?_⟩
  rw [data, hslot]
  exact hdata

/-- The other threads do not notice the step. -/
theorem threadInv (hf : Frame q q' t) (h : q.Inv) (hu : u ≠ t) :
    q'.ThreadInv u (q'.queue.threads u) := by
  have hinv := h.threads u
  have hslots := hf.slots u hu
  have hheads := hf.heads_le
  have htails := hf.tails_le
  have hseq : ∀ i, (q.queue.threads u).held = some i → q'.sequence i = q.sequence i :=
    fun i hi => congrArg Slot.sequence (hslots i hi)
  rw [hf.threads u hu]
  cases hpc : q.queue.threads u with
  | pushLoadSequence data pos =>
    rw [hpc] at hinv
    exact hinv.trans hheads
  | pushExchange data pos =>
    rw [hpc] at hinv
    refine ⟨hinv.1.trans hheads, ?_⟩
    rcases hinv.2 with heq | hlt
    · exact hf.push pos heq
    · exact .inr (hlt.trans_le hheads)
  | pushMove data pos =>
    rw [hpc] at hinv hseq
    exact ⟨getElem?_of_grown hf.headClaims hinv.1, (hseq pos rfl).trans hinv.2⟩
  | pushStore pos =>
    rw [hpc] at hinv hseq hslots
    obtain ⟨⟨v, hclaim, hv⟩, heq⟩ := hinv
    refine ⟨⟨v, getElem?_of_grown hf.headClaims hclaim, ?_⟩, (hseq pos rfl).trans heq⟩
    rw [data, hslots pos rfl]
    exact hv
  | popLoadSequence pos =>
    rw [hpc] at hinv
    exact hinv.trans htails
  | popExchange pos =>
    rw [hpc] at hinv
    refine ⟨hinv.1.trans htails, ?_⟩
    rcases hinv.2 with heq | hlt
    · exact hf.pop pos heq
    · exact .inr (hlt.trans_le htails)
  | popMove pos =>
    rw [hpc] at hinv hseq hslots
    obtain ⟨hclaim, heq, hcarries, hnot⟩ := hinv
    refine ⟨getElem?_of_grown hf.tailClaims hclaim, (hseq pos rfl).trans heq,
      hf.carries (hslots pos rfl) hcarries, fun hmem => ?_⟩
    rcases hf.taken_new pos hmem with hold | hheld
    · exact hnot hold
    · exact hu (h.exclusive (by rw [hpc]; rfl) hheld rfl)
  | popStore pos data =>
    rw [hpc] at hinv hseq
    exact ⟨getElem?_of_grown hf.tailClaims hinv.1, (hseq pos rfl).trans hinv.2.1,
      hf.taken hinv.2.2⟩
  | sizeLoadTail n =>
    rw [hpc] at hinv
    have hn : n ≤ q.tails + q.queue.capacity := hinv
    have hcap := hf.capacity
    show n ≤ q'.tails + q'.queue.capacity
    omega
  | returned result =>
    rw [hpc] at hinv
    cases result with
    | popped data =>
      obtain ⟨i, hi⟩ := hinv
      exact ⟨i, hf.taken hi⟩
    | size n =>
      show n ≤ q'.queue.capacity
      rw [hf.capacity]
      exact hinv
    | _ => trivial
  | _ => trivial

theorem threads_inv (hf : Frame q q' t) (h : q.Inv)
    (hown : q'.ThreadInv t (q'.queue.threads t)) : ∀ u, q'.ThreadInv u (q'.queue.threads u) := by
  intro u
  by_cases hu : u = t
  · rw [hu]
    exact hown
  · exact hf.threadInv h hu

/-- What is kept by another thread, in a slot that stays as it is, or by a consumer that has taken
it, is still kept. -/
theorem kept (hf : Frame q q' t) {i : ℕ} (h : q.Kept i)
    (hown : (q.queue.threads t).held = some i → q'.Kept i)
    (hslot : q.tails ≤ i → q.sequence i = i + 1 → q.Carries i i → q'.Kept i) : q'.Kept i := by
  have hother : ∀ u, (q.queue.threads u).held = some i → u ≠ t ∨ q'.Kept i := by
    intro u hu
    by_cases hut : u = t
    · exact .inr (hown (hut ▸ hu))
    · exact .inl hut
  rcases h with ⟨u, v, hpc⟩ | ⟨u, hpc⟩ | ⟨htails, hseq, hcarries⟩ | ⟨u, hpc⟩ | htaken
  · rcases hother u (by rw [hpc]; rfl) with hu | hkept
    · exact .inl ⟨u, v, (hf.threads u hu).trans hpc⟩
    · exact hkept
  · rcases hother u (by rw [hpc]; rfl) with hu | hkept
    · exact .inr (.inl ⟨u, (hf.threads u hu).trans hpc⟩)
    · exact hkept
  · exact hslot htails hseq hcarries
  · rcases hother u (by rw [hpc]; rfl) with hu | hkept
    · exact .inr (.inr (.inr (.inl ⟨u, (hf.threads u hu).trans hpc⟩)))
    · exact hkept
  · obtain ⟨x, hx, rfl⟩ := List.mem_map.mp htaken
    exact .inr (.inr (.inr (.inr (List.mem_map_of_mem (hf.taken hx)))))

end Frame

end Traced

end LibE3.MpmcQueue
