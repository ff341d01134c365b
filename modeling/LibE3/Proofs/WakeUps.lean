import LibE3.Proofs.WaitSteps

/-!
# Lost wake-ups

With one producer the items are published in the order of their tickets, and each item that the
waiting consumers cannot see yet is paid for by a thread that is awake. With one consumer a
notification cannot go to the wrong thread. With two of each a producer can publish the second item
before the first is there: its notification wakes a consumer that finds nothing, waits again and
takes the notification for the first item as well.
-/

namespace LibE3.BlockingQueue

open Runs

variable {π κ α : Type}

/-! ## What is lost -/

/-- Between publishing and notifying. -/
def PushPc.notifying : PushPc α → Bool
  | .lock | .unlock | .notify => true
  | _ => false

/-- In a call of `pop`. -/
def PopPc.inside : PopPc α → Bool
  | .idle | .returned _ => false
  | _ => true

/-- A consumer is parked although the item at the tail is published, and nobody is on the way: no
producer between publishing and notifying, and no consumer awake in `pop`. -/
def LostWakeUp (s : BlockingQueue π κ α) : Prop :=
  (∃ c, .consumer c ∈ s.monitor.parked) ∧ s.ring.Ready
    ∧ (∀ p, (s.producers p).notifying = false)
    ∧ ∀ c, (s.consumers c).inside = true → .consumer c ∈ s.monitor.parked

variable [DecidableEq π] [DecidableEq κ] {s s' : BlockingQueue π κ α}

/-! ## One producer -/

/-- The number of items that the one producer has published. -/
def count (s : BlockingQueue π κ α) (p : π) : ℕ :=
  match s.producers p with
  | .publish pos _ => pos
  | _ => s.ring.head

/-- The number of consumers that are about to try, with the mutex. -/
def tries (s : BlockingQueue π κ α) : ℕ :=
  match s.monitor.owner with
  | some (.consumer c) => (s.consumers c).trying.toNat
  | _ => 0

/-- While a consumer is parked, each item is paid for: by a consumer that was woken, or tries, or by
the producer, which will notify. A consumer that is about to wait has seen all the items but one that
the producer has not got the mutex for. -/
structure Paid (s : BlockingQueue π κ α) (p : π) : Prop where
  guarded : s.Guarded
  upto : s.ring.Upto (s.count p)
  claimed : ∀ pos item, s.producers p = .publish pos item → s.ring.head = pos + 1
  checking : ∀ c, (s.consumers c).checking = true →
    s.count p ≤ s.ring.tail + (s.producers p).locking.toNat
  parked : s.monitor.parked.Nonempty → s.count p
    ≤ s.ring.tail + s.monitor.woken.card + s.tries + (s.producers p).notifying.toNat

section

omit [DecidableEq π] [DecidableEq κ]

theorem count_of_quiet {p : π} (h : (s.producers p).quiet = true) : s.count p = s.ring.head := by
  unfold count
  rcases hpc : s.producers p with _ | _ | _ | ⟨_, _⟩ | _ | _ | _ | _ <;>
    first | rfl | (rw [hpc] at h; cases h)

theorem count_of_notifying {p : π} (h : (s.producers p).notifying = true) :
    s.count p = s.ring.head := by
  unfold count
  rcases hpc : s.producers p with _ | _ | _ | ⟨_, _⟩ | _ | _ | _ | _ <;>
    first | rfl | (rw [hpc] at h; cases h)

theorem quiet_notifying {pc : PushPc α} (h : pc.quiet = true) : pc.notifying = false := by
  cases pc <;> first | rfl | cases h

theorem quiet_locking {pc : PushPc α} (h : pc.quiet = true) : pc.locking = false := by
  cases pc <;> first | rfl | cases h

theorem locking_le_notifying (pc : PushPc α) : pc.locking.toNat ≤ pc.notifying.toNat := by
  cases pc <;> simp [PushPc.locking, PushPc.notifying]

theorem quiet_trying {pc : PopPc α} (h : pc.quiet = true) : pc.trying = false := by
  cases pc <;> first | rfl | cases h

theorem quiet_checking {pc : PopPc α} (h : pc.quiet = true) : pc.checking = false := by
  cases pc <;> first | rfl | cases h

theorem checking_holds {pc : PopPc α} (h : pc.checking = true) : pc.holds = true := by
  cases pc <;> first | rfl | cases h

theorem tries_of_free (h : s.monitor.owner = none) : s.tries = 0 := by
  simp [tries, h]

theorem tries_of_owner {t : Thread π κ} (h : s.monitor.owner = some t)
    (ht : ∀ c, t = .consumer c → (s.consumers c).trying = false) : s.tries = 0 := by
  unfold tries
  rw [h]
  rcases t with p | c | _
  · rfl
  · simp [ht c rfl]
  · rfl

theorem tries_of_trying {c : κ} (h : s.monitor.owner = some (.consumer c))
    (hc : s.consumers c = .tryPop) : s.tries = 1 := by
  simp [tries, h, hc, PopPc.trying]

theorem Guarded.not_checking (h : s.Guarded) (hfree : s.monitor.owner = none) {c : κ}
    (hc : (s.consumers c).checking = true) : False := by
  have howner := h.owner (.consumer c) (checking_holds hc)
  rw [hfree] at howner
  cases howner

end

omit [DecidableEq π] in
theorem tries_gotoPop (ring : TicketRing α) {c : κ} {pc : PopPc α}
    (hfrom : (s.consumers c).trying = false) (hto : pc.trying = false) :
    ({ s with ring := ring }.gotoPop c pc).tries = s.tries := by
  unfold tries gotoPop
  simp only
  rcases s.monitor.owner with _ | p | d | _
  · rfl
  · rfl
  · by_cases hd : d = c
    · subst hd
      simp [hfrom, hto]
    · simp [hd]
  · rfl

namespace Paid

variable {p : π}

omit [DecidableEq π] [DecidableEq κ] in
/-- A step that publishes nothing. -/
theorem keep (h : s.Paid p) (hg : s'.Guarded) (hslots : s'.ring.slots = s.ring.slots)
    (hcount : s'.count p = s.count p)
    (hclaimed : ∀ pos item, s'.producers p = .publish pos item → s'.ring.head = pos + 1)
    (hchecking : ∀ c, (s'.consumers c).checking = true →
      s.count p ≤ s'.ring.tail + (s'.producers p).locking.toNat)
    (hparked : s'.monitor.parked.Nonempty → s.count p
      ≤ s'.ring.tail + s'.monitor.woken.card + s'.tries + (s'.producers p).notifying.toNat) :
    s'.Paid p := by
  refine ⟨hg, ?_, hclaimed, ?_, ?_⟩
  · rw [hcount]
    intro i
    rw [hslots]
    exact h.upto i
  · rw [hcount]
    exact hchecking
  · rw [hcount]
    exact hparked

omit [DecidableEq π] [DecidableEq κ] in
theorem of_other (h : s.Paid p) (hg : s'.Guarded) (hp : s'.producers = s.producers)
    (hslots : s'.ring.slots = s.ring.slots) (hhead : s'.ring.head = s.ring.head)
    (hchecking : ∀ c, (s'.consumers c).checking = true →
      s.count p ≤ s'.ring.tail + (s.producers p).locking.toNat)
    (hparked : s'.monitor.parked.Nonempty → s.count p
      ≤ s'.ring.tail + s'.monitor.woken.card + s'.tries + (s.producers p).notifying.toNat) :
    s'.Paid p := by
  refine h.keep hg hslots ?_ ?_ ?_ ?_
  · unfold count
    rw [hp, hhead]
  · rw [hp, hhead]
    exact h.claimed
  · rw [hp]
    exact hchecking
  · rw [hp]
    exact hparked

omit [DecidableEq π] in
/-- A step of a consumer that is not about to wait and was not about to try, or is awake. -/
theorem of_pop (h : s.Paid p) (hg : s'.Guarded) {c : κ} {pc : PopPc α}
    (hp : s'.producers = s.producers) (hc : s'.consumers = Function.update s.consumers c pc)
    (hslots : s'.ring.slots = s.ring.slots) (hhead : s'.ring.head = s.ring.head)
    (htail : s.ring.tail ≤ s'.ring.tail)
    (hown : pc.checking = true → s.count p ≤ s.ring.tail + (s.producers p).locking.toNat)
    (hparked : s'.monitor.parked.Nonempty → s.count p
      ≤ s'.ring.tail + s'.monitor.woken.card + s'.tries + (s.producers p).notifying.toNat) :
    s'.Paid p := by
  refine h.of_other hg hp hslots hhead (fun d hd => ?_) hparked
  have hle : s.count p ≤ s.ring.tail + (s.producers p).locking.toNat := by
    rw [hc] at hd
    by_cases hdc : d = c
    · subst hdc
      rw [Function.update_self] at hd
      exact hown hd
    · rw [Function.update_of_ne hdc] at hd
      exact h.checking d hd
  omega

omit [DecidableEq κ] in
/-- A published item is paid for by its producer. -/
theorem publish (h : s.Paid p) {pos : ℕ} {item : α} {s' : BlockingQueue π κ α}
    (hs' : s' = { s with ring := s.ring.publish pos item }.gotoPush p .lock)
    (hg : s'.Guarded) (hpc : s.producers p = .publish pos item) : s'.Paid p := by
  have hself : s'.producers p = .lock := by simp [hs', gotoPush]
  have hhead := h.claimed pos item hpc
  have hcount : s.count p = pos := by simp only [count, hpc]
  have hcount' : s'.count p = pos + 1 := by
    rw [count_of_notifying (by rw [hself]; rfl), hs', ← hhead]
    rfl
  have hupto := h.upto
  rw [hcount] at hupto
  refine ⟨hg, ?_, ?_, ?_, ?_⟩
  · rw [hcount', hs']
    exact hupto.publish item
  · intro pos' item' hpos
    rw [hself] at hpos
    cases hpos
  · intro c hc
    have hle := h.checking c (by rw [hs'] at hc; exact hc)
    rw [hcount, hpc] at hle
    rw [hcount', hself, hs']
    exact Nat.succ_le_succ hle
  · intro hne
    have hle := h.parked (by rw [hs'] at hne; exact hne)
    rw [hcount, hpc] at hle
    rw [hcount', hself, hs']
    exact Nat.succ_le_succ hle

theorem moved [Subsingleton π] (h : s.Paid p) (hmoved : s.Moved s') : s'.Paid p := by
  have hg := h.guarded.moved hmoved
  cases hmoved with
  | @pushOn q pc hfrom hto =>
    obtain rfl := Subsingleton.elim q p
    have hself : (s.gotoPush q pc).producers q = pc := by simp [gotoPush]
    refine h.keep hg rfl ?_ ?_ (fun c hc => ?_) fun hne => ?_
    · rw [count_of_quiet hfrom, count_of_quiet (by rw [hself]; exact hto)]
      rfl
    · intro pos item hpc
      rw [← hself, hpc] at hto
      cases hto
    · have hle := h.checking c hc
      rw [quiet_locking hfrom] at hle
      rw [hself, quiet_locking hto]
      exact hle
    · have hle := h.parked hne
      rw [quiet_notifying hfrom] at hle
      rw [hself, quiet_notifying hto]
      exact hle
  | @claimHead q item hpc hroom =>
    obtain rfl := Subsingleton.elim q p
    refine h.keep hg rfl ?_ ?_ (fun c hc => ?_) fun hne => ?_
    · rw [count_of_quiet hpc]
      simp [count, gotoPush]
    · intro pos item' hpos
      simp only [gotoPush, Function.update_self, PushPc.publish.injEq] at hpos
      rw [← hpos.1]
      rfl
    · have hle := h.checking c hc
      rw [quiet_locking hpc] at hle
      simpa [gotoPush, PushPc.locking, TicketRing.claimHead] using hle
    · have hle := h.parked hne
      rw [quiet_notifying hpc] at hle
      simpa [gotoPush, PushPc.notifying, TicketRing.claimHead, tries] using hle
  | @publish q pos item hpc =>
    obtain rfl := Subsingleton.elim q p
    exact h.publish rfl hg hpc
  | @lockPush q hpc hfree =>
    obtain rfl := Subsingleton.elim q p
    refine h.keep hg rfl ?_ ?_ (fun c hc => ?_) fun hne => ?_
    · simp [count, gotoPush, hpc]
    · simp [gotoPush]
    · exact (h.guarded.not_checking hfree hc).elim
    · have hle := h.parked hne
      rw [tries_of_free hfree, hpc] at hle
      simpa [gotoPush, PushPc.notifying, tries] using hle
  | @unlockPush q hpc =>
    obtain rfl := Subsingleton.elim q p
    refine h.keep hg rfl ?_ ?_ (fun c hc => ?_) fun hne => ?_
    · simp [count, gotoPush, hpc]
    · simp [gotoPush]
    · have hle := h.checking c hc
      rw [hpc] at hle
      simpa [gotoPush, PushPc.locking] using hle
    · have hle := h.parked hne
      rw [tries_of_owner (h.guarded.owner (.producer q) hpc) (by rintro d ⟨⟩), hpc] at hle
      simpa [gotoPush, PushPc.notifying, tries, Monitor.unlock] using hle
  | @notify q choice monitor hpc hm =>
    obtain rfl := Subsingleton.elim q p
    obtain ⟨howner, hsub, -, hcard⟩ := Monitor.notifyOne_spec hm
    refine h.keep hg rfl ?_ ?_ (fun c hc => ?_) fun hne => ?_
    · simp [count, gotoPush, hpc]
    · simp [gotoPush]
    · have hle := h.checking c hc
      rw [hpc] at hle
      simpa [gotoPush, PushPc.locking] using hle
    · have hle := h.parked (hne.mono hsub)
      rw [hpc] at hle
      have hwoken := hcard (hne.mono hsub)
      simp only [gotoPush, PushPc.notifying, tries, howner, Function.update_self, hwoken,
        Bool.toNat_true, Bool.toNat_false] at hle ⊢
      omega
  | @popOn c pc hfrom hto =>
    refine h.of_pop hg rfl rfl rfl rfl le_rfl (fun hchecking => ?_) fun hne => ?_
    · rw [quiet_checking hto] at hchecking
      cases hchecking
    · have htries : (s.gotoPop c pc).tries = s.tries :=
        tries_gotoPop s.ring (quiet_trying hfrom) (quiet_trying hto)
      rw [htries]
      exact h.parked hne
  | @claimTail c locked hpc hawake hready =>
    refine h.of_pop hg rfl rfl rfl rfl (Nat.le_succ _) (by rintro ⟨⟩) fun hne => ?_
    have hle := h.parked hne
    have hsucc : ({ s with ring := s.ring.claimTail }.gotoPop c
        (.release s.ring.tail locked)).ring.tail = s.ring.tail + 1 := rfl
    rw [hsucc]
    rcases hawake with hquiet | htry
    · rw [tries_gotoPop _ (quiet_trying hquiet) rfl]
      show _ ≤ _ + s.monitor.woken.card + _ + _
      omega
    · -- the try was paid for by the consumer that makes it
      have howner := h.guarded.owner (.consumer c) (by simp [Holds, htry, PopPc.holds])
      rw [tries_of_trying howner htry] at hle
      show _ ≤ _ + s.monitor.woken.card + _ + _
      omega
  | @empty c hpc hempty =>
    have hle : s.count p ≤ s.ring.tail := by
      have hnot := (h.upto s.ring.tail).not.mp hempty
      omega
    refine h.of_pop hg rfl rfl rfl rfl le_rfl (fun _ => by omega) fun _ => ?_
    show _ ≤ s.ring.tail + _ + _ + _
    omega
  | @checked c pc hpc hto =>
    have hchecking := h.checking c (by rw [hpc]; rfl)
    refine h.of_pop hg rfl rfl rfl rfl le_rfl (fun _ => hchecking) fun hne => ?_
    have htries : (s.gotoPop c pc).tries = s.tries :=
      tries_gotoPop s.ring (by rw [hpc]; rfl) (by rcases hto with rfl | ⟨item, rfl⟩ <;> rfl)
    rw [htries]
    exact h.parked hne
  | @lockPop c hpc hfree =>
    refine h.of_pop hg rfl rfl rfl rfl le_rfl (by rintro ⟨⟩) fun hne => ?_
    have hle := h.parked hne
    rw [tries_of_free hfree] at hle
    show _ ≤ s.ring.tail + s.monitor.woken.card + _ + _
    omega
  | @wait c hpc =>
    have hchecking := h.checking c (by rw [hpc]; rfl)
    have hnotifying := locking_le_notifying (s.producers p)
    refine h.of_pop hg rfl rfl rfl rfl le_rfl (by rintro ⟨⟩) fun _ => ?_
    show _ ≤ s.ring.tail + _ + _ + _
    omega
  | @resume c monitor hpc hm =>
    obtain ⟨hwoken, hfree, howner, hparked, herase⟩ := Monitor.resume_spec hm
    refine h.of_pop hg rfl rfl rfl rfl le_rfl (by rintro ⟨⟩) fun hne => ?_
    have hle := h.parked (hparked ▸ hne)
    have hcard : monitor.woken.card + 1 = s.monitor.woken.card := by
      rw [herase]
      exact Finset.card_erase_add_one hwoken
    rw [tries_of_free hfree] at hle
    rw [tries_of_trying (c := c) howner (by simp [gotoPop])]
    show _ ≤ s.ring.tail + monitor.woken.card + _ + _
    omega
  | @release c pos locked item hpc =>
    refine h.of_pop hg rfl rfl rfl rfl le_rfl (fun hchecking => ?_) fun hne => ?_
    · cases locked <;> cases hchecking
    · rw [tries_gotoPop _ (by rw [hpc]; rfl) (by cases locked <;> rfl)]
      exact h.parked hne
  | @unlockPop c item hpc =>
    refine h.of_pop hg rfl rfl rfl rfl le_rfl (by rintro ⟨⟩) fun hne => ?_
    have hle := h.parked hne
    have howner := h.guarded.owner (.consumer c) (by simp [Holds, hpc, PopPc.holds])
    rw [tries_of_owner howner (by rintro d hd; cases hd; rw [hpc]; rfl)] at hle
    show _ ≤ s.ring.tail + s.monitor.woken.card + _ + _
    omega
  | @wake c monitor hm =>
    obtain ⟨ht, howner, hparked, -, hcard⟩ := Monitor.wake_spec hm
    refine h.of_other hg rfl rfl rfl h.checking fun _ => ?_
    have hle := h.parked ⟨_, ht⟩
    have htries : ({ s with monitor := monitor } : BlockingQueue π κ α).tries = s.tries := by
      simp only [tries, howner]
    rw [htries]
    show _ ≤ s.ring.tail + monitor.woken.card + _ + _
    omega
  | close hto hfrom => exact h.of_other hg rfl rfl rfl h.checking h.parked
  | lockClose hfree =>
    refine h.of_other hg rfl rfl rfl h.checking fun hne => ?_
    have hle := h.parked hne
    rw [tries_of_free hfree] at hle
    exact hle
  | unlockClose hpc =>
    refine h.of_other hg rfl rfl rfl h.checking fun hne => ?_
    have hle := h.parked hne
    rw [tries_of_owner (h.guarded.owner .closer hpc) (by rintro d ⟨⟩)] at hle
    exact hle
  | notifyAll hpc =>
    refine h.of_other hg rfl rfl rfl h.checking fun hne => ?_
    simp [Monitor.notifyAll] at hne

omit [DecidableEq π] [DecidableEq κ] in
theorem not_lost (h : s.Paid p) : ¬ s.LostWakeUp := by
  rintro ⟨⟨c, hc⟩, hready, hpush, hpop⟩
  have hlt : s.ring.tail < s.count p := (h.upto s.ring.tail).mp hready
  have hle := h.parked ⟨_, hc⟩
  have hwoken : s.monitor.woken = ∅ := by
    rw [Finset.eq_empty_iff_forall_notMem]
    intro t ht
    obtain ⟨d, rfl, hd⟩ := h.guarded.waiting t (.inr ht)
    have hparked := hpop d (by rw [hd]; rfl)
    exact Finset.disjoint_left.mp s.monitor.disjoint hparked ht
  have htries : s.tries = 0 := by
    rcases howner : s.monitor.owner with _ | t
    · exact tries_of_free howner
    · refine tries_of_owner howner fun d _ => ?_
      rcases hd : s.consumers d with _ | _ | _ | _ | _ | _ | _ | _ | _ | _ | _ <;> try rfl
      -- a consumer that tries is awake
      have hparked := hpop d (by rw [hd]; rfl)
      obtain ⟨e, heq, he⟩ := h.guarded.waiting _ (.inl hparked)
      obtain rfl := Thread.consumer.inj heq
      rw [hd] at he
      cases he
  rw [hwoken, htries, hpush p] at hle
  simp only [Finset.card_empty, Bool.toNat_false] at hle
  omega

end Paid

omit [DecidableEq π] [DecidableEq κ] in
theorem paid_make (capacity : ℕ) (p : π) : (make capacity : BlockingQueue π κ α).Paid p := by
  refine ⟨guarded_make capacity, TicketRing.upto_make _, nofun, nofun, ?_⟩
  rintro ⟨t, ht⟩
  simp [make, Monitor.free] at ht

theorem unpublished_moved [IsEmpty π] (h : s.ring.slots = fun _ => none) (hmoved : s.Moved s') :
    s'.ring.slots = fun _ => none := by
  cases hmoved with
  | @publish p pos item hpc => exact isEmptyElim p
  | _ => exact h

theorem not_lost_of_producer [Subsingleton π] [Inhabited α] {capacity : ℕ}
    {labels : List (Label π κ α)} (h : run step (make capacity) labels = some s) :
    ¬ s.LostWakeUp := by
  rcases isEmpty_or_nonempty π with hempty | ⟨⟨p⟩⟩
  · have hslots : s.ring.slots = fun _ => none :=
      Runs.inv (I := fun s : BlockingQueue π κ α => s.ring.slots = fun _ => none)
        (fun hs hstep => unpublished_moved hs (moved_of_step hstep)) rfl h
    rintro ⟨-, hready, -⟩
    simp [TicketRing.Ready, hslots] at hready
  · have hpaid : s.Paid p :=
      Runs.inv (I := fun s : BlockingQueue π κ α => s.Paid p)
        (fun hs hstep => hs.moved (moved_of_step hstep)) (paid_make capacity p) h
    exact hpaid.not_lost

/-! ## One consumer -/

/-- While the consumer is about to wait, or waits, and the item at the tail is published, a producer
will notify it. -/
structure Heard (s : BlockingQueue π κ α) : Prop where
  guarded : s.Guarded
  checking : ∀ c, (s.consumers c).checking = true → s.ring.Ready →
    ∃ p, (s.producers p).locking = true
  parked : s.monitor.parked.Nonempty → s.ring.Ready → ∃ p, (s.producers p).notifying = true

namespace Heard

omit [DecidableEq π] [DecidableEq κ] in
theorem of_awake [Subsingleton κ] (hg : s.Guarded) {c : κ}
    (hchecking : (s.consumers c).checking = false) (hne : s.consumers c ≠ .waiting) :
    s.Heard := by
  refine ⟨hg, fun d hd _ => ?_, fun ⟨t, ht⟩ _ => ?_⟩
  · obtain rfl := Subsingleton.elim d c
    rw [hchecking] at hd
    cases hd
  · obtain ⟨d, -, hd⟩ := hg.waiting t (.inl ht)
    obtain rfl := Subsingleton.elim d c
    exact absurd hd hne

omit [DecidableEq κ] in
theorem exists_other {f : PushPc α → Bool} {p : π} {pc : PushPc α}
    (hfrom : f (s.producers p) = false) (h : ∃ q, f (s.producers q) = true) :
    ∃ q, f (Function.update s.producers p pc q) = true := by
  obtain ⟨q, hq⟩ := h
  have hqp : q ≠ p := by
    rintro rfl
    rw [hfrom] at hq
    cases hq
  exact ⟨q, by rw [Function.update_of_ne hqp, hq]⟩

theorem not_parked_of_notifyOne [Subsingleton κ] (h : s.Guarded) {choice : Option (Thread π κ)}
    {monitor : Monitor (Thread π κ)} (hm : s.monitor.notifyOne choice = some monitor) :
    ¬ monitor.parked.Nonempty := by
  rintro ⟨t, ht⟩
  obtain ⟨-, hsub, hunion, hcard⟩ := Monitor.notifyOne_spec hm
  have hwoken := hcard ⟨t, hsub ht⟩
  obtain ⟨u, hu⟩ := Finset.card_pos.mp (show 0 < monitor.woken.card by omega)
  have hmem : u ∈ s.monitor.woken ∪ s.monitor.parked := by
    rw [← hunion]
    exact Finset.mem_union_left _ hu
  obtain ⟨c, rfl, -⟩ := h.waiting t (.inl (hsub ht))
  obtain ⟨d, rfl, -⟩ := h.waiting u (Finset.mem_union.mp hmem).symm
  obtain rfl := Subsingleton.elim d c
  exact Finset.disjoint_left.mp monitor.disjoint ht hu

theorem moved [Subsingleton κ] (h : s.Heard) (hmoved : s.Moved s') : s'.Heard := by
  have hg := h.guarded.moved hmoved
  cases hmoved with
  | @pushOn p pc hfrom hto =>
    exact ⟨hg, fun c hc hready => exists_other (quiet_locking hfrom) (h.checking c hc hready),
      fun hne hready => exists_other (quiet_notifying hfrom) (h.parked hne hready)⟩
  | @claimHead p item hpc hroom =>
    exact ⟨hg, fun c hc hready => exists_other (quiet_locking hpc) (h.checking c hc hready),
      fun hne hready => exists_other (quiet_notifying hpc) (h.parked hne hready)⟩
  | @publish p pos item hpc =>
    exact ⟨hg, fun _ _ _ => ⟨p, by simp [gotoPush, PushPc.locking]⟩,
      fun _ _ => ⟨p, by simp [gotoPush, PushPc.notifying]⟩⟩
  | @lockPush p hpc hfree =>
    exact ⟨hg, fun c hc _ => (h.guarded.not_checking hfree hc).elim,
      fun _ _ => ⟨p, by simp [gotoPush, PushPc.notifying]⟩⟩
  | @unlockPush p hpc =>
    exact ⟨hg, fun c hc hready => exists_other (by rw [hpc]; rfl) (h.checking c hc hready),
      fun _ _ => ⟨p, by simp [gotoPush, PushPc.notifying]⟩⟩
  | @notify p choice monitor hpc hm =>
    exact ⟨hg, fun c hc hready => exists_other (by rw [hpc]; rfl) (h.checking c hc hready),
      fun hne _ => absurd hne (not_parked_of_notifyOne h.guarded hm)⟩
  | @popOn c pc hfrom hto =>
    have hself : (s.gotoPop c pc).consumers c = pc := by simp [gotoPop]
    exact of_awake hg (by rw [hself]; exact quiet_checking hto)
      (by rw [hself]; exact quiet_ne_waiting hto)
  | @claimTail c locked hpc hawake hready =>
    exact of_awake (c := c) hg (by simp [gotoPop, PopPc.checking]) (by simp [gotoPop])
  | empty hpc hempty =>
    exact ⟨hg, fun _ _ hready => absurd hready hempty, fun _ hready => absurd hready hempty⟩
  | @checked c pc hpc hto =>
    refine ⟨hg, fun d hd hready => ?_, h.parked⟩
    exact h.checking c (by rw [hpc]; rfl) hready
  | @lockPop c hpc hfree =>
    exact of_awake (c := c) hg (by simp [gotoPop, PopPc.checking]) (by simp [gotoPop])
  | @wait c hpc =>
    refine ⟨hg, fun d hd hready => h.checking c (by rw [hpc]; rfl) hready, fun _ hready => ?_⟩
    obtain ⟨p, hp⟩ := h.checking c (by rw [hpc]; rfl) hready
    have hle := locking_le_notifying (s.producers p)
    rw [hp] at hle
    exact ⟨p, Bool.toNat_eq_one.mp (le_antisymm (Bool.toNat_le _) hle)⟩
  | @resume c monitor hpc hm =>
    exact of_awake (c := c) hg (by simp [gotoPop, PopPc.checking]) (by simp [gotoPop])
  | @release c pos locked item hpc =>
    have hself : ({ s with ring := s.ring.release pos }.gotoPop c
        (if locked then .unlock item else .returned item)).consumers c
          = if locked then .unlock item else .returned item := by
      simp [gotoPop]
    refine of_awake (c := c) hg ?_ ?_ <;> rw [hself] <;> cases locked
    · rfl
    · rfl
    · rintro ⟨⟩
    · rintro ⟨⟩
  | @unlockPop c item hpc =>
    exact of_awake (c := c) hg (by simp [gotoPop, PopPc.checking]) (by simp [gotoPop])
  | wake hm =>
    obtain ⟨ht, -⟩ := Monitor.wake_spec hm
    exact ⟨hg, h.checking, fun _ hready => h.parked ⟨_, ht⟩ hready⟩
  | close hto hfrom => exact ⟨hg, h.checking, h.parked⟩
  | lockClose hfree => exact ⟨hg, h.checking, h.parked⟩
  | unlockClose hpc => exact ⟨hg, h.checking, h.parked⟩
  | notifyAll hpc =>
    refine ⟨hg, h.checking, fun hne _ => ?_⟩
    simp [Monitor.notifyAll] at hne

end Heard

omit [DecidableEq π] [DecidableEq κ] in
theorem heard_make (capacity : ℕ) : (make capacity : BlockingQueue π κ α).Heard := by
  refine ⟨guarded_make capacity, nofun, ?_⟩
  rintro ⟨t, ht⟩
  simp [make, Monitor.free] at ht

theorem not_lost_of_consumer [Subsingleton κ] [Inhabited α] {capacity : ℕ}
    {labels : List (Label π κ α)} (h : run step (make capacity) labels = some s) :
    ¬ s.LostWakeUp := by
  have hheard : s.Heard :=
    Runs.inv (fun hs hstep => hs.moved (moved_of_step hstep)) (heard_make capacity) h
  rintro ⟨⟨c, hc⟩, hready, hpush, -⟩
  obtain ⟨p, hp⟩ := hheard.parked ⟨_, hc⟩ hready
  rw [hpush p] at hp
  cases hp

/-! ## Two of each -/

section TwoOfEach

def park (s : BlockingQueue π κ α) (c : κ) : BlockingQueue π κ α :=
  { s with monitor := s.monitor.wait (.consumer c) }.gotoPop c .waiting

/-- The queue after the consumer has taken the item at the tail, and has returned. -/
def served [Inhabited α] (s : BlockingQueue π κ α) (c : κ) : BlockingQueue π κ α :=
  { s with
    ring := s.ring.claimTail.release s.ring.tail
    monitor := (s.monitor.enter (.consumer c)).unlock }.gotoPop c
      (.returned ((s.ring.slots s.ring.tail).getD default))

def claimed (s : BlockingQueue π κ α) (p : π) (item : α) : BlockingQueue π κ α :=
  { s with ring := s.ring.claimHead }.gotoPush p (.publish s.ring.head item)

/-- The queue after the producer has published its item, and has woken the consumer. -/
def notified (s : BlockingQueue π κ α) (p : π) (pos : ℕ) (item : α) (c : κ) :
    BlockingQueue π κ α :=
  { s with
    ring := s.ring.publish pos item
    monitor := s.monitor.rouse (.consumer c) }.gotoPush p (.returned .success)

section Fields

variable (s : BlockingQueue π κ α) (p : π) (pos : ℕ) (item : α) (c : κ)

@[simp] theorem park_ring : (s.park c).ring = s.ring := rfl

@[simp] theorem park_monitor : (s.park c).monitor = s.monitor.wait (.consumer c) := rfl

@[simp] theorem park_producers : (s.park c).producers = s.producers := rfl

@[simp] theorem park_consumers :
    (s.park c).consumers = Function.update s.consumers c .waiting := rfl

@[simp] theorem served_ring [Inhabited α] :
    (s.served c).ring = s.ring.claimTail.release s.ring.tail := rfl

@[simp] theorem served_monitor [Inhabited α] :
    (s.served c).monitor = (s.monitor.enter (.consumer c)).unlock := rfl

@[simp] theorem served_producers [Inhabited α] : (s.served c).producers = s.producers := rfl

@[simp] theorem served_consumers [Inhabited α] : (s.served c).consumers
    = Function.update s.consumers c (.returned ((s.ring.slots s.ring.tail).getD default)) := rfl

@[simp] theorem notified_ring : (s.notified p pos item c).ring = s.ring.publish pos item := rfl

@[simp] theorem notified_monitor :
    (s.notified p pos item c).monitor = s.monitor.rouse (.consumer c) := rfl

@[simp] theorem notified_producers : (s.notified p pos item c).producers
    = Function.update s.producers p (.returned .success) := rfl

@[simp] theorem notified_consumers : (s.notified p pos item c).consumers = s.consumers := rfl

omit [DecidableEq κ]

@[simp] theorem claimed_ring : (s.claimed p item).ring = s.ring.claimHead := rfl

@[simp] theorem claimed_monitor : (s.claimed p item).monitor = s.monitor := rfl

@[simp] theorem claimed_producers : (s.claimed p item).producers
    = Function.update s.producers p (.publish s.ring.head item) := rfl

@[simp] theorem claimed_consumers : (s.claimed p item).consumers = s.consumers := rfl

end Fields

variable [Inhabited α]

theorem reaches_lock (hopen : s.isShutdown = false) (hempty : ¬ s.ring.Ready) (c : κ) :
    ∀ n, Reaches step (s.gotoPop c (.polling n)) (s.gotoPop c .lock)
  | 0 => .refl _
  | n + 1 => by
    have hpoll : step (s.gotoPop c (.poll n)) (.consumer c)
        = some (s.gotoPop c (.pollShutdown n)) := by
      simp [step, consumerStep, gotoPop, BlockingQueue.tryPop, hempty]
    have hcheck : step (s.gotoPop c (.pollShutdown n)) (.consumer c)
        = some (s.gotoPop c (.polling n)) := by
      simp [step, consumerStep, gotoPop, hopen]
    exact (Reaches.single hpoll).trans ((Reaches.single hcheck).trans
      (reaches_lock hopen hempty c n))

theorem reaches_wait (s : BlockingQueue π κ α) (hopen : s.isShutdown = false)
    (hempty : ¬ s.ring.Ready) (c : κ) :
    Reaches step (s.gotoPop c .tryPop) (s.park c) := by
  have htry : step (s.gotoPop c .tryPop) (.consumer c) = some (s.gotoPop c .checkShutdown) := by
    simp [step, consumerStep, gotoPop, BlockingQueue.tryPop, hempty]
  have hcheck : step (s.gotoPop c .checkShutdown) (.consumer c) = some (s.gotoPop c .wait) := by
    simp [step, consumerStep, gotoPop, hopen]
  have hwait : step (s.gotoPop c .wait) (.consumer c) = some (s.park c) := by
    simp [step, consumerStep, gotoPop, park]
  exact (Reaches.single htry).trans ((Reaches.single hcheck).trans (Reaches.single hwait))

theorem reaches_park (hopen : s.isShutdown = false) (hempty : ¬ s.ring.Ready) {c : κ}
    (hfree : s.monitor.owner = none) (hidle : s.consumers c = .idle) :
    Reaches step s (s.park c) := by
  have hpop : step s (.pop c) = some (s.gotoPop c (.polling (spinCount + yieldCount))) := by
    simp [step, pop, hidle]
  let m : Monitor (Thread π κ) := { s.monitor with owner := some (.consumer c) }
  have hlock : step (s.gotoPop c .lock) (.consumer c)
      = some ({ s with monitor := m }.gotoPop c .tryPop) := by
    simp [step, consumerStep, gotoPop, Monitor.lock, hfree, m]
  have hwait : Reaches step ({ s with monitor := m }.gotoPop c .tryPop) (s.park c) :=
    reaches_wait { s with monitor := m } hopen hempty c
  exact (Reaches.single hpop).trans ((reaches_lock hopen hempty c _).trans
    ((Reaches.single hlock).trans hwait))

theorem reaches_park_again (hopen : s.isShutdown = false) (hempty : ¬ s.ring.Ready) {c : κ}
    (hfree : s.monitor.owner = none) (hwoken : .consumer c ∈ s.monitor.woken)
    (hwaiting : s.consumers c = .waiting) : Reaches step s (s.park c) := by
  have hresume : step s (.consumer c)
      = some ({ s with monitor := s.monitor.enter (.consumer c) }.gotoPop c .tryPop) := by
    simp [step, consumerStep, hwaiting, Monitor.resume, hfree, hwoken]
  have hpark : ({ s with monitor := s.monitor.enter (.consumer c) } : BlockingQueue π κ α).park c
      = s.park c := by
    simp [park, gotoPop, Monitor.wait, Monitor.enter]
  refine (Reaches.single hresume).trans ?_
  rw [← hpark]
  exact reaches_wait { s with monitor := s.monitor.enter (.consumer c) } hopen hempty c

theorem reaches_served (hready : s.ring.Ready) {c : κ} (hfree : s.monitor.owner = none)
    (hwoken : .consumer c ∈ s.monitor.woken) (hwaiting : s.consumers c = .waiting) :
    Reaches step s (s.served c) := by
  refine ⟨[.consumer c, .consumer c, .consumer c, .consumer c], ?_⟩
  simp [run, step, consumerStep, hwaiting, Monitor.resume, hfree, hwoken, gotoPop,
    BlockingQueue.tryPop, hready, served, TicketRing.claimTail, TicketRing.release]

theorem reaches_claimed (hopen : s.isShutdown = false) (hroom : s.ring.HasRoom) {p : π}
    (item : α) (hidle : s.producers p = .idle) : Reaches step s (s.claimed p item) := by
  refine ⟨[.push p item, .producer p none, .producer p none], ?_⟩
  simp [run, step, push, producerStep, hidle, hopen, hroom, gotoPush, claimed]

theorem reaches_notified {p : π} {pos : ℕ} {item : α} {c : κ}
    (hpc : s.producers p = .publish pos item) (hfree : s.monitor.owner = none)
    (hparked : .consumer c ∈ s.monitor.parked) : Reaches step s (s.notified p pos item c) := by
  refine ⟨[.producer p none, .producer p none, .producer p none, .producer p (some c)], ?_⟩
  simp [run, step, producerStep, hpc, hfree, gotoPush, Monitor.lock, Monitor.unlock,
    Monitor.notifyOne, Monitor.wake, hparked, notified, Monitor.rouse]

theorem le_doubleUntil (minCapacity : ℕ) : ∀ fuel capacity,
    capacity ≤ doubleUntil minCapacity fuel capacity
  | 0, capacity => le_rfl
  | fuel + 1, capacity => by
    unfold doubleUntil
    split_ifs
    · exact (by omega : capacity ≤ 2 * capacity).trans (le_doubleUntil minCapacity fuel _)
    · exact le_rfl

/-- The second item is published before the first, and both notifications go to one consumer. -/
theorem reaches_lost (capacity : ℕ) {p q : π} {c d : κ} (hpq : p ≠ q) (hcd : c ≠ d) :
    ∃ s : BlockingQueue π κ α, Reaches step (make capacity) s ∧ s.LostWakeUp := by
  have hcapacity : 2 ≤ ringCapacity capacity := le_doubleUntil capacity capacity 2
  let s₁ : BlockingQueue π κ α := (make capacity).park c
  let s₂ := s₁.park d
  let s₃ := s₂.claimed p default
  let s₄ := s₃.claimed q default
  let s₅ := s₄.notified q 1 default c
  let s₆ := s₅.park c
  let s₇ := s₆.notified p 0 default c
  have h₁ : Reaches step (make capacity) s₁ :=
    reaches_park rfl (by simp [make, TicketRing.make, TicketRing.Ready]) rfl rfl
  have h₂ : Reaches step s₁ s₂ :=
    reaches_park rfl (by simp [s₁, make, TicketRing.make, TicketRing.Ready]) rfl
      (by simp [s₁, make, hcd.symm])
  have h₃ : Reaches step s₂ s₃ := by
    refine reaches_claimed rfl (.inl ?_) default rfl
    show 0 < ringCapacity capacity
    omega
  have h₄ : Reaches step s₃ s₄ := by
    refine reaches_claimed rfl (.inl ?_) default ?_
    · show 1 < ringCapacity capacity
      omega
    · simp [s₃, s₂, s₁, make, hpq.symm]
  have hring : s₄.ring = ((TicketRing.make (ringCapacity capacity)).claimHead).claimHead := rfl
  have h₅ : Reaches step s₄ s₅ := by
    refine reaches_notified ?_ rfl ?_
    · simp [s₄, s₃, s₂, s₁, make, TicketRing.claimHead, TicketRing.make]
    · simp [s₄, s₃, s₂, s₁, Monitor.wait]
  have h₆ : Reaches step s₅ s₆ := by
    refine reaches_park_again rfl ?_ rfl ?_ ?_
    · -- the item at the tail is the one that is not published yet
      simp [s₅, hring, TicketRing.claimHead, TicketRing.publish, TicketRing.make, TicketRing.Ready]
    · simp [s₅, Monitor.rouse]
    · simp [s₅, s₄, s₃, s₂, s₁, hcd]
  have h₇ : Reaches step s₆ s₇ := by
    refine reaches_notified ?_ rfl ?_
    · simp [s₆, s₅, s₄, s₃, s₂, s₁, make, TicketRing.make, hpq]
    · simp [s₆, Monitor.wait]
  have h₈ : Reaches step s₇ (s₇.served c) := by
    refine reaches_served ?_ rfl ?_ ?_
    · simp [s₇, s₆, s₅, hring, TicketRing.claimHead, TicketRing.publish, TicketRing.make,
        TicketRing.Ready]
    · simp [s₇, Monitor.rouse]
    · simp [s₇, s₆]
  have hparked : .consumer d ∈ (s₇.served c).monitor.parked := by
    simp [s₇, s₆, s₅, s₄, s₃, s₂, s₁, Monitor.wait, Monitor.rouse, Monitor.enter, Monitor.unlock,
      hcd.symm]
  refine ⟨s₇.served c, h₁.trans (h₂.trans (h₃.trans (h₄.trans (h₅.trans (h₆.trans (h₇.trans
    h₈)))))), ⟨d, hparked⟩, ?_, fun r => ?_, fun e he => ?_⟩
  · simp [s₇, s₆, s₅, hring, TicketRing.claimHead, TicketRing.claimTail, TicketRing.publish,
      TicketRing.release, TicketRing.make, TicketRing.Ready]
  · by_cases hr : r = p
    · simp [s₇, hr, PushPc.notifying]
    · by_cases hrq : r = q <;>
        simp [s₇, s₆, s₅, s₄, s₃, s₂, s₁, hr, hrq, hpq.symm, make, PushPc.notifying]
  · by_cases hec : e = c
    · simp [hec, PopPc.inside] at he
    · by_cases hed : e = d
      · rw [hed]
        exact hparked
      · simp [s₇, s₆, s₅, s₄, s₃, s₂, s₁, hec, hed, make, PopPc.inside] at he

end TwoOfEach

/-- No wake-up is ever lost exactly if there is at most one producer or at most one consumer. -/
theorem no_lost_wake_up_iff (π κ α : Type) [DecidableEq π] [DecidableEq κ] [Inhabited α]
    (capacity : ℕ) :
    (∀ (labels : List (Label π κ α)) (s : BlockingQueue π κ α),
        run step (make capacity) labels = some s → ¬ s.LostWakeUp)
      ↔ Subsingleton π ∨ Subsingleton κ := by
  constructor
  · intro h
    by_contra hnot
    rw [not_or, not_subsingleton_iff_nontrivial, not_subsingleton_iff_nontrivial] at hnot
    obtain ⟨⟨p, q, hpq⟩, ⟨c, d, hcd⟩⟩ := hnot
    obtain ⟨s, ⟨labels, hrun⟩, hlost⟩ := reaches_lost (α := α) capacity hpq hcd
    exact h labels s hrun hlost
  · rintro (hπ | hκ) labels s hrun
    · exact not_lost_of_producer hrun
    · exact not_lost_of_consumer hrun

/-- Two producers and two consumers. -/
theorem wake_up_lost : ∃ (labels : List (Label Bool Bool ℕ)) (s : BlockingQueue Bool Bool ℕ),
    run step (make 2) labels = some s ∧ s.LostWakeUp := by
  obtain ⟨s, ⟨labels, hrun⟩, hlost⟩ :=
    reaches_lost (α := ℕ) 2 (Bool.false_ne_true) (Bool.false_ne_true)
  exact ⟨labels, s, hrun, hlost⟩

end LibE3.BlockingQueue
