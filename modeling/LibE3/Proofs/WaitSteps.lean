import LibE3.BlockingQueue

/-!
# The steps of the queue that consumers wait on

Everything that a step of a thread can do, and what holds of the mutex: it belongs to the thread that
is where it has it, and the threads that are parked or woken are consumers in their wait.
-/

namespace LibE3.BlockingQueue

variable {π κ α : Type}

/-- Before the claim of a ticket, or in no call. -/
def PushPc.quiet : PushPc α → Bool
  | .idle | .checkShutdown _ | .claim _ | .returned _ => true
  | _ => false

def PushPc.locking : PushPc α → Bool
  | .lock => true
  | _ => false

/-- Before the mutex is locked, or in no call. -/
def PopPc.quiet : PopPc α → Bool
  | .idle | .poll _ | .pollShutdown _ | .lock | .returned _ => true
  | _ => false

/-- About to try, with the mutex. -/
def PopPc.trying : PopPc α → Bool
  | .tryPop => true
  | _ => false

/-- Between a try that failed and the wait. -/
def PopPc.checking : PopPc α → Bool
  | .checkShutdown | .wait => true
  | _ => false

/-- With the mutex. -/
def PopPc.holds : PopPc α → Bool
  | .tryPop | .checkShutdown | .wait | .unlock _ => true
  | .release _ locked => locked
  | _ => false

variable [DecidableEq π] [DecidableEq κ]

/-- Everything that a step can do. -/
inductive Moved (s : BlockingQueue π κ α) : BlockingQueue π κ α → Prop
  | pushOn {p : π} {pc : PushPc α} (hfrom : (s.producers p).quiet = true)
      (hto : pc.quiet = true) : Moved s (s.gotoPush p pc)
  | claimHead {p : π} {item : α} (hpc : (s.producers p).quiet = true) (hroom : s.ring.HasRoom) :
    Moved s ({ s with ring := s.ring.claimHead }.gotoPush p (.publish s.ring.head item))
  | publish {p : π} {pos : ℕ} {item : α} (hpc : s.producers p = .publish pos item) :
    Moved s ({ s with ring := s.ring.publish pos item }.gotoPush p .lock)
  | lockPush {p : π} (hpc : s.producers p = .lock) (hfree : s.monitor.owner = none) :
    Moved s ({ s with
      monitor := { s.monitor with owner := some (.producer p) } }.gotoPush p .unlock)
  | unlockPush {p : π} (hpc : s.producers p = .unlock) :
    Moved s ({ s with monitor := s.monitor.unlock }.gotoPush p .notify)
  | notify {p : π} {choice : Option (Thread π κ)} {monitor : Monitor (Thread π κ)}
      (hpc : s.producers p = .notify) (hm : s.monitor.notifyOne choice = some monitor) :
    Moved s ({ s with monitor := monitor }.gotoPush p (.returned .success))
  | popOn {c : κ} {pc : PopPc α} (hfrom : (s.consumers c).quiet = true)
      (hto : pc.quiet = true) : Moved s (s.gotoPop c pc)
  | claimTail {c : κ} {locked : Bool} (hpc : (s.consumers c).holds = locked)
      (hawake : (s.consumers c).quiet = true ∨ s.consumers c = .tryPop) (hready : s.ring.Ready) :
    Moved s ({ s with ring := s.ring.claimTail }.gotoPop c (.release s.ring.tail locked))
  | empty {c : κ} (hpc : s.consumers c = .tryPop) (hempty : ¬ s.ring.Ready) :
    Moved s (s.gotoPop c .checkShutdown)
  | checked {c : κ} {pc : PopPc α} (hpc : s.consumers c = .checkShutdown)
      (hto : pc = .wait ∨ ∃ item, pc = .unlock item) : Moved s (s.gotoPop c pc)
  | lockPop {c : κ} (hpc : s.consumers c = .lock) (hfree : s.monitor.owner = none) :
    Moved s ({ s with
      monitor := { s.monitor with owner := some (.consumer c) } }.gotoPop c .tryPop)
  | wait {c : κ} (hpc : s.consumers c = .wait) :
    Moved s ({ s with monitor := s.monitor.wait (.consumer c) }.gotoPop c .waiting)
  | resume {c : κ} {monitor : Monitor (Thread π κ)} (hpc : s.consumers c = .waiting)
      (hm : s.monitor.resume (.consumer c) = some monitor) :
    Moved s ({ s with monitor := monitor }.gotoPop c .tryPop)
  | release {c : κ} {pos : ℕ} {locked : Bool} {item : α}
      (hpc : s.consumers c = .release pos locked) :
    Moved s ({ s with ring := s.ring.release pos }.gotoPop c
      (if locked then .unlock item else .returned item))
  | unlockPop {c : κ} {item : α} (hpc : s.consumers c = .unlock item) :
    Moved s ({ s with monitor := s.monitor.unlock }.gotoPop c (.returned item))
  | wake {c : κ} {monitor : Monitor (Thread π κ)}
      (hm : s.monitor.wake (.consumer c) = some monitor) : Moved s { s with monitor := monitor }
  | close {isShutdown : Bool} {pc : ClosePc} (hto : pc ≠ .unlock) (hfrom : s.closer ≠ .unlock) :
    Moved s { s with isShutdown := isShutdown, closer := pc }
  | lockClose (hfree : s.monitor.owner = none) :
    Moved s { s with monitor := { s.monitor with owner := some .closer }, closer := .unlock }
  | unlockClose (hpc : s.closer = .unlock) :
    Moved s { s with monitor := s.monitor.unlock, closer := .notifyAll }
  | notifyAll (hpc : s.closer = .notifyAll) :
    Moved s { s with monitor := s.monitor.notifyAll, closer := .idle }

variable {s s' : BlockingQueue π κ α}

theorem polling_quiet (polls : ℕ) : (PopPc.polling polls : PopPc α).quiet = true := by
  cases polls <;> rfl

theorem moved_of_producer {p : π} {wakes : Option κ} (h : s.producerStep p wakes = some s') :
    s.Moved s' := by
  unfold producerStep at h
  rcases hpc : s.producers p with _ | item | item | ⟨pos, item⟩ | _ | _ | _ | code <;>
    simp only [hpc] at h
  · cases h
  · obtain rfl := Option.some.inj h
    refine .pushOn (by rw [hpc]; rfl) ?_
    split_ifs <;> rfl
  · split_ifs at h with hroom <;> obtain rfl := Option.some.inj h
    · exact .claimHead (by rw [hpc]; rfl) hroom
    · exact .pushOn (by rw [hpc]; rfl) rfl
  · obtain rfl := Option.some.inj h
    exact .publish hpc
  · obtain ⟨monitor, hm, rfl⟩ := Option.map_eq_some_iff.mp h
    obtain ⟨hfree, rfl⟩ := Monitor.lock_eq_some.mp hm
    exact .lockPush hpc hfree
  · obtain rfl := Option.some.inj h
    exact .unlockPush hpc
  · obtain ⟨monitor, hm, rfl⟩ := Option.map_eq_some_iff.mp h
    exact .notify hpc hm
  · cases h

theorem moved_of_tryPop {c : κ} {locked : Bool} {empty : PopPc α}
    (hholds : (s.consumers c).holds = locked)
    (hawake : (s.consumers c).quiet = true ∨ s.consumers c = .tryPop)
    (hempty : ¬ s.ring.Ready → s.Moved (s.gotoPop c empty)) :
    s.Moved (s.tryPop c locked empty) := by
  unfold BlockingQueue.tryPop
  split_ifs with hready
  · exact .claimTail hholds hawake hready
  · exact hempty hready

theorem moved_of_consumer [Inhabited α] {c : κ} (h : s.consumerStep c = some s') :
    s.Moved s' := by
  unfold consumerStep at h
  rcases hpc : s.consumers c with _ | polls | polls | _ | _ | _ | _ | _ | ⟨pos, locked⟩ | item |
      item <;> simp only [hpc] at h
  · cases h
  · obtain rfl := Option.some.inj h
    have hquiet : (s.consumers c).quiet = true := by rw [hpc]; rfl
    exact moved_of_tryPop (by rw [hpc]; rfl) (.inl hquiet) fun _ => .popOn hquiet rfl
  · obtain rfl := Option.some.inj h
    refine .popOn (by rw [hpc]; rfl) ?_
    split_ifs
    · rfl
    · exact polling_quiet polls
  · obtain ⟨monitor, hm, rfl⟩ := Option.map_eq_some_iff.mp h
    obtain ⟨hfree, rfl⟩ := Monitor.lock_eq_some.mp hm
    exact .lockPop hpc hfree
  · obtain rfl := Option.some.inj h
    exact moved_of_tryPop (by rw [hpc]; rfl) (.inr hpc) fun hempty => .empty hpc hempty
  · obtain rfl := Option.some.inj h
    refine .checked hpc ?_
    split_ifs
    · exact .inr ⟨default, rfl⟩
    · exact .inl rfl
  · obtain rfl := Option.some.inj h
    exact .wait hpc
  · obtain ⟨monitor, hm, rfl⟩ := Option.map_eq_some_iff.mp h
    exact .resume hpc hm
  · obtain rfl := Option.some.inj h
    exact .release hpc
  · obtain rfl := Option.some.inj h
    exact .unlockPop hpc
  · cases h

theorem moved_of_closer (h : s.closerStep = some s') : s.Moved s' := by
  unfold closerStep at h
  rcases hpc : s.closer with _ | _ | _ | _ | _ <;> simp only [hpc] at h
  · cases h
  · obtain rfl := Option.some.inj h
    exact .close nofun (by rw [hpc]; nofun)
  · obtain ⟨monitor, hm, rfl⟩ := Option.map_eq_some_iff.mp h
    obtain ⟨hfree, rfl⟩ := Monitor.lock_eq_some.mp hm
    exact .lockClose hfree
  · obtain rfl := Option.some.inj h
    exact .unlockClose hpc
  · obtain rfl := Option.some.inj h
    exact .notifyAll hpc

theorem moved_of_step [Inhabited α] {label : Label π κ α} (h : s.step label = some s') :
    s.Moved s' := by
  cases label with
  | push p item =>
    simp only [step, push] at h
    split at h
    · next hpc =>
      obtain rfl := Option.some.inj h
      exact .pushOn (by rw [hpc]; rfl) rfl
    · next code hpc =>
      obtain rfl := Option.some.inj h
      exact .pushOn (by rw [hpc]; rfl) rfl
    · cases h
  | producer p wakes => exact moved_of_producer h
  | pop c =>
    simp only [step, pop] at h
    split at h
    · next hpc =>
      obtain rfl := Option.some.inj h
      exact .popOn (by rw [hpc]; rfl) (polling_quiet _)
    · next item hpc =>
      obtain rfl := Option.some.inj h
      exact .popOn (by rw [hpc]; rfl) (polling_quiet _)
    · cases h
  | consumer c => exact moved_of_consumer h
  | wake c =>
    obtain ⟨monitor, hm, rfl⟩ := Option.map_eq_some_iff.mp h
    exact .wake hm
  | shutdown =>
    simp only [step] at h
    split at h
    · next hpc =>
      obtain rfl := Option.some.inj h
      exact .close nofun (by rw [hpc]; nofun)
    · cases h
  | closer => exact moved_of_closer h

/-- The thread is where it has the mutex. -/
def Holds (s : BlockingQueue π κ α) : Thread π κ → Prop
  | .producer p => s.producers p = .unlock
  | .consumer c => (s.consumers c).holds = true
  | .closer => s.closer = .unlock

/-- The mutex belongs to the thread that is where it has it, and who is parked or woken is a consumer
in its wait. -/
structure Guarded (s : BlockingQueue π κ α) : Prop where
  owner : ∀ t, s.Holds t → s.monitor.owner = some t
  waiting : ∀ t, t ∈ s.monitor.parked ∨ t ∈ s.monitor.woken →
    ∃ c, t = .consumer c ∧ s.consumers c = .waiting

omit [DecidableEq κ] in
theorem holds_of_push {p : π} {pc : PushPc α}
    (hp : s'.producers = Function.update s.producers p pc) (hc : s'.consumers = s.consumers)
    (hcl : s'.closer = s.closer) : ∀ u ≠ .producer p, s'.Holds u → s.Holds u := by
  rintro (q | c | _) hu h
  · have hq : q ≠ p := fun heq => hu (heq ▸ rfl)
    simp only [Holds, hp, Function.update_of_ne hq] at h
    exact h
  · simp only [Holds, hc] at h
    exact h
  · simp only [Holds, hcl] at h
    exact h

omit [DecidableEq π] in
theorem holds_of_pop {c : κ} {pc : PopPc α} (hp : s'.producers = s.producers)
    (hc : s'.consumers = Function.update s.consumers c pc) (hcl : s'.closer = s.closer) :
    ∀ u ≠ .consumer c, s'.Holds u → s.Holds u := by
  rintro (q | d | _) hu h
  · simp only [Holds, hp] at h
    exact h
  · have hd : d ≠ c := fun heq => hu (heq ▸ rfl)
    simp only [Holds, hc, Function.update_of_ne hd] at h
    exact h
  · simp only [Holds, hcl] at h
    exact h

omit [DecidableEq π] [DecidableEq κ] in
theorem holds_of_close (hp : s'.producers = s.producers) (hc : s'.consumers = s.consumers) :
    ∀ u ≠ .closer, s'.Holds u → s.Holds u := by
  rintro (q | d | _) hu h
  · simp only [Holds, hp] at h
    exact h
  · simp only [Holds, hc] at h
    exact h
  · exact absurd rfl hu

namespace Guarded

variable {t : Thread π κ}

omit [DecidableEq π] [DecidableEq κ]

theorem owner_keep (h : s.Guarded) (howner : s'.monitor.owner = s.monitor.owner)
    (hothers : ∀ u ≠ t, s'.Holds u → s.Holds u) (hown : s'.Holds t → s.Holds t) :
    ∀ u, s'.Holds u → s'.monitor.owner = some u := by
  intro u hu
  rw [howner]
  by_cases hut : u = t
  · subst hut
    exact h.owner u (hown hu)
  · exact h.owner u (hothers u hut hu)

theorem owner_lock (h : s.Guarded) (hfree : s.monitor.owner = none)
    (howner : s'.monitor.owner = some t) (hothers : ∀ u ≠ t, s'.Holds u → s.Holds u) :
    ∀ u, s'.Holds u → s'.monitor.owner = some u := by
  intro u hu
  by_cases hut : u = t
  · rw [howner, hut]
  · have hold := h.owner u (hothers u hut hu)
    rw [hfree] at hold
    cases hold

theorem owner_unlock (h : s.Guarded) (hheld : s.Holds t) (hnot : ¬ s'.Holds t)
    (hothers : ∀ u ≠ t, s'.Holds u → s.Holds u) :
    ∀ u, s'.Holds u → s'.monitor.owner = some u := by
  intro u hu
  have hut : u ≠ t := by
    rintro rfl
    exact hnot hu
  have hold := h.owner u (hothers u hut hu)
  rw [h.owner t hheld] at hold
  exact absurd (Option.some.inj hold).symm hut

end Guarded

omit [DecidableEq π] in
theorem Guarded.waiting_pop (h : s.Guarded) {c : κ} {pc : PopPc α}
    (hc : s'.consumers = Function.update s.consumers c pc) (hne : s.consumers c ≠ .waiting)
    (hset : ∀ t, t ∈ s'.monitor.parked ∨ t ∈ s'.monitor.woken →
      t ∈ s.monitor.parked ∨ t ∈ s.monitor.woken) :
    ∀ t, t ∈ s'.monitor.parked ∨ t ∈ s'.monitor.woken →
      ∃ d, t = .consumer d ∧ s'.consumers d = .waiting := by
  intro t ht
  obtain ⟨d, rfl, hd⟩ := h.waiting t (hset t ht)
  have hdc : d ≠ c := by
    rintro rfl
    exact hne hd
  refine ⟨d, rfl, ?_⟩
  rw [hc, Function.update_of_ne hdc, hd]

theorem quiet_ne_waiting {pc : PopPc α} (h : pc.quiet = true) : pc ≠ .waiting := by
  rintro rfl
  cases h

theorem quiet_holds {pc : PopPc α} (h : pc.quiet = true) : pc.holds = false := by
  cases pc <;> first | rfl | cases h

theorem Guarded.moved (h : s.Guarded) (hmoved : s.Moved s') : s'.Guarded := by
  have hsame : ∀ t, t ∈ s.monitor.parked ∨ t ∈ s.monitor.woken →
      t ∈ s.monitor.parked ∨ t ∈ s.monitor.woken := fun _ ht => ht
  cases hmoved with
  | @pushOn p pc hfrom hto =>
    refine ⟨h.owner_keep rfl (holds_of_push rfl rfl rfl) fun hown => ?_, h.waiting⟩
    simp only [Holds, gotoPush, Function.update_self] at hown
    rw [hown] at hto
    cases hto
  | claimHead hpc hroom =>
    refine ⟨h.owner_keep rfl (holds_of_push rfl rfl rfl) fun hown => ?_, h.waiting⟩
    simp [Holds, gotoPush] at hown
  | publish hpc =>
    refine ⟨h.owner_keep rfl (holds_of_push rfl rfl rfl) fun hown => ?_, h.waiting⟩
    simp [Holds, gotoPush] at hown
  | lockPush hpc hfree => exact ⟨h.owner_lock hfree rfl (holds_of_push rfl rfl rfl), h.waiting⟩
  | @unlockPush p hpc =>
    refine ⟨h.owner_unlock (t := .producer p) hpc ?_ (holds_of_push rfl rfl rfl), h.waiting⟩
    simp [Holds, gotoPush]
  | @notify p choice monitor hpc hm =>
    obtain ⟨howner, -, hunion, -⟩ := Monitor.notifyOne_spec hm
    refine ⟨h.owner_keep howner (holds_of_push rfl rfl rfl) fun hown => ?_, fun t ht => ?_⟩
    · simp [Holds, gotoPush] at hown
    · have hmem : t ∈ monitor.woken ∪ monitor.parked := Finset.mem_union.mpr ht.symm
      rw [hunion, Finset.mem_union] at hmem
      exact h.waiting t hmem.symm
  | @popOn c pc hfrom hto =>
    refine ⟨h.owner_keep rfl (holds_of_pop rfl rfl rfl) fun hown => ?_,
      h.waiting_pop rfl (quiet_ne_waiting hfrom) hsame⟩
    simp only [Holds, gotoPop, Function.update_self, quiet_holds hto] at hown
    cases hown
  | @claimTail c locked hpc hawake hready =>
    refine ⟨h.owner_keep rfl (holds_of_pop rfl rfl rfl) fun hown => ?_,
      h.waiting_pop rfl ?_ hsame⟩
    · simp only [Holds, gotoPop, Function.update_self, PopPc.holds] at hown
      exact hpc.trans hown
    · rcases hawake with hquiet | htry
      · exact quiet_ne_waiting hquiet
      · rw [htry]
        rintro ⟨⟩
  | @empty c hpc hempty =>
    refine ⟨h.owner_keep (t := .consumer c) rfl (holds_of_pop rfl rfl rfl) fun _ => ?_,
      h.waiting_pop rfl (by rw [hpc]; rintro ⟨⟩) hsame⟩
    simp [Holds, hpc, PopPc.holds]
  | @checked c pc hpc hto =>
    refine ⟨h.owner_keep (t := .consumer c) rfl (holds_of_pop rfl rfl rfl) fun _ => ?_,
      h.waiting_pop rfl (by rw [hpc]; rintro ⟨⟩) hsame⟩
    simp [Holds, hpc, PopPc.holds]
  | lockPop hpc hfree =>
    exact ⟨h.owner_lock hfree rfl (holds_of_pop rfl rfl rfl),
      h.waiting_pop rfl (by rw [hpc]; rintro ⟨⟩) hsame⟩
  | @wait c hpc =>
    refine ⟨h.owner_unlock (t := .consumer c) (by simp [Holds, hpc, PopPc.holds])
      (by simp [Holds, gotoPop, PopPc.holds]) (holds_of_pop rfl rfl rfl), fun t ht => ?_⟩
    by_cases htc : t = .consumer c
    · exact ⟨c, htc, by simp [gotoPop]⟩
    · have hmem : t ∈ s.monitor.parked ∨ t ∈ s.monitor.woken := by
        simpa [gotoPop, Monitor.wait, htc] using ht
      obtain ⟨d, rfl, hd⟩ := h.waiting t hmem
      have hdc : d ≠ c := fun heq => htc (heq ▸ rfl)
      exact ⟨d, rfl, by simp [gotoPop, hdc, hd]⟩
  | @resume c monitor hpc hm =>
    obtain ⟨hwoken, hfree, howner, hparked, herase⟩ := Monitor.resume_spec hm
    refine ⟨h.owner_lock hfree howner (holds_of_pop rfl rfl rfl), fun t ht => ?_⟩
    -- the consumer that goes on is neither parked nor woken any more
    have hmem : t ≠ .consumer c ∧ (t ∈ s.monitor.parked ∨ t ∈ s.monitor.woken) := by
      simp only [gotoPop, hparked, herase, Finset.mem_erase] at ht
      rcases ht with ht | ⟨hne, ht⟩
      · refine ⟨?_, .inl ht⟩
        rintro rfl
        exact Finset.disjoint_left.mp s.monitor.disjoint ht hwoken
      · exact ⟨hne, .inr ht⟩
    obtain ⟨d, rfl, hd⟩ := h.waiting t hmem.2
    have hdc : d ≠ c := fun heq => hmem.1 (heq ▸ rfl)
    exact ⟨d, rfl, by simp [gotoPop, hdc, hd]⟩
  | @release c pos locked item hpc =>
    refine ⟨h.owner_keep rfl (holds_of_pop rfl rfl rfl) fun hown => ?_,
      h.waiting_pop rfl (by rw [hpc]; rintro ⟨⟩) hsame⟩
    simp only [Holds, gotoPop, Function.update_self, hpc] at hown ⊢
    cases locked
    · cases hown
    · rfl
  | @unlockPop c item hpc =>
    exact ⟨h.owner_unlock (t := .consumer c) (by simp [Holds, hpc, PopPc.holds])
      (by simp [Holds, gotoPop, PopPc.holds]) (holds_of_pop rfl rfl rfl),
      h.waiting_pop rfl (by rw [hpc]; rintro ⟨⟩) hsame⟩
  | @wake c monitor hm =>
    obtain ⟨ht, howner, hparked, hwoken, -⟩ := Monitor.wake_spec hm
    refine ⟨fun u hu => ?_, fun t hmem => h.waiting t ?_⟩
    · exact howner.trans (h.owner u hu)
    · simp only [hparked, hwoken, Finset.mem_erase, Finset.mem_insert] at hmem
      rcases hmem with ⟨-, hmem⟩ | rfl | hmem
      · exact .inl hmem
      · exact .inl ht
      · exact .inr hmem
  | close hto hfrom =>
    exact ⟨h.owner_keep rfl (holds_of_close rfl rfl) fun hown => absurd hown hto, h.waiting⟩
  | lockClose hfree => exact ⟨h.owner_lock hfree rfl (holds_of_close rfl rfl), h.waiting⟩
  | unlockClose hpc =>
    exact ⟨h.owner_unlock (t := .closer) hpc (by rintro ⟨⟩) (holds_of_close rfl rfl), h.waiting⟩
  | notifyAll hpc =>
    refine ⟨h.owner_keep (t := .closer) rfl (holds_of_close rfl rfl) (by rintro ⟨⟩), fun t ht => ?_⟩
    refine h.waiting t ?_
    simpa [Monitor.notifyAll, or_comm] using ht

omit [DecidableEq π] [DecidableEq κ] in
theorem guarded_make (capacity : ℕ) : (make capacity : BlockingQueue π κ α).Guarded := by
  refine ⟨?_, ?_⟩
  · rintro (p | c | _) h <;> cases h
  · intro t ht
    simp [make, Monitor.free] at ht

end LibE3.BlockingQueue
