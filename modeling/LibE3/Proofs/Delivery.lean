import LibE3.ReportThreads

/-!
# Reports and the end of the report worker

A report that was taken into the queue is in the queue, with the worker, or handled, in the order of
the pushes. The inbound thread checks the shutdown flag before it touches the ring, so it can put a
report there after the worker has found the ring empty and ended. This is the only way to lose one:
`stop()` returns with every accepted report handled exactly if no report came in after that.
-/

namespace LibE3.ReportThreads

open Runs

/-- The report that is in the ring and whose `push` has not returned. -/
def Inbound.pending : Inbound → List DAppReport
  | .pushReturn r => [r]
  | _ => []

/-- The report that the worker has taken and not handled. -/
def Worker.inHand : Worker → List DAppReport
  | .handle r | .drainHandle r => [r]
  | _ => []

/-- Where the reports are, and what the joins of `stop()` have seen. -/
structure Inv (s : ReportThreads) : Prop where
  reports : s.accepted ++ s.inbound.pending = s.handled ++ s.worker.inHand ++ s.queue.ring
  joined : s.stopper = .joinWorker ∨ s.stopper = .cleanUp ∨ s.stopper = .returned →
    s.inbound = .ended
  joinedWorker : s.stopper = .cleanUp ∨ s.stopper = .returned → s.worker = .ended

def Inbound.atRing : Inbound → Bool
  | .pushRing _ => true
  | _ => false

def Pushes (s : ReportThreads) : Label → Prop
  | .inbound _ => s.inbound.atRing = true ∧ s.queue.ring.length < s.queue.capacity
  | _ => False

instance (s : ReportThreads) : ∀ l, Decidable (s.Pushes l)
  | .inbound _ => inferInstanceAs (Decidable (_ ∧ _))
  | .worker _ | .stop => inferInstanceAs (Decidable False)

/-- A report is put in the ring only while the worker has not ended. -/
def PushesInTime (s : ReportThreads) (l : Label) : Prop := s.Pushes l → s.worker ≠ .ended

instance (s : ReportThreads) (l : Label) : Decidable (s.PushesInTime l) :=
  inferInstanceAs (Decidable (_ → _))

theorem inv_started (minCapacity : ℕ) : (started minCapacity).Inv :=
  ⟨rfl, by simp [started], by simp [started]⟩

variable {s t : ReportThreads}

theorem Inv.of_inbound (h : s.Inv) (hne : s.inbound ≠ .ended) {pc : Inbound}
    {queue : LockFreeQueue DAppReport} {accepted : List DAppReport}
    (hreports : accepted ++ pc.pending = s.handled ++ s.worker.inHand ++ queue.ring) :
    Inv { s with inbound := pc, queue := queue, accepted := accepted } :=
  ⟨hreports, fun hjoined => absurd (h.joined hjoined) hne, h.joinedWorker⟩

theorem Inv.of_worker (h : s.Inv) (hne : s.worker ≠ .ended) {pc : Worker}
    {queue : LockFreeQueue DAppReport} {handled : List DAppReport}
    (hreports : s.accepted ++ s.inbound.pending = handled ++ pc.inHand ++ queue.ring) :
    Inv { s with worker := pc, queue := queue, handled := handled } :=
  ⟨hreports, h.joined, fun hjoined => absurd (h.joinedWorker hjoined) hne⟩

theorem inv_inboundStep {received : Received} (h : s.Inv) (ht : s.inboundStep received = some t) :
    t.Inv := by
  have hreports := h.reports
  unfold inboundStep at ht
  rcases hpc : s.inbound with _ | _ | _ | _ | r | r | r | _ <;>
    simp only [hpc, Inbound.pending, List.append_nil] at ht hreports
  · -- the connection is set up
    obtain rfl := Option.some.inj ht
    refine h.of_inbound (by simp [hpc]) ?_
    split_ifs <;> simpa [Inbound.pending] using hreports
  · obtain rfl := Option.some.inj ht
    refine h.of_inbound (by simp [hpc]) ?_
    split_ifs <;> simpa [Inbound.pending] using hreports
  · rcases received with _ | _ | r <;> obtain rfl := Option.some.inj ht <;>
      exact h.of_inbound (by simp [hpc]) (by simpa [Inbound.pending] using hreports)
  · obtain rfl := Option.some.inj ht
    refine h.of_inbound (by simp [hpc]) ?_
    split_ifs <;> simpa [Inbound.pending] using hreports
  · obtain rfl := Option.some.inj ht
    refine h.of_inbound (by simp [hpc]) ?_
    split_ifs <;> simpa [Inbound.pending] using hreports
  · -- the report is put behind the others
    split_ifs at ht with hroom
    · obtain rfl := Option.some.inj ht
      refine h.of_inbound (by simp [hpc]) ?_
      rw [Inbound.pending, hreports]
      simp
    · obtain rfl := Option.some.inj ht
      exact h.of_inbound (by simp [hpc]) (by simpa [Inbound.pending] using hreports)
  · obtain rfl := Option.some.inj ht
    exact h.of_inbound (by simp [hpc]) (by simpa [Inbound.pending] using hreports)
  · exact absurd ht nofun

theorem Inv.take (h : s.Inv) (hne : s.worker ≠ .ended) (hhand : s.worker.inHand = [])
    {found : DAppReport → Worker} {empty : Worker} (hfound : ∀ r, (found r).inHand = [r])
    (hempty : empty.inHand = []) : (s.take found empty).Inv := by
  have hreports := h.reports
  rw [hhand, List.append_nil] at hreports
  unfold ReportThreads.take
  rcases hring : s.queue.ring with _ | ⟨r, rest⟩
  · refine h.of_worker hne ?_
    rw [hempty, List.append_nil, hreports]
  · refine h.of_worker hne ?_
    rw [hfound, hreports, hring]
    simp

theorem inv_workerStep {deadline : Bool} (h : s.Inv) (ht : s.workerStep deadline = some t) :
    t.Inv := by
  have hreports := h.reports
  unfold workerStep at ht
  rcases hpc : s.worker with _ | _ | _ | _ | r | _ | r | _ <;> simp only [hpc] at ht
  · obtain rfl := Option.some.inj ht
    refine h.of_worker (by simp [hpc]) ?_
    rw [hpc] at hreports
    split_ifs <;> simpa [Worker.inHand] using hreports
  · obtain rfl := Option.some.inj ht
    exact h.take (by simp [hpc]) (by simp [hpc, Worker.inHand]) (fun _ => rfl) rfl
  · obtain rfl := Option.some.inj ht
    refine h.of_worker (by simp [hpc]) ?_
    rw [hpc] at hreports
    split_ifs <;> simpa [Worker.inHand] using hreports
  · obtain rfl := Option.some.inj ht
    exact h.take (by simp [hpc]) (by simp [hpc, Worker.inHand]) (fun _ => rfl) rfl
  · obtain rfl := Option.some.inj ht
    refine h.of_worker (by simp [hpc]) ?_
    rw [hpc] at hreports
    simpa [Worker.inHand] using hreports
  · obtain rfl := Option.some.inj ht
    exact h.take (by simp [hpc]) (by simp [hpc, Worker.inHand]) (fun _ => rfl) rfl
  · obtain rfl := Option.some.inj ht
    refine h.of_worker (by simp [hpc]) ?_
    rw [hpc] at hreports
    simpa [Worker.inHand] using hreports
  · exact absurd ht nofun

theorem inv_stopStep (h : s.Inv) (ht : s.stopStep = some t) : t.Inv := by
  unfold stopStep at ht
  rcases hpc : s.stopper with _ | _ | _ | _ | _ | _ | _ | _ <;> simp only [hpc] at ht
  case joinInbound =>
    split_ifs at ht with hended
    obtain rfl := Option.some.inj ht
    exact ⟨h.reports, fun _ => hended, by simp⟩
  case joinWorker =>
    split_ifs at ht with hended
    obtain rfl := Option.some.inj ht
    exact ⟨h.reports, fun _ => h.joined (.inl hpc), fun _ => hended⟩
  case cleanUp =>
    obtain rfl := Option.some.inj ht
    exact ⟨h.reports, fun _ => h.joined (.inr (.inl hpc)), fun _ => h.joinedWorker (.inl hpc)⟩
  case returned => exact absurd ht nofun
  all_goals
    obtain rfl := Option.some.inj ht
    exact ⟨h.reports, by simp, by simp⟩

theorem inv_step {l : Label} (h : s.Inv) (ht : s.step l = some t) : t.Inv := by
  cases l with
  | inbound received => exact inv_inboundStep h ht
  | worker deadline => exact inv_workerStep h ht
  | stop => exact inv_stopStep h ht

theorem inboundStep_ring {received : Received} (ht : s.inboundStep received = some t) :
    t.worker = s.worker ∧
      ((s.Pushes (.inbound received) ∧ ∃ r, t.queue.ring = s.queue.ring ++ [r]) ∨
        (¬ s.Pushes (.inbound received) ∧ t.queue.ring = s.queue.ring)) := by
  unfold inboundStep at ht
  rcases hpc : s.inbound with _ | _ | _ | _ | r | r | r | _ <;> simp only [hpc] at ht
  case pushRing =>
    split_ifs at ht with hroom
    · obtain rfl := Option.some.inj ht
      exact ⟨rfl, .inl ⟨⟨by simp [hpc, Inbound.atRing], hroom⟩, r, rfl⟩⟩
    · obtain rfl := Option.some.inj ht
      exact ⟨rfl, .inr ⟨fun hpush => hroom hpush.2, rfl⟩⟩
  case receive =>
    rcases received with _ | _ | r <;> obtain rfl := Option.some.inj ht <;>
      exact ⟨rfl, .inr ⟨by simp [Pushes, hpc, Inbound.atRing], rfl⟩⟩
  case ended => exact absurd ht nofun
  all_goals
    obtain rfl := Option.some.inj ht
    exact ⟨rfl, .inr ⟨by simp [Pushes, hpc, Inbound.atRing], rfl⟩⟩

theorem stopStep_ring (ht : s.stopStep = some t) :
    t.worker = s.worker ∧ t.queue.ring = s.queue.ring := by
  unfold stopStep at ht
  rcases hpc : s.stopper with _ | _ | _ | _ | _ | _ | _ | _ <;> simp only [hpc] at ht
  case returned => exact absurd ht nofun
  case joinInbound | joinWorker =>
    split_ifs at ht
    obtain rfl := Option.some.inj ht
    exact ⟨rfl, rfl⟩
  all_goals
    obtain rfl := Option.some.inj ht
    exact ⟨rfl, rfl⟩

theorem workerStep_ended {deadline : Bool} (ht : s.workerStep deadline = some t)
    (hended : t.worker = .ended) : s.worker ≠ .ended ∧ t.queue.ring = [] := by
  unfold workerStep at ht
  rcases hpc : s.worker with _ | _ | _ | _ | r | _ | r | _ <;> simp only [hpc] at ht
  case drainTry =>
    obtain rfl := Option.some.inj ht
    refine ⟨nofun, ?_⟩
    unfold take at hended ⊢
    rcases hring : s.queue.ring with _ | ⟨r, rest⟩
    · exact hring
    · simp [hring] at hended
  case ended => exact absurd ht nofun
  all_goals
    obtain rfl := Option.some.inj ht
    refine absurd hended ?_
    first
      | (unfold take; split <;> simp)
      | (split_ifs <;> simp)
      | simp

theorem ended_cases {l : Label} (ht : s.step l = some t) (hended : t.worker = .ended) :
    (s.worker ≠ .ended ∧ t.queue.ring = []) ∨
      (s.worker = .ended ∧ s.Pushes l ∧ t.queue.ring ≠ []) ∨
      (s.worker = .ended ∧ ¬ s.Pushes l ∧ t.queue.ring = s.queue.ring) := by
  cases l with
  | inbound received =>
    obtain ⟨hworker, ⟨hpush, r, hring⟩ | ⟨hpush, hring⟩⟩ := inboundStep_ring ht
    · exact .inr (.inl ⟨hworker ▸ hended, hpush, by simp [hring]⟩)
    · exact .inr (.inr ⟨hworker ▸ hended, hpush, hring⟩)
  | worker deadline => exact .inl (workerStep_ended ht hended)
  | stop =>
    obtain ⟨hworker, hring⟩ := stopStep_ring ht
    exact .inr (.inr ⟨hworker ▸ hended, id, hring⟩)

theorem ended_step {l : Label} (ht : s.step l = some t) (hended : s.worker = .ended) :
    t.worker = .ended := by
  cases l with
  | inbound received => exact (inboundStep_ring ht).1.trans hended
  | worker deadline => simp [step, workerStep, hended] at ht
  | stop => exact (stopStep_ring ht).1.trans hended

/-- If the worker has ended, the ring is empty. -/
def Drained (s : ReportThreads) : Prop := s.worker = .ended → s.queue.ring = []

/-- The worker has ended, and there is a report in the ring. -/
def Stranded (s : ReportThreads) : Prop := s.worker = .ended ∧ s.queue.ring ≠ []

theorem drained_step {l : Label} (hs : s.Drained) (hl : s.PushesInTime l)
    (ht : s.step l = some t) : t.Drained := by
  intro hended
  rcases ended_cases ht hended with ⟨-, hring⟩ | ⟨hs', hpush, -⟩ | ⟨hs', -, hring⟩
  · exact hring
  · exact absurd hs' (hl hpush)
  · rw [hring, hs hs']

theorem stranded_of_late {l : Label} (hl : ¬ s.PushesInTime l) (ht : s.step l = some t) :
    t.Stranded := by
  unfold PushesInTime at hl
  push Not at hl
  obtain ⟨hpush, hended⟩ := hl
  have hended' := ended_step ht hended
  rcases ended_cases ht hended' with ⟨hs', -⟩ | ⟨-, -, hring⟩ | ⟨-, hpush', -⟩
  · exact absurd hended hs'
  · exact ⟨hended', hring⟩
  · exact absurd hpush hpush'

theorem stranded_step {l : Label} (hs : s.Stranded) (ht : s.step l = some t) : t.Stranded := by
  have hended := ended_step ht hs.1
  refine ⟨hended, ?_⟩
  rcases ended_cases ht hended with ⟨hs', -⟩ | ⟨-, -, hring⟩ | ⟨-, -, hring⟩
  · exact absurd hs.1 hs'
  · exact hring
  · rw [hring]
    exact hs.2

/-- When `stop()` returns, what was accepted is what was handled and what is left in the ring. -/
theorem Inv.of_returned (h : s.Inv) (hstop : s.stopper = .returned) :
    s.worker = .ended ∧ s.accepted = s.handled ++ s.queue.ring := by
  have hworker := h.joinedWorker (.inr hstop)
  have hinbound := h.joined (.inr (.inr hstop))
  have hreports := h.reports
  rw [hinbound, hworker] at hreports
  exact ⟨hworker, by simpa [Inbound.pending, Worker.inHand] using hreports⟩

/-- For every interleaving of the three threads in which `stop()` returns: the reports whose `push`
returned `SUCCESS` were passed to the handler, each once and in their order, if and only if no
report was put in the ring after the worker had found it empty in its last drain and ended. -/
theorem accepted_reports_handled_iff {minCapacity : ℕ} {labels : List Label}
    (h : run step (started minCapacity) labels = some t) (hstop : t.stopper = .returned) :
    t.handled = t.accepted ↔ Meets step PushesInTime (started minCapacity) labels := by
  have hinv : t.Inv := inv inv_step (inv_started minCapacity) h
  obtain ⟨hended, haccepted⟩ := hinv.of_returned hstop
  have hstart : (started minCapacity).Drained := fun hended => absurd hended nofun
  constructor
  · intro hall
    rcases meets_or_lasting (fun _ hl => stranded_of_late hl) drained_step stranded_step hstart h
      with hmeets | hstranded
    · exact hmeets
    · rw [hall] at haccepted
      exact absurd (List.self_eq_append_right.mp haccepted) hstranded.2
  · intro hmeets
    have hdrained : t.Drained := inv_of_meets drained_step hstart hmeets h
    rw [haccepted, hdrained hended, List.append_nil]

/-- The inbound thread takes a report in and finds the queue open. -/
def checked : List Label :=
  [.inbound .other, .inbound .other, .inbound (.report {}), .inbound .other]

/-- `stop()` sets its flags, and the worker sees the flag, finds the ring empty and ends. -/
def stopped : List Label := [.stop, .stop, .stop, .stop, .worker false, .worker false]

def pushed : List Label := [.inbound .other, .inbound .other, .inbound .other]

def joined : List Label := [.stop, .stop, .stop]

def handles : List Label := [.worker false, .worker false, .worker false]

theorem accepted_reports_handled_before_stop :
    ∃ t, run step (started 1024)
        (checked ++ [.inbound .other, .inbound .other] ++ handles ++ stopped ++ [.inbound .other]
          ++ joined) = some t
      ∧ t.accepted = [{}] ∧ t.handled = t.accepted := by
  obtain ⟨t, hrun, hstop, haccepted⟩ : ∃ t, run step (started 1024)
        (checked ++ [.inbound .other, .inbound .other] ++ handles ++ stopped ++ [.inbound .other]
          ++ joined) = some t ∧ t.stopper = .returned ∧ t.accepted = [{}] := ⟨_, rfl, rfl, rfl⟩
  refine ⟨t, hrun, haccepted, (accepted_reports_handled_iff hrun hstop).mpr ?_⟩
  decide

/-- A report that is checked in before `stop()` and put in the ring after the worker has ended. -/
theorem accepted_report_stranded :
    ∃ t, run step (started 1024) (checked ++ stopped ++ pushed ++ joined) = some t
      ∧ t.stopper = .returned ∧ t.accepted = [{}] ∧ t.handled = [] :=
  ⟨_, rfl, rfl, rfl, rfl⟩

end LibE3.ReportThreads
