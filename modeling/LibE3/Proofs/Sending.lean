import LibE3.Interface

/-!
# A running interface can send

The queues and the connector are renewed by `start()` only when `started_before_` is set, and
`stop()` shuts them down in every state but two. So a `stop()` between `init()` and the first
`start()` leaves the session that follows without them.
-/

namespace LibE3

open Runs

namespace E3Interface

/-- Both queues take items, and the connector has seen neither `shutdown()` nor `dispose()`. -/
structure CanSend (e : E3Interface) : Prop where
  response : ∃ queue, e.responseQueue = some queue ∧ queue.isShutdown = false
  report : ∃ queue, e.reportQueue = some queue ∧ queue.isShutdown = false
  connector : e.connector = some {}

/-- What every state of a run satisfies when `stop()` never comes before the first `start()`. -/
structure Renewable (e : E3Interface) : Prop where
  made : e.state ≠ .uninitialized → e.responseQueue.isSome ∧ e.reportQueue.isSome
  first : e.state ≠ .uninitialized → e.startedBefore = false → e.CanSend
  running : e.state = .running → e.CanSend

/-- The condition on a step: `stop()` is not called on an interface that `init()` has set up and
no `start()` has been called on. -/
def StopsAfterStart (e : E3Interface) : Label → Prop
  | .stop => e.state ≠ .uninitialized → e.startedBefore = true
  | _ => True

instance (e : E3Interface) : ∀ a, Decidable (e.StopsAfterStart a)
  | .stop => inferInstanceAs (Decidable (_ → _))
  | .init .. | .start .. | .queueOutbound _ | .sendOutbound | .queueReport _ | .takeReport =>
    isTrue trivial

theorem renewable_constructed (config : E3Config) : (constructed config).Renewable where
  made h := (h rfl).elim
  first h := (h rfl).elim
  running h := nomatch h

variable {e : E3Interface}

theorem Renewable.init (h : e.Renewable) (encoder created : Bool) :
    (e.init encoder created).2.Renewable := by
  unfold E3Interface.init
  split_ifs with hstate hencoder hfit
  · exact h
  · exact h
  · exact h
  · have huninit : e.state = .uninitialized := not_not.mp hstate
    cases created with
    | false => exact ⟨fun hne => (hne huninit).elim, fun hne => (hne huninit).elim,
        fun hrun => (nomatch huninit.symm.trans hrun)⟩
    | true => exact ⟨fun _ => ⟨rfl, rfl⟩, fun _ _ => ⟨⟨_, rfl, rfl⟩, ⟨_, rfl, rfl⟩, rfl⟩,
        fun hrun => (nomatch hrun)⟩

theorem Renewable.renew (h : e.Renewable) (hinit : e.state = .initialized) (created : Bool) :
    (e.renew created).1 = .success ∧ (e.renew created).2.CanSend
      ∨ (e.renew created).1 ≠ .success ∧ (e.renew created).2.state = .error
        ∧ (e.renew created).2.startedBefore = true
        ∧ (e.renew created).2.responseQueue = e.responseQueue
        ∧ (e.renew created).2.reportQueue = e.reportQueue := by
  have hne : e.state ≠ .uninitialized := by
    rw [hinit]
    decide
  obtain ⟨response, hresponse⟩ := Option.isSome_iff_exists.mp (h.made hne).1
  obtain ⟨report, hreport⟩ := Option.isSome_iff_exists.mp (h.made hne).2
  unfold E3Interface.renew
  split_ifs with hbefore
  · cases created with
    | false => exact Or.inr ⟨fun hok => (nomatch hok), rfl, hbefore, rfl, rfl⟩
    | true =>
      refine Or.inl ⟨rfl, ⟨response.rearm, ?_, rfl⟩, ⟨report.rearm, ?_, rfl⟩, rfl⟩
      · exact congrArg (Option.map LockFreeQueue.rearm) hresponse
      · exact congrArg (Option.map LockFreeQueue.rearm) hreport
  · exact Or.inl ⟨rfl, h.first hne (Bool.not_eq_true _ ▸ hbefore)⟩

theorem CanSend.made (h : e.CanSend) :
    e.responseQueue.isSome ∧ e.reportQueue.isSome := by
  obtain ⟨response, hresponse, -⟩ := h.response
  obtain ⟨report, hreport, -⟩ := h.report
  exact ⟨Option.isSome_iff_exists.mpr ⟨response, hresponse⟩,
    Option.isSome_iff_exists.mpr ⟨report, hreport⟩⟩

theorem Renewable.start (h : e.Renewable) (created : Bool) (connResult : ErrorCode) :
    (e.start created connResult).2.Renewable := by
  by_cases hinit : e.state = .initialized
  · have hrenew := h.renew hinit created
    rw [E3Interface.start, if_neg (not_not.mpr hinit)]
    rcases hr : e.renew created with ⟨connRc, e'⟩
    rw [hr] at hrenew
    dsimp only at hrenew ⊢
    rcases hrenew with ⟨rfl, hsend⟩ | ⟨hfail, herror, hbefore, hresponse, hreport⟩
    · rw [if_neg (not_not.mpr rfl)]
      split_ifs with hconn
      · exact ⟨fun _ => hsend.made, fun _ hb => (nomatch hb), fun hrun => (nomatch hrun)⟩
      · exact ⟨fun _ => hsend.made, fun _ hb => (nomatch hb),
          fun _ => ⟨hsend.response, hsend.report, hsend.connector⟩⟩
    · rw [if_pos hfail]
      refine ⟨fun _ => ?_, fun _ hb => (nomatch hbefore.symm.trans hb),
        fun hrun => (nomatch herror.symm.trans hrun)⟩
      rw [hresponse, hreport]
      exact h.made (by rw [hinit]; decide)
  · rw [E3Interface.start, if_pos hinit]
    exact h

theorem Renewable.stop (h : e.Renewable)
    (hafter : e.state ≠ .uninitialized → e.startedBefore = true) : e.stop.Renewable := by
  unfold E3Interface.stop
  split_ifs with hstate
  · exact h
  · have hne : e.state ≠ .uninitialized := fun huninit => hstate (Or.inl huninit)
    refine ⟨fun _ => ?_, fun _ hb => (nomatch (hafter hne).symm.trans hb), fun hrun => (nomatch hrun)⟩
    simp only [Option.isSome_map]
    exact h.made hne

theorem Renewable.of_queues {e e' : E3Interface} (h : e.Renewable) (hstate : e'.state = e.state)
    (hbefore : e'.startedBefore = e.startedBefore) (hconnector : e'.connector = e.connector)
    (hresponse : e'.responseQueue.map (·.isShutdown) = e.responseQueue.map (·.isShutdown))
    (hreport : e'.reportQueue.map (·.isShutdown) = e.reportQueue.map (·.isShutdown)) :
    e'.Renewable := by
  have hsend : e.CanSend → e'.CanSend := by
    rintro ⟨⟨response, hr, hropen⟩, ⟨report, hp, hpopen⟩, hc⟩
    rw [hr] at hresponse
    rw [hp] at hreport
    obtain ⟨response', hr', hropen'⟩ := Option.map_eq_some_iff.mp hresponse
    obtain ⟨report', hp', hpopen'⟩ := Option.map_eq_some_iff.mp hreport
    exact ⟨⟨response', hr', hropen'.trans hropen⟩, ⟨report', hp', hpopen'.trans hpopen⟩,
      hconnector.trans hc⟩
  have hsome : e'.responseQueue.isSome = e.responseQueue.isSome
      ∧ e'.reportQueue.isSome = e.reportQueue.isSome := by
    constructor
    · simpa only [Option.isSome_map] using congrArg Option.isSome hresponse
    · simpa only [Option.isSome_map] using congrArg Option.isSome hreport
  constructor
  · rw [hstate, hsome.1, hsome.2]
    exact h.made
  · rw [hstate, hbefore]
    exact fun hne hb => hsend (h.first hne hb)
  · rw [hstate]
    exact fun hrun => hsend (h.running hrun)

theorem renewable_step {e e' : E3Interface} {a : Label} (h : e.Renewable)
    (hafter : e.StopsAfterStart a) (hstep : e.step a = some e') : e'.Renewable := by
  cases a <;> obtain rfl := Option.some.inj hstep
  case init encoder created => exact h.init encoder created
  case start created connResult => exact h.start created connResult
  case stop => exact h.stop hafter
  case queueOutbound pdu =>
    unfold queueOutbound
    rcases hq : e.responseQueue with _ | queue
    · exact h
    · exact h.of_queues rfl rfl rfl (by simp [hq]) rfl
  case sendOutbound => exact h.of_queues rfl rfl rfl (by cases e.responseQueue <;> rfl) rfl
  case queueReport report => exact h.of_queues rfl rfl rfl rfl (by cases e.reportQueue <;> simp)
  case takeReport => exact h.of_queues rfl rfl rfl rfl (by cases e.reportQueue <;> rfl)

theorem CanSend.queueOutbound (h : e.CanSend) {queue : LockFreeQueue Pdu}
    (hqueue : e.responseQueue = some queue) (hroom : queue.ring.length < queue.capacity) (pdu : Pdu) :
    (e.queueOutbound pdu).1 = .success := by
  obtain ⟨response, hresponse, hopen⟩ := h.response
  obtain rfl : response = queue := Option.some.inj (hresponse.symm.trans hqueue)
  unfold E3Interface.queueOutbound
  rw [hqueue]
  exact LockFreeQueue.push_success hopen hroom

/-- In every run of an interface of either role in which no `stop()` comes between `init()` and the
first `start()`, whatever the connection setups return: while the interface is running neither
queue is shut down, the connector has seen neither `shutdown()` nor `dispose()`, and
`queue_outbound` succeeds whenever the queue is not full. -/
theorem running_can_send {config : E3Config} {as : List Label} {e : E3Interface}
    (hafter : Meets step StopsAfterStart (constructed config) as)
    (hrun : run step (constructed config) as = some e) (hrunning : e.state = .running) :
    e.CanSend ∧ ∃ queue, e.responseQueue = some queue
      ∧ (queue.ring.length < queue.capacity → ∀ pdu, (e.queueOutbound pdu).1 = .success) := by
  have hinv : e.Renewable :=
    inv_of_meets (I := Renewable) renewable_step (renewable_constructed config) hafter hrun
  have hsend := hinv.running hrunning
  obtain ⟨queue, hqueue, -⟩ := hsend.response
  exact ⟨hsend, queue, hqueue, fun hroom pdu => hsend.queueOutbound hqueue hroom pdu⟩

/-- A RAN that is stopped and started again. -/
theorem running_can_send_restarted :
    ∃ e, run step (constructed {})
        [.init true true, .start true .success, .stop, .start true .success] = some e
      ∧ e.state = .running ∧ e.CanSend := by
  obtain ⟨e, hrun, hrunning⟩ := Option.map_eq_some_iff.mp
    (show (run step (constructed {}) [.init true true, .start true .success, .stop,
      .start true .success]).map E3Interface.state = some .running by decide +kernel)
  exact ⟨e, hrun, hrunning, (running_can_send (by decide +kernel) hrun hrunning).1⟩

/-- `stop()` between `init()` and the first `start()`: the interface is running, with both queues
shut down, a connector that was disposed, and a `queue_outbound` that fails on an empty queue. -/
theorem stopped_first_cannot_send :
    ∃ e, run step (constructed { encoding := .json })
        [.init true true, .stop, .start true .success] = some e
      ∧ e.state = .running ∧ e.responseQueue = some ⟨128, [], true⟩
      ∧ e.reportQueue = some ⟨1024, [], true⟩ ∧ e.connector = some ⟨true, true⟩
      ∧ ∀ pdu, (e.queueOutbound pdu).1 = .notInitialized :=
  ⟨⟨{ encoding := .json }, .running, true, some ⟨128, [], true⟩, some ⟨1024, [], true⟩,
    some ⟨true, true⟩⟩, rfl, rfl, rfl, rfl, rfl, fun _ => rfl⟩

end E3Interface

end LibE3
