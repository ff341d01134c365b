import LibE3.Lib.Partial
import LibE3.RanInterface

/-!
# What the handlers of the RAN put into the queue

A run of the whole interface is a run of its handlers with the queue left out, because the two
agree on the lifecycle (`simulates`). What a handler passes to `queue_outbound` is in the queue
afterwards if the queue is open and has room, and otherwise nowhere.
-/

namespace LibE3

open Runs Partial

namespace E3Interface

variable {e e' : E3Interface} {pdu : Pdu}

/-- The outbound queue is open and not full. -/
def HasRoom (e : E3Interface) : Prop :=
  ∃ queue, e.responseQueue = some queue ∧ queue.isShutdown = false
    ∧ queue.ring.length < queue.capacity

/-- `e'` is `e` with the PDU behind the others in the outbound queue. -/
def Queued (e : E3Interface) (pdu : Pdu) (e' : E3Interface) : Prop :=
  ∃ queue, e.responseQueue = some queue
    ∧ e' = { e with responseQueue := some { queue with ring := queue.ring ++ [pdu] } }

theorem queued_queueOutbound (h : e.HasRoom) : e.Queued pdu (e.queueOutbound pdu).2 := by
  obtain ⟨queue, hqueue, hopen, hroom⟩ := h
  exact ⟨queue, hqueue, by simp [queueOutbound, hqueue, LockFreeQueue.push, hopen, hroom]⟩

theorem queueOutbound_of_not_hasRoom (h : ¬ e.HasRoom) : (e.queueOutbound pdu).2 = e := by
  rcases e with ⟨config, state, startedBefore, _ | queue, reportQueue, connector⟩
  · rfl
  · simp only [queueOutbound, LockFreeQueue.push]
    split_ifs with hshut hroom
    · rfl
    · exact absurd ⟨queue, rfl, by simpa using hshut, hroom⟩ h
    · rfl

theorem queued_queueOutbound_iff :
    (∃ pdu', e.Queued pdu' (e.queueOutbound pdu).2) ↔ e.HasRoom := by
  refine ⟨?_, fun h => ⟨pdu, queued_queueOutbound h⟩⟩
  rintro ⟨pdu', queue, hqueue, hsame⟩
  by_contra hroom
  rw [queueOutbound_of_not_hasRoom hroom] at hsame
  have hring := congrArg (fun e => e.responseQueue.map (·.ring.length)) hsame
  simp [hqueue] at hring

theorem Queued.unique {pdu' : Pdu} (h : e.Queued pdu e') (h' : e.Queued pdu' e') : pdu = pdu' := by
  obtain ⟨queue, hqueue, rfl⟩ := h
  obtain ⟨queue', hqueue', hsame⟩ := h'
  obtain rfl := Option.some.inj (hqueue.symm.trans hqueue')
  have hring := congrArg (fun e => e.responseQueue.map (·.ring)) hsame
  simpa using hring

theorem queueOutbound_lifecycle (e : E3Interface) (pdu : Pdu) :
    (e.queueOutbound pdu).2.state = e.state
      ∧ (e.queueOutbound pdu).2.startedBefore = e.startedBefore := by
  unfold queueOutbound
  split <;> exact ⟨rfl, rfl⟩

/-- The interface and its handlers agree on the lifecycle. -/
structure Follows (e : E3Interface) (r : Ran) : Prop where
  state : r.state = e.state
  startedBefore : r.startedBefore = e.startedBefore

theorem Follows.start {r : Ran} (h : e.Follows r) (created connResult : ErrorCode) :
    (e.start (created = .success) connResult).2.Follows (r.start created connResult).2 := by
  rcases e with ⟨config, state, startedBefore, responseQueue, reportQueue, connector⟩
  rcases r with ⟨config', state', startedBefore', mgr, registry, nextMessageId⟩
  obtain ⟨rfl, rfl⟩ := h
  by_cases hinit : state' = .initialized <;> by_cases hconn : connResult = .success <;>
    cases startedBefore' <;> by_cases hcreated : created = .success <;>
    simp [Ran.start, E3Interface.start, E3Interface.renew, createConnectorFromConfig, hinit,
      hconn, hcreated] <;> constructor <;> rfl

theorem Follows.stop {r : Ran} (h : e.Follows r) : e.stop.Follows r.stop := by
  unfold E3Interface.stop Ran.stop
  rw [h.state]
  split_ifs
  · exact h
  · exact ⟨rfl, h.startedBefore⟩

theorem Follows.congr {r r' : Ran} (h : e.Follows r)
    (he : e'.state = e.state ∧ e'.startedBefore = e.startedBefore)
    (hr : r'.state = r.state ∧ r'.startedBefore = r.startedBefore) : e'.Follows r' :=
  ⟨by rw [hr.1, he.1, h.state], by rw [hr.2, he.2, h.startedBefore]⟩

end E3Interface

theorem Ran.decideSubscription_lifecycle (r : Ran) (now : TimePoint)
    (request : SubscriptionRequest) :
    (r.decideSubscription now request).1.state = r.state
      ∧ (r.decideSubscription now request).1.startedBefore = r.startedBefore := by
  unfold decideSubscription
  split_ifs
  · exact ⟨rfl, rfl⟩
  · dsimp only
    split <;> exact ⟨rfl, rfl⟩

theorem Ran.handleControlAction_lifecycle (r : Ran) (stamp : UInt64) (action : DAppControlAction)
    (mid : UInt32) :
    (r.handleControlAction stamp action mid).1.state = r.state
      ∧ (r.handleControlAction stamp action mid).1.startedBefore = r.startedBefore := by
  unfold handleControlAction
  rcases r.decideControl action with ⟨refusal | sm, registry⟩ <;> exact ⟨rfl, rfl⟩

namespace RanInterface

variable {s t : RanInterface}

theorem handleControlAction_lifecycle (s : RanInterface) (stamp : UInt64)
    (action : DAppControlAction) (mid : UInt32) :
    (s.handleControlAction stamp action mid).2.e.state = s.e.state
      ∧ (s.handleControlAction stamp action mid).2.e.startedBefore = s.e.startedBefore := by
  unfold handleControlAction
  rcases s.ran.handleControlAction_outcome stamp action mid with ⟨sm, hout⟩ | ⟨refusal, id, hout⟩
  · simp [hout]
  · simpa [hout] using s.e.queueOutbound_lifecycle _

theorem simulates_silent {a : Ran.Label} (h : s.e.Follows s.ran)
    (hs : (s.ran.step a).map (fun ran => { s with ran := ran }) = some t)
    (hkeep : ∀ r, s.ran.step a = some r →
      r.state = s.ran.state ∧ r.startedBefore = s.ran.startedBefore) :
    t.e.Follows t.ran ∧ run Ran.step s.ran [a] = some t.ran := by
  obtain ⟨ran, hran, rfl⟩ := Option.map_eq_some_iff.mp hs
  exact ⟨h.congr ⟨rfl, rfl⟩ (hkeep ran hran), by simp [run, hran]⟩

theorem simulates_step {a : Label} (h : s.e.Follows s.ran) (hs : s.step a = some t) :
    t.e.Follows t.ran ∧ run Ran.step s.ran a.ran?.toList = some t.ran := by
  cases a with
  | queueOutbound pdu =>
    obtain rfl := Option.some.inj hs
    exact ⟨h.congr (s.e.queueOutbound_lifecycle pdu) ⟨rfl, rfl⟩, rfl⟩
  | sendOutbound =>
    obtain rfl := Option.some.inj hs
    exact ⟨h.congr ⟨rfl, rfl⟩ ⟨rfl, rfl⟩, rfl⟩
  | ran a =>
    cases a with
    | start created connected =>
      obtain rfl := Option.some.inj hs
      exact ⟨h.start created connected, rfl⟩
    | stop =>
      obtain rfl := Option.some.inj hs
      exact ⟨h.stop, rfl⟩
    | subscriptionRequest now stamp request mid =>
      obtain ⟨hrunning, rfl⟩ := of_check hs
      refine ⟨h.congr (s.e.queueOutbound_lifecycle _)
        (s.ran.decideSubscription_lifecycle now request), ?_⟩
      simp [run, Label.ran?, Ran.step, h.state, hrunning, handleSubscriptionRequest]
    | subscriptionDelete stamp del mid =>
      obtain ⟨hrunning, rfl⟩ := of_check hs
      refine ⟨h.congr (s.e.queueOutbound_lifecycle _) ⟨rfl, rfl⟩, ?_⟩
      simp [run, Label.ran?, Ran.step, h.state, hrunning, handleSubscriptionDelete]
    | controlAction stamp action mid =>
      obtain ⟨hrunning, rfl⟩ := of_check hs
      refine ⟨h.congr (s.handleControlAction_lifecycle stamp action mid)
        (s.ran.handleControlAction_lifecycle stamp action mid), ?_⟩
      simp [run, Label.ran?, Ran.step, h.state, hrunning, handleControlAction]
    | registerSm sm =>
      refine simulates_silent h hs fun r hr => ?_
      obtain rfl := Option.some.inj hr
      exact ⟨rfl, rfl⟩
    | setupRequest stamp mid =>
      refine simulates_silent h hs fun r hr => ?_
      obtain ⟨-, rfl⟩ := of_check hr
      exact ⟨rfl, rfl⟩
    | release release order =>
      refine simulates_silent h hs fun r hr => ?_
      obtain ⟨-, rfl⟩ := of_check hr
      exact ⟨rfl, rfl⟩
    | sweep now order =>
      refine simulates_silent h hs fun r hr => ?_
      obtain ⟨-, rfl⟩ := of_check hr
      exact ⟨rfl, rfl⟩

/-- A run with the queue left out is a run of the handlers. -/
theorem simulates : ∀ {labels : List Label} {s t : RanInterface}, s.e.Follows s.ran →
    run step s labels = some t → run Ran.step s.ran (labels.filterMap Label.ran?) = some t.ran
  | [], s, t, _, h => by
    obtain rfl := Option.some.inj h
    rfl
  | a :: labels, s, t, hs, h => by
    obtain ⟨u, hu, hr⟩ := run_cons.mp h
    obtain ⟨hfollows, hstep⟩ := simulates_step hs hu
    have hcons : (a :: labels).filterMap Label.ran?
        = a.ran?.toList ++ labels.filterMap Label.ran? := by
      cases a <;> rfl
    rw [hcons]
    exact run_append.mpr ⟨u.ran, hstep, simulates hfollows hr⟩

theorem simulates_run {config : E3Config} {labels : List Label}
    (h : run step (initialized config) labels = some s) :
    run Ran.step (.initialized config) (labels.filterMap Label.ran?) = some s.ran :=
  simulates ⟨rfl, rfl⟩ h

def anyPdu : Pdu where
  type := .releaseMessage
  choice := .releaseMessage ⟨1⟩
  messageId := 1
  timestamp := 0

/-- The outbound thread is behind by as many PDUs as the queue holds. -/
def filling : List Label := List.replicate 128 (.queueOutbound anyPdu)

end RanInterface

end LibE3
