import LibE3.Proofs.NetSession

/-!
# The deadline of the dApp is not earlier than that of the RAN

The RAN counts the time of a subscription from the request and the dApp from the response. But the
RAN answers a request for a subscription that it still holds without touching the deadline, while
the dApp takes the time it asked for last. The order is kept if such a request asks for no less than
what is left, and for no limit only if there is none.
-/

namespace LibE3

open Runs

/-- A subscription with these details ends no later than one that is given the time now, and both
have a limit or neither has. -/
def Promises (now : TimePoint) (time : UInt32) (details : SubscriptionDetails) : Prop :=
  (0 < time ↔ details.expiresAt.isSome) ∧ ∀ t ∈ details.expiresAt, t ≤ now + seconds time

/-- A subscription with these details ends no later than the deadline, and both have a limit or
neither has. -/
def Covers (expiry : Option TimePoint) (details : SubscriptionDetails) : Prop :=
  (expiry.isSome ↔ details.expiresAt.isSome) ∧
    ∀ t ∈ details.expiresAt, ∀ u ∈ expiry, t ≤ u

instance (now : TimePoint) (time : UInt32) (details : SubscriptionDetails) :
    Decidable (Promises now time details) :=
  inferInstanceAs (Decidable (_ ∧ _))

theorem Promises.mono {now now' : TimePoint} {time : UInt32} {details : SubscriptionDetails}
    (h : Promises now time details) (hle : now ≤ now') : Promises now' time details := by
  exact ⟨h.1, fun t ht => (h.2 t ht).trans (Int.add_le_add_right hle _)⟩

theorem promises_deadline {now : TimePoint} {time : UInt32} {details : SubscriptionDetails}
    (h : details.expiresAt = deadline now time) : Promises now time details := by
  unfold Promises
  rw [h]
  unfold deadline
  split_ifs with ht <;> simp [ht]

theorem Promises.covers {now : TimePoint} {time : UInt32} {details : SubscriptionDetails}
    (h : Promises now time details) : Covers (deadline now time) details := by
  unfold deadline
  split_ifs with ht
  · refine ⟨iff_of_true rfl (h.1.mp ht), fun t htd u hu => ?_⟩
    obtain rfl := Option.some.inj hu
    exact h.2 t htd
  · refine ⟨iff_of_false (by simp) fun hs => ht (h.1.mpr hs), fun t _ u hu => nomatch hu⟩

def Effect.grantTime (f : UInt32) : Effect → Option UInt32
  | .granted g _ time => if g = f then some time else none
  | _ => none

namespace Session

variable {s s' : Session} {e : Event} {f : UInt32}

/-- The time of the last grant for a RAN function that is under way to the dApp. -/
def lastGrant (s : Session) (f : UInt32) : Option UInt32 :=
  (s.effects.filterMap (Effect.grantTime f)).getLast?

/-- A request for what is held asks for no less than what is left. -/
def Extends (s : Session) : Event → Prop
  | .hold time e => Promises s.now (time.getD 0) e.details
  | _ => True

/-- What the dApp will have recorded for a RAN function, once it has heard of the last grant, ends
no earlier than what the RAN holds. -/
structure Timely (s : Session) : Prop where
  attributed : Attributed s
  promised : ∀ f e, s.held f = some e → ∀ time ∈ s.lastGrant f, Promises s.now time e.details
  covered : ∀ f e, s.held f = some e → s.lastGrant f = none → (s.recorded f).isSome →
    Covers (s.expiry f) e.details

theorem timely_start (now : TimePoint) : Timely (start now) where
  attributed := ⟨List.nodup_nil, by simp [start], by simp [start]⟩
  promised f e h := nomatch h
  covered f e h := nomatch h

theorem lastGrant_answer (rest : List Asked) (a : Answer) :
    (s.answer rest a).lastGrant f =
      ((effect (s.pending a.requestId) a).grantTime f).or (s.lastGrant f) := by
  unfold lastGrant
  rw [effects_answer, List.filterMap_append, List.getLast?_append]
  cases hg : (effect (s.pending a.requestId) a).grantTime f <;> simp [hg]

namespace Timely

theorem request (h : Timely s) {mid : UInt32} {op : PendingSubscriptionOp} {ask : Ask}
    (hm : s.pending mid = none) (hr : ask.Remembered (some op)) :
    Timely (s.request mid op ask) := by
  have hlast : ∀ f, (s.request mid op ask).lastGrant f = s.lastGrant f := fun f => by
    rw [lastGrant, h.attributed.effects_request hm, lastGrant]
  refine ⟨h.attributed.request hm hr, fun f e he time => ?_, fun f e he => ?_⟩
  · rw [hlast]
    exact h.promised f e he time
  · rw [hlast]
    exact h.covered f e he

/-- An answer that grants nothing is sent, and the RAN holds nothing new. -/
theorem answer (h : Timely s) {q : Asked} {rest : List Asked} {a : Answer}
    {held : UInt32 → Option Entry} (hq : s.asked = q :: rest) (ha : a.requestId = q.messageId)
    (hnone : ∀ f, (effect (s.pending a.requestId) a).grantTime f = none)
    (hheld : ∀ f e, held f = some e → s.held f = some e) :
    Timely { s.answer rest a with held := held } := by
  have hlast : ∀ f, lastGrant { s.answer rest a with held := held } f = s.lastGrant f := fun f => by
    change (s.answer rest a).lastGrant f = _
    rw [lastGrant_answer, hnone, Option.none_or]
  refine ⟨(h.attributed.answer hq ha).setHeld _, fun f e he time => ?_, fun f e he => ?_⟩
  · rw [hlast]
    exact h.promised f e (hheld f e he) time
  · rw [hlast]
    exact h.covered f e (hheld f e he)

/-- A grant is sent, for what the RAN holds now. -/
theorem grant (h : Timely s) {mid id g : UInt32} {time : Option UInt32} {rest : List Asked}
    {held : UInt32 → Option Entry} (hq : s.asked = ⟨mid, .subscribe g time⟩ :: rest)
    (hg : ∀ e, held g = some e → Promises s.now (time.getD 0) e.details)
    (hother : ∀ f, f ≠ g → held f = s.held f) :
    Timely { s.answer rest ⟨mid, true, some id⟩ with held := held } := by
  have hlast : ∀ f, lastGrant { s.answer rest ⟨mid, true, some id⟩ with held := held } f =
      if g = f then some (time.getD 0) else s.lastGrant f := fun f => by
    change (s.answer rest ⟨mid, true, some id⟩).lastGrant f = _
    rw [lastGrant_answer, h.attributed.of_subscribe hq]
    by_cases hgf : g = f <;> simp [effect, Effect.grantTime, hgf]
  refine ⟨(h.attributed.answer hq rfl).setHeld _, fun f e he t ht => ?_, fun f e he hn => ?_⟩
  · rw [hlast] at ht
    split_ifs at ht with hgf
    · subst hgf
      obtain rfl := Option.some.inj ht
      exact hg e he
    · exact h.promised f e (hother f (Ne.symm hgf) ▸ he) t ht
  · rw [hlast] at hn
    split_ifs at hn with hgf
    exact h.covered f e (hother f (Ne.symm hgf) ▸ he) hn

theorem hear (h : Timely s) {a : Answer} {rest : List Answer} (ha : s.answered = a :: rest) :
    Timely ({ s with
      pending := Function.update s.pending a.requestId none
      answered := rest }.record (effect (s.pending a.requestId) a)) := by
  generalize heff : effect (s.pending a.requestId) a = eff
  -- the effect that is heard is the first one under way
  have hlast : ∀ f, s.lastGrant f = ((lastGrant ({ s with
      pending := Function.update s.pending a.requestId none
      answered := rest }.record eff) f).or (eff.grantTime f)) := fun f => by
    unfold lastGrant
    rw [h.attributed.effects_hear ha, heff]
    simp only [effects, record_answered, record_pending]
    cases hg : eff.grantTime f with
    | none => simp [hg]
    | some time =>
      rw [List.filterMap_cons_some hg, List.getLast?_cons]
      cases (List.filterMap _ _).getLast? <;> rfl
  refine ⟨(h.attributed.hear ha).record _, fun f e he time ht => ?_, fun f e he hn hr => ?_⟩
  · rw [record_held] at he
    rw [record_now]
    refine h.promised f e he time ?_
    rw [hlast, Option.mem_def.mp ht]
    rfl
  · rw [record_held] at he
    have hold := hlast f
    rw [hn, Option.none_or] at hold
    cases eff with
    | granted g id time =>
      by_cases hg : f = g
      · subst hg
        have hp := h.promised f e he time (by simp [hold, Effect.grantTime])
        simpa [record] using hp.covers
      · simp only [record, Function.update_of_ne hg] at hr ⊢
        exact h.covered f e he (by simp [hold, Effect.grantTime, Ne.symm hg]) hr
    | removed g =>
      by_cases hg : f = g
      · subst hg
        simp [record] at hr
      · simp only [record, Function.update_of_ne hg] at hr ⊢
        have hcov := h.covered f e he hold hr
        split_ifs
        · rwa [Function.update_of_ne hg]
        · exact hcov
    | nothing => exact h.covered f e he hold hr

theorem step (h : Timely s) (hc : s.Extends e) (hs : Step s e s') : Timely s' := by
  cases hs with
  | elapse hle =>
    exact ⟨h.attributed.step (.elapse hle), fun f e he t ht => (h.promised f e he t ht).mono hle,
      h.covered⟩
  | subscribe hm => exact h.request hm rfl
  | unsubscribe hm _ => exact h.request hm ⟨_, rfl⟩
  | refuse hq => exact h.answer hq rfl (fun f => by cases s.pending _ <;> rfl) fun _ _ he => he
  | @hold mid f time rest e hq he =>
    refine h.grant hq (fun e' he' => ?_) fun _ _ => rfl
    obtain rfl := Option.some.inj (he.symm.trans he')
    exact hc
  | @grant mid f time rest e hq he =>
    refine h.grant hq (fun e' he' => ?_) fun g hg => Function.update_of_ne hg _ _
    rw [Function.update_self] at he'
    obtain rfl := Option.some.inj he'
    exact promises_deadline he
  | @delete mid f rest e hq he =>
    obtain ⟨g, hop⟩ := h.attributed.of_delete hq
    refine h.answer hq rfl (fun k => ?_) fun k e' hk => ?_
    · rw [hop]
      rfl
    · rw [Function.update_apply] at hk
      split_ifs at hk
      exact hk
  | hear ha => exact h.hear ha
  | ranSweep =>
    have hheld : ∀ f e, ((s.held f).filter fun e => !isExpired e.details s.now) = some e →
        s.held f = some e := fun f e he => (Option.filter_eq_some_iff.mp he).1
    exact ⟨h.attributed.setHeld _, fun f e he => h.promised f e (hheld f e he),
      fun f e he => h.covered f e (hheld f e he)⟩
  | dappSweep =>
    refine ⟨h.attributed.step .dappSweep, h.promised, fun f e he hn hr => ?_⟩
    simp only at hr ⊢
    split_ifs at hr ⊢
    · exact nomatch hr
    · exact h.covered f e he hn hr

end Timely

end Session

namespace Net

variable {ι : Type} {n n' : Net ι} {T : Table} {id : ι → UInt32}

def requestOf (pdu : Pdu) : Option SubscriptionRequest :=
  match pdu.choice with
  | .subscriptionRequest request => some request
  | _ => none

/-- When the RAN handles a request that it does not refuse, for a subscription that it holds and
that has not run out, the request asks for a limit exactly if that subscription has one, and for no
less than what is left of it. -/
def ExtendsHeld (n : Net ι) : Label ι → Prop
  | .ranReceive i _ _ =>
    ∀ request ∈ (n.up i).head?.bind requestOf,
      n.ran.mgr.isDappRegistered request.dappIdentifier = true →
      (refusalForSubscription n.ran.registry request).1 = none →
      ∀ details ∈ n.ran.mgr.getSubscriptionDetails request.dappIdentifier
          request.ranFunctionIdentifier,
        isExpired details n.now = false →
        Promises n.now (request.subscriptionTime.getD 0) details
  | _ => True

instance (n : Net ι) : ∀ a, Decidable (n.ExtendsHeld a)
  | .ranReceive i _ _ => Option.decidableForallMem ((n.up i).head?.bind requestOf)
  | .tick _ | .subscribe .. | .unsubscribe .. | .release .. | .control .. | .report ..
  | .dappReceive _ | .ranSweep _ | .dappSweep .. | .ranSend _ | .smAck .. | .attach _ | .detach _
  | .setup .. | .setupReply _ => inferInstanceAs (Decidable True)

theorem extends_of_shows {a : Label ι} {i : ι} {e : Session.Event} (hc : n.ExtendsHeld a)
    (he : n.Shows a i (id i) e) : (n.session T i (id i)).Extends e := by
  cases e with
  | subscribe time => trivial
  | hold time e =>
    obtain ⟨_, _, pdu, rest, request, rfl, hup, hreq, rfl, hd, hreg, href, hdet, hx⟩ := he
    have hhead : request ∈ (n.up i).head?.bind requestOf := by
      simp [hup, requestOf, hreq]
    rw [← hd] at hreg hdet
    exact hc request hhead hreg href e.details hdet hx
  | delete mid f => trivial
  | other => trivial

/-- A request of the dApp about the RAN function, or the answer to one, is under way. -/
def UnderWay (n : Net ι) (i : ι) (d f : UInt32) : Prop :=
  ∃ mid op, (n.dapp i).pendingSubscriptions.lookup mid = some op ∧ op.ranFunctionId = f ∧
    ((∃ pdu ∈ n.up i, pdu.messageId = mid) ∨
      ∃ m ∈ n.down i, ∃ a, answerTo d m.pdu = some a ∧ a.requestId = mid)

theorem lastGrant_eq_none {i : ι} {f : UInt32} (h : ¬ n.UnderWay i (id i) f) :
    (n.session T i (id i)).lastGrant f = none := by
  rw [Session.lastGrant, List.getLast?_eq_none_iff, List.filterMap_eq_nil_iff]
  intro eff heff
  obtain ⟨a, ha, rfl⟩ := List.mem_map.mp heff
  obtain ⟨m, hm, hans⟩ := List.mem_filterMap.mp ha
  cases hg : effect ((n.session T i (id i)).pending a.requestId) a with
  | granted g subId time =>
    obtain ⟨op, hop, hf, -⟩ := effect_eq_granted hg
    refine if_neg fun hgf => h ⟨_, op, hop, hf.trans hgf, .inr ⟨m, hm, a, hans, rfl⟩⟩
  | removed g => rfl
  | nothing => rfl

variable [DecidableEq ι]

/-- The deadlines of every dApp are in order once it has heard of the grants under way. -/
def AllTimely (id : ι → UInt32) (n : Net ι) : Prop :=
  ∃ T, Linked id n T ∧ ∀ i, (n.session T i (id i)).Timely

theorem allTimely_step {a : Label ι} (hid : Function.Injective id) (h : AllTimely id n)
    (hc : (n.FreshIds a ∧ n.ExtendsHeld a) ∧ a.exchange = true) (hs : n.step a = some n') :
    AllTimely id n' := by
  obtain ⟨T, hl, hi⟩ := h
  obtain ⟨⟨hfresh, hext⟩, hex⟩ := hc
  obtain ⟨T', hl', hsim⟩ := hl.step hid hex hfresh hs
  refine ⟨T', hl', fun i => ?_⟩
  obtain ⟨e, hstep, hshow⟩ := hsim i
  exact (hi i).step (extends_of_shows hext hshow) hstep

/-- With nothing about a RAN function under way, the dApp has a deadline for it exactly if the RAN
has, and not an earlier one, in every run in which the dApp reuses no message identifier that it
still remembers, and asks for what it holds only for as long as it would last anyway. -/
theorem deadline_not_earlier {n₀ : Net ι} (h₀ : Deployed id n₀) {labels : List (Label ι)}
    (hlabels : ∀ a ∈ labels, a.exchange = true)
    (hm : Meets step (fun n a => n.FreshIds a ∧ n.ExtendsHeld a) n₀ labels)
    (hrun : run step n₀ labels = some n) {i : ι} {f : UInt32} {details : SubscriptionDetails}
    (hquiet : ¬ n.UnderWay i (id i) f)
    (hrec : f ∈ (n.dapp i).state.ranFunctionToSubscriptionId)
    (hheld : n.ran.mgr.getSubscriptionDetails (id i) f = some details) :
    (((n.dapp i).state.ranFunctionExpiry.lookup f).isSome ↔ details.expiresAt.isSome) ∧
      ∀ t ∈ details.expiresAt, ∀ u ∈ (n.dapp i).state.ranFunctionExpiry.lookup f, t ≤ u := by
  have hstart : AllTimely id n₀ := by
    obtain ⟨T, hl, hstart⟩ := h₀.linked
    exact ⟨T, hl, fun i => hstart i ▸ Session.timely_start _⟩
  obtain ⟨T, hl, hi⟩ := inv_of_meets (allTimely_step h₀.distinct) hstart (hm.and_of_mem hlabels)
    hrun
  rw [hl.represents.getSubscriptionDetails_eq, Option.map_eq_some_iff] at hheld
  obtain ⟨e, he, rfl⟩ := hheld
  obtain ⟨subId, hsub⟩ := Finmap.mem_iff.mp hrec
  exact (hi i).covered f e he (lastGrant_eq_none hquiet) (by simp [session, hsub])

/-- The dApp asks for ten seconds, and again for ten seconds a second later. -/
theorem deadline_not_earlier_repeated :
    ∃ n, run step oneDapp
        [.subscribe () 0 7 [1] [] (some 10) none .success, .ranReceive () 0 [], .dappReceive (),
          .tick 1000000000, .subscribe () 0 7 [1] [] (some 10) none .success,
          .ranReceive () 0 [], .dappReceive ()] = some n ∧
      ∃ details, n.ran.mgr.getSubscriptionDetails 1 7 = some details ∧
        details.expiresAt = some 10000000000 ∧
        ∀ u ∈ (n.dapp ()).state.ranFunctionExpiry.lookup 7, 10000000000 ≤ u := by
  refine exists_run (fun n => n.up () = [] ∧ n.down () = [] ∧
    7 ∈ (n.dapp ()).state.ranFunctionToSubscriptionId ∧
    (n.ran.mgr.getSubscriptionDetails 1 7).map SubscriptionDetails.expiresAt =
      some (some 10000000000)) (by decide +kernel) fun n hrun hn => ?_
  obtain ⟨hup, hdown, hrec, hdetails⟩ := hn
  obtain ⟨details, hdet, hexp⟩ := Option.map_eq_some_iff.mp hdetails
  have hquiet : ¬ n.UnderWay () 1 7 := by simp [UnderWay, hup, hdown]
  exact ⟨details, hdet, hexp, (deadline_not_earlier deployed_oneDapp (by decide +kernel)
    (by decide +kernel) hrun hquiet hrec hdet).2 _ hexp⟩

/-- The dApp asks for ten seconds and then for five: the RAN keeps to ten seconds. -/
theorem shorter_request_moves_deadline :
    Deployed (fun _ => 1) oneDapp ∧ ∃ n, run step oneDapp
        [.subscribe () 0 7 [1] [] (some 10) none .success, .ranReceive () 0 [], .dappReceive (),
          .subscribe () 0 7 [1] [] (some 5) none .success, .ranReceive () 0 [],
          .dappReceive ()] = some n ∧
      n.up () = [] ∧ n.down () = [] ∧
      7 ∈ (n.dapp ()).state.ranFunctionToSubscriptionId ∧
      (n.dapp ()).state.ranFunctionExpiry.lookup 7 = some 5000000000 ∧
      (n.ran.mgr.getSubscriptionDetails 1 7).map SubscriptionDetails.expiresAt =
        some (some 10000000000) := by
  exact ⟨deployed_oneDapp, exists_run _ (by decide +kernel) fun _ _ h => h⟩

end Net

end LibE3
