import LibE3.Session

/-!
# Answers are attributed to the requests that caused them

As long as a dApp gives no request a message identifier that it still remembers another one by, each
request and answer under way has its own. What the answers under way will do to its records
(`effects`) is then fixed: a new request does not change it, and hearing an answer takes the first
effect off.
-/

namespace LibE3

def Ask.Remembered : Ask → Option PendingSubscriptionOp → Prop
  | .subscribe f time, op => op = some ⟨f, false, time⟩
  | .delete _, op => ∃ f, op = some ⟨f, true, none⟩

theorem Ask.Remembered.isSome {ask : Ask} {op : Option PendingSubscriptionOp}
    (h : ask.Remembered op) : op.isSome := by
  cases ask with
  | subscribe f time =>
    rw [show op = _ from h]
    rfl
  | delete id =>
    obtain ⟨f, rfl⟩ := h
    rfl

/-- Only a request that the dApp remembers can be granted, and it is granted for its time. -/
theorem effect_eq_granted {op : Option PendingSubscriptionOp} {a : Answer} {f id time : UInt32}
    (h : effect op a = .granted f id time) :
    ∃ op', op = some op' ∧ op'.ranFunctionId = f ∧ time = op'.subscriptionTimeS.getD 0 := by
  cases op with
  | none => exact nomatch h
  | some op =>
    simp only [effect] at h
    split_ifs at h
    split at h
    · exact nomatch h
    · obtain ⟨hf, -, ht⟩ := Effect.granted.inj h
      exact ⟨op, rfl, hf, ht.symm⟩

namespace Session

variable {s s' : Session} {e : Event}

/-- What the answers under way will do to the records of the dApp. -/
def effects (s : Session) : List Effect :=
  s.answered.map fun a => effect (s.pending a.requestId) a

structure Attributed (s : Session) : Prop where
  nodup : (s.asked.map Asked.messageId ++ s.answered.map Answer.requestId).Nodup
  asked : ∀ q ∈ s.asked, q.ask.Remembered (s.pending q.messageId)
  answered : ∀ a ∈ s.answered, (s.pending a.requestId).isSome

@[simp] theorem record_pending (eff : Effect) : (s.record eff).pending = s.pending := by
  cases eff <;> rfl

@[simp] theorem record_asked (eff : Effect) : (s.record eff).asked = s.asked := by
  cases eff <;> rfl

@[simp] theorem record_answered (eff : Effect) : (s.record eff).answered = s.answered := by
  cases eff <;> rfl

@[simp] theorem record_held (eff : Effect) : (s.record eff).held = s.held := by
  cases eff <;> rfl

@[simp] theorem record_now (eff : Effect) : (s.record eff).now = s.now := by
  cases eff <;> rfl

theorem ranOut_iff {f : UInt32} : s.ranOut f = true ↔ ∃ t ∈ s.expiry f, t ≤ s.now := by
  unfold ranOut
  cases s.expiry f <;> simp

namespace Attributed

theorem ne_of_fresh (h : Attributed s) {mid : UInt32} (hm : s.pending mid = none) :
    mid ∉ s.asked.map Asked.messageId ++ s.answered.map Answer.requestId := by
  rw [List.mem_append, List.mem_map, List.mem_map]
  rintro (⟨q, hq, rfl⟩ | ⟨a, ha, rfl⟩)
  · have := (h.asked q hq).isSome
    rw [hm] at this
    exact nomatch this
  · have := h.answered a ha
    rw [hm] at this
    exact nomatch this

theorem request (h : Attributed s) {mid : UInt32} {op : PendingSubscriptionOp} {ask : Ask}
    (hm : s.pending mid = none) (hr : ask.Remembered (some op)) :
    Attributed (s.request mid op ask) := by
  have hfresh := h.ne_of_fresh hm
  have hother : ∀ x ∈ s.asked.map Asked.messageId ++ s.answered.map Answer.requestId,
      Function.update s.pending mid (some op) x = s.pending x := by
    intro x hx
    refine Function.update_of_ne ?_ _ _
    rintro rfl
    exact hfresh hx
  refine ⟨?_, fun q hq => ?_, fun a ha => ?_⟩
  · simp only [Session.request, List.map_append, List.map_cons, List.map_nil, List.append_assoc,
      List.singleton_append]
    exact List.nodup_middle.mpr (List.nodup_cons.mpr ⟨hfresh, h.nodup⟩)
  · simp only [Session.request, List.mem_append, List.mem_singleton] at hq
    rcases hq with hq | rfl
    · simp only [Session.request]
      rw [hother _ (List.mem_append_left _ (List.mem_map_of_mem hq))]
      exact h.asked q hq
    · simpa only [Session.request, Function.update_self] using hr
  · simp only [Session.request]
    rw [hother _ (List.mem_append_right _ (List.mem_map_of_mem ha))]
    exact h.answered a ha

theorem answer (h : Attributed s) {q : Asked} {rest : List Asked} {a : Answer}
    (hq : s.asked = q :: rest) (ha : a.requestId = q.messageId) : Attributed (s.answer rest a) := by
  have hmem : ∀ {p}, p ∈ rest → p ∈ s.asked := fun hp => hq ▸ List.mem_cons_of_mem q hp
  refine ⟨?_, fun p hp => h.asked p (hmem hp), fun b hb => ?_⟩
  · have hn := h.nodup
    simp only [hq, List.map_cons, List.cons_append, ← ha] at hn
    simp only [Session.answer, List.map_append, List.map_cons, List.map_nil, ← List.append_assoc]
    exact List.nodup_append_comm.mp hn
  · rcases List.mem_append.mp hb with hb | hb
    · exact h.answered b hb
    · rw [List.mem_singleton.mp hb, ha]
      exact (h.asked q (by simp [hq])).isSome

theorem of_subscribe (h : Attributed s) {mid f : UInt32} {time : Option UInt32}
    {rest : List Asked} (hq : s.asked = ⟨mid, .subscribe f time⟩ :: rest) :
    s.pending mid = some ⟨f, false, time⟩ :=
  h.asked ⟨mid, .subscribe f time⟩ (hq ▸ List.mem_cons_self)

theorem of_delete (h : Attributed s) {mid id : UInt32} {rest : List Asked}
    (hq : s.asked = ⟨mid, .delete id⟩ :: rest) : ∃ f, s.pending mid = some ⟨f, true, none⟩ :=
  h.asked ⟨mid, .delete id⟩ (hq ▸ List.mem_cons_self)

theorem pending_of_rest (h : Attributed s) {a : Answer} {rest : List Answer}
    (ha : s.answered = a :: rest) {x : UInt32}
    (hx : x ∈ s.asked.map Asked.messageId ++ rest.map Answer.requestId) :
    Function.update s.pending a.requestId none x = s.pending x := by
  refine Function.update_of_ne ?_ _ _
  rintro rfl
  have hn := h.nodup
  rw [ha, List.map_cons, List.nodup_middle, List.nodup_cons] at hn
  exact hn.1 hx

theorem hear (h : Attributed s) {a : Answer} {rest : List Answer} (ha : s.answered = a :: rest) :
    Attributed { s with
      pending := Function.update s.pending a.requestId none
      answered := rest } := by
  refine ⟨?_, fun q hq => ?_, fun b hb => ?_⟩
  · have hn := h.nodup
    rw [ha, List.map_cons, List.nodup_middle, List.nodup_cons] at hn
    exact hn.2
  · simp only
    rw [h.pending_of_rest ha (List.mem_append_left _ (List.mem_map_of_mem hq))]
    exact h.asked q hq
  · simp only
    rw [h.pending_of_rest ha (List.mem_append_right _ (List.mem_map_of_mem hb))]
    exact h.answered b (ha ▸ List.mem_cons_of_mem a hb)

theorem record (h : Attributed s) (eff : Effect) : Attributed (s.record eff) := by
  refine ⟨?_, ?_, ?_⟩
  · simpa using h.nodup
  · simpa using h.asked
  · simpa using h.answered

theorem setHeld (h : Attributed s) (held : UInt32 → Option Entry) :
    Attributed { s with held := held } :=
  ⟨h.nodup, h.asked, h.answered⟩

theorem step (h : Attributed s) (hs : Step s e s') : Attributed s' := by
  cases hs with
  | elapse _ => exact ⟨h.nodup, h.asked, h.answered⟩
  | subscribe hm => exact h.request hm rfl
  | unsubscribe hm _ => exact h.request hm ⟨_, rfl⟩
  | refuse hq => exact h.answer hq rfl
  | hold hq _ => exact h.answer hq rfl
  | grant hq _ => exact (h.answer hq rfl).setHeld _
  | delete hq _ => exact (h.answer hq rfl).setHeld _
  | hear ha => exact (h.hear ha).record _
  | ranSweep => exact h.setHeld _
  | dappSweep => exact ⟨h.nodup, h.asked, h.answered⟩

theorem effects_request (h : Attributed s) {mid : UInt32} {op : PendingSubscriptionOp} {ask : Ask}
    (hm : s.pending mid = none) : (s.request mid op ask).effects = s.effects := by
  refine List.map_congr_left fun a ha => ?_
  simp only [Session.request]
  rw [Function.update_of_ne]
  rintro rfl
  exact h.ne_of_fresh hm (List.mem_append_right _ (List.mem_map_of_mem ha))

theorem effects_hear (h : Attributed s) {a : Answer} {rest : List Answer}
    (ha : s.answered = a :: rest) :
    s.effects = effect (s.pending a.requestId) a ::
      rest.map fun b => effect (Function.update s.pending a.requestId none b.requestId) b := by
  unfold effects
  rw [ha, List.map_cons]
  refine congrArg _ (List.map_congr_left fun b hb => ?_)
  rw [h.pending_of_rest ha (List.mem_append_right _ (List.mem_map_of_mem hb))]

end Attributed

theorem effects_answer (rest : List Asked) (a : Answer) :
    (s.answer rest a).effects = s.effects ++ [effect (s.pending a.requestId) a] := by
  simp [effects, answer]

end Session

end LibE3
