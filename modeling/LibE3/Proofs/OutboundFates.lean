import LibE3.OutboundThreads
import LibE3.Lib.Ledger

/-!
# What becomes of a PDU

A PDU is with the thread that queues it, in the ring, with the outbound thread, or at its end, and
its log tells which (`sound_move`). So the stamps of a PDU tell what became of it, in every run of
the threads and over restarts, and all but the emit entry are recorded if the rings of the threads
could be opened.
-/

namespace LibE3.OutboundThreads

open Ledger Runs

/-! ## Places -/

/-- Where a PDU is, as far as its log goes: it has a number only, or the given events have followed
the beginning of its log. -/
inductive Place
  | new
  | started (h : List OutEvent)
  deriving DecidableEq

/-- The event, as if every stamp were recorded. -/
def recorded : OutEvent → OutEvent
  | .stamp _ stage aux aux2 => .stamp true stage aux aux2
  | e => e

/-- The log of a PDU begins with its emit entry, or without one. -/
def Begins (pre : List OutEvent) : Prop :=
  pre = [] ∨ ∃ ctx ranFunctionId, pre = [.stamp true .emitEnter ctx ranFunctionId]

def Tells (l : List OutEvent) : Place → Prop
  | .new => l = []
  | .started h => ∃ pre, Begins pre ∧ l.map recorded = pre ++ h

theorem Tells.append {l h : List OutEvent} (e : OutEvent) (ht : Tells l (.started h)) :
    Tells (l ++ [e]) (.started (h ++ [recorded e])) := by
  obtain ⟨pre, hpre, hl⟩ := ht
  exact ⟨pre, hpre, by rw [List.map_append, hl, List.append_assoc]; rfl⟩

def queuedHistory (x : Outgoing) : List OutEvent := [enqueueStamp true x, .pushed x.pdu .success]

def Producer.held : Producer → List (ℕ × Place)
  | .idle | .emit _ _ _ => []
  | .emitStamp x _ _ => [(x.enqueueSeq, .new)]
  | .queueOutbound x => if x.enqueueSeq = 0 then [] else [(x.enqueueSeq, .started [])]
  | .stamp x => [(x.enqueueSeq, .started [])]
  | .pushCheck x | .pushRing x => [(x.enqueueSeq, .started [enqueueStamp true x])]
  | .refused x rc => [(x.enqueueSeq, .started [enqueueStamp true x, .pushed x.pdu rc])]

def ringEntry (x : Outgoing) : ℕ × Place := (x.enqueueSeq, .started (queuedHistory x))

/-- What has happened to a PDU that the outbound thread has, and its number. -/
def Outbound.held : Outbound → List (ℕ × Place)
  | .dequeued x => [(x.enqueueSeq, .started (queuedHistory x))]
  | .encode x | .notEncoded x | .encoded x _ =>
    [(x.enqueueSeq, .started (queuedHistory x ++ [dequeueStamp true x]))]
  | .send x buffer =>
    [(x.enqueueSeq, .started (queuedHistory x ++ [dequeueStamp true x, encodeDoneStamp true buffer]))]
  | .sent x buffer =>
    [(x.enqueueSeq, .started (queuedHistory x
      ++ [dequeueStamp true x, encodeDoneStamp true buffer, .handed x.pdu buffer .success]))]
  | .notSent x buffer rc =>
    [(x.enqueueSeq, .started (queuedHistory x
      ++ [dequeueStamp true x, encodeDoneStamp true buffer, .handed x.pdu buffer rc]))]
  | _ => []

def Fate.pdu : Fate → Outgoing
  | .sent x _ | .refused x _ | .notEncoded x | .notSent x _ _ | .discarded x => x

def Fate.history : Fate → List OutEvent
  | .sent x buffer => queuedHistory x
    ++ [dequeueStamp true x, encodeDoneStamp true buffer, .handed x.pdu buffer .success,
      sendDoneStamp true x]
  | .refused x rc => [enqueueStamp true x, .pushed x.pdu rc, dropStamp true (pushReason rc)]
  | .notEncoded x => queuedHistory x ++ [dequeueStamp true x, dropStamp true .encode]
  | .notSent x buffer rc => queuedHistory x
    ++ [dequeueStamp true x, encodeDoneStamp true buffer, .handed x.pdu buffer rc,
      dropStamp true (sendReason rc)]
  | .discarded x => queuedHistory x

def Fate.entry (f : Fate) : ℕ × Place := (f.pdu.enqueueSeq, .started f.history)

/-- `stop()` has joined the outbound thread, and `start()` has not made it again. -/
def Control.joined : Control → Bool
  | .stopped | .createConnector | .rearmClear | .rearmOpen | .connect | .error => true
  | _ => false

def entries (s : OutboundThreads) : List (ℕ × Place) :=
  s.producers.flatMap (·.pc.held) ++ s.queue.ring.map ringEntry ++ s.outbound.held
    ++ s.fates.map Fate.entry

def book (s : OutboundThreads) : Book Place OutEvent := ⟨s.counter, s.numbered, s.entries, s.log⟩

/-! ## Ends and order -/

def Producer.Fits : Producer → Prop
  | .refused _ rc => rc ≠ .success
  | _ => True

def Outbound.Fits (encode : Pdu → Option Bytes) : Outbound → Prop
  | .notEncoded x => encode x.pdu = none
  | .encoded x buffer | .send x buffer | .sent x buffer => encode x.pdu = some buffer
  | .notSent x buffer rc => encode x.pdu = some buffer ∧ rc ≠ .success
  | _ => True

def Fate.Fits (encode : Pdu → Option Bytes) : Fate → Prop
  | .sent x buffer => encode x.pdu = some buffer
  | .refused _ rc => rc ≠ .success
  | .notEncoded x => encode x.pdu = none
  | .notSent x buffer rc => encode x.pdu = some buffer ∧ rc ≠ .success
  | .discarded _ => True

structure Fits (encode : Pdu → Option Bytes) (s : OutboundThreads) : Prop where
  producers : ∀ th ∈ s.producers, th.pc.Fits
  outbound : s.outbound.Fits encode
  fates : ∀ f ∈ s.fates, f.Fits encode

def pushedPdu : ℕ × OutEvent → Option Outgoing
  | (q, .pushed pdu .success) => some ⟨q, pdu⟩
  | _ => none

def handedPdu : ℕ × OutEvent → Option Outgoing
  | (q, .handed pdu _ _) => some ⟨q, pdu⟩
  | _ => none

/-- The PDUs in the order in which the ring took them. -/
def pushedPdus (log : List (ℕ × OutEvent)) : List Outgoing := log.filterMap pushedPdu

/-- The PDUs in the order in which the connector got them. -/
def handedPdus (log : List (ℕ × OutEvent)) : List Outgoing := log.filterMap handedPdu

@[simp] theorem pushedPdus_append (log log' : List (ℕ × OutEvent)) :
    pushedPdus (log ++ log') = pushedPdus log ++ pushedPdus log' := List.filterMap_append

@[simp] theorem handedPdus_append (log log' : List (ℕ × OutEvent)) :
    handedPdus (log ++ log') = handedPdus log ++ handedPdus log' := List.filterMap_append

/-- The PDU that the outbound thread has taken and not handed to the connector. -/
def Outbound.unsent : Outbound → List Outgoing
  | .dequeued x | .encode x | .notEncoded x | .encoded x _ | .send x _ => [x]
  | _ => []

/-- The ring gives the PDUs out in the order in which it took them, and the connector gets those
that it gets in this order. -/
def Ordered (s : OutboundThreads) : Prop :=
  ∃ taken, pushedPdus s.log = taken ++ s.queue.ring
    ∧ (handedPdus s.log ++ s.outbound.unsent).Sublist taken

/-! ## What a step does -/

/-- What a step of a thread that queues PDUs does to the PDU it has. -/
structure ProducerSpec (encode : Pdu → Option Bytes) (n : ℕ) (pc pc' : Producer) (e : Effect) :
    Prop where
  taken : e.taken = []
  change : (∀ x ∈ pc.held, 0 < x.1) → Change Tells n pc.held
    (pc'.held ++ e.pushed.map ringEntry ++ e.fates.map Fate.entry) e.given e.log
  fits : pc.Fits → pc'.Fits ∧ ∀ f ∈ e.fates, f.Fits encode
  pushed : pushedPdus e.log = e.pushed
  handed : handedPdus e.log = []

/-- What a step of the outbound thread does to the PDU it has, or takes one. -/
structure OutboundSpec (encode : Pdu → Option Bytes) (ring : List Outgoing) (pc pc' : Outbound)
    (e : Effect) : Prop where
  taken : e.taken <+: ring
  pushed : e.pushed = [] ∧ e.given = []
  change : ∀ n, Change Tells n (e.taken.map ringEntry ++ pc.held)
    (pc'.held ++ e.fates.map Fate.entry) [] e.log
  fits : pc.Fits encode → pc'.Fits encode ∧ ∀ f ∈ e.fates, f.Fits encode
  log : pushedPdus e.log = []
  order : (handedPdus e.log ++ pc'.unsent).Sublist (pc.unsent ++ e.taken)
  quiet : (∀ x buffer, pc ≠ .send x buffer) → handedPdus e.log = []

/-- What a step does: a producer or the outbound thread moves, `start()` discards a PDU, or nothing
is done to PDUs. -/
inductive Move (encode : Pdu → Option Bytes) (s t : OutboundThreads) (l : Label) : Prop
  | producer (p : ℕ) {th th' : ProducerThread} {e : Effect} (hp : s.producers[p]? = some th)
    (hm : ProducerSpec encode s.counter th.pc th'.pc e)
    (ht : t = { s.apply e with producers := s.producers.set p th' })
  | outbound {deadline : Bool} {rc : ErrorCode} {pc : Outbound} {e : Effect}
    (hl : l = .outbound deadline rc) (hne : s.outbound ≠ .ended)
    (hm : OutboundSpec encode s.queue.ring s.outbound pc e)
    (ht : t = { s.apply e with outbound := pc })
  | discard (x : Outgoing) {rest : List Outgoing} (hc : s.control.joined = true)
    (hring : s.queue.ring = x :: rest)
    (ht : t = s.apply { taken := [x], fates := [.discarded x] })
  | skip (ht : t = { s with counter := s.counter + 1 })
  | control (shouldStop startedBefore isShutdown : Bool) (control : Control)
    (hc : control.joined = true → s.control.joined = true ∨ s.outbound = .ended)
    (ht : t = { s with shouldStop, startedBefore, queue := { s.queue with isShutdown }, control })
  | start (records : Bool) (hc : s.control.joined = true)
    (ht : t = { s with startedBefore := true, control := .running, outbound := .setup, records })

theorem change_started {n q : ℕ} {h : List OutEvent} {e e' : OutEvent} (he : recorded e = e') :
    Change Tells n [(q, .started h)] [(q, .started (h ++ [e']))] [] [(q, e)] :=
  .move q [e] fun _ hl => he ▸ hl.append e

theorem change_emit {n q : ℕ} (records : Bool) (ctx ranFunctionId : ℕ) :
    Change Tells n [(q, .new)] [(q, .started [])] []
      [(q, OutEvent.stamp records .emitEnter ctx ranFunctionId)] := by
  refine .move q [OutEvent.stamp records .emitEnter ctx ranFunctionId] fun l hl => ?_
  rw [show l = [] from hl]
  exact ⟨_, .inr ⟨ctx, ranFunctionId, rfl⟩, rfl⟩

section Step

variable {encode : Pdu → Option Bytes} {s t : OutboundThreads} {l : Label}

theorem spec_producerStep {opened : Option Bool} {th th' : ProducerThread} {e : Effect}
    (h : s.producerStep opened th = some (th', e)) :
    ProducerSpec encode s.counter th.pc th'.pc e := by
  obtain ⟨pc, ring⟩ := th
  cases pc <;> simp only [producerStep, Option.some.injEq, Prod.mk.injEq, reduceCtorEq] at h
  case emit pdu ctx fn =>
    obtain ⟨rfl, rfl⟩ := h
    exact ⟨rfl, fun _ => .give rfl, by simp [Producer.Fits], rfl, rfl⟩
  case emitStamp x ctx fn =>
    obtain ⟨rfl, rfl⟩ := h
    have hne (hpos : ∀ y ∈ Producer.held (.emitStamp x ctx fn), 0 < y.1) : x.enqueueSeq ≠ 0 :=
      Nat.ne_of_gt (hpos _ (List.mem_singleton.mpr rfl))
    refine ⟨rfl, fun hpos => ?_, by simp [Producer.Fits, happens], rfl, rfl⟩
    simpa [Producer.held, hne hpos, happens] using change_emit _ ctx fn
  case queueOutbound x =>
    split_ifs at h with hzero <;> obtain ⟨rfl, rfl⟩ := Prod.mk.inj (Option.some.inj h)
    · refine ⟨rfl, fun _ => ?_, by simp [Producer.Fits], rfl, rfl⟩
      simpa [Producer.held, hzero] using .give (i := Place.started []) ⟨[], .inl rfl, rfl⟩
    · refine ⟨rfl, fun _ => ?_, by simp [Producer.Fits], rfl, rfl⟩
      simpa [Producer.held, hzero] using Change.none _
  case stamp x =>
    obtain ⟨rfl, rfl⟩ := h
    exact ⟨rfl, fun _ => change_started rfl, by simp [Producer.Fits, happens], rfl, rfl⟩
  case pushCheck x =>
    split_ifs at h <;> obtain ⟨rfl, rfl⟩ := Prod.mk.inj (Option.some.inj h)
    · exact ⟨rfl, fun _ => change_started rfl, by simp [Producer.Fits, happens], rfl, rfl⟩
    · exact ⟨rfl, fun _ => .none _, by simp [Producer.Fits], rfl, rfl⟩
  case pushRing x =>
    split_ifs at h <;> obtain ⟨rfl, rfl⟩ := Prod.mk.inj (Option.some.inj h)
    all_goals
      exact ⟨rfl, fun _ => change_started rfl, by simp [Producer.Fits, happens], rfl, rfl⟩
  case refused x rc =>
    obtain ⟨rfl, rfl⟩ := h
    exact ⟨rfl, fun _ => change_started rfl, by simp [Producer.Fits, Fate.Fits], rfl, rfl⟩

theorem Outbound.of_held (encode : Pdu → Option Bytes) {pc : Outbound} (h : pc.held = []) :
    pc.Fits encode ∧ pc.unsent = [] := by
  cases pc <;> simp_all [Outbound.held, Outbound.Fits, Outbound.unsent]

theorem spec_wait {ring : List Outgoing} {pc pc' : Outbound} (h : pc.held = [])
    (h' : pc'.held = []) : OutboundSpec encode ring pc pc' {} where
  taken := List.nil_prefix
  pushed := ⟨rfl, rfl⟩
  change _ := by
    rw [h, h']
    exact .none []
  fits _ := ⟨(Outbound.of_held encode h').1, by simp⟩
  log := rfl
  order := by
    rw [(Outbound.of_held encode h').2]
    exact List.nil_sublist _
  quiet _ := rfl

theorem spec_tryPop {pc empty : Outbound} (h : pc.held = []) (hempty : empty.held = []) :
    OutboundSpec encode s.queue.ring pc (s.tryPop empty).1 (s.tryPop empty).2 := by
  unfold tryPop
  rcases hring : s.queue.ring with _ | ⟨x, rest⟩
  · exact spec_wait h hempty
  · refine ⟨⟨rest, rfl⟩, ⟨rfl, rfl⟩, fun _ => ?_, fun _ => ⟨trivial, by simp⟩, rfl, ?_, fun _ => rfl⟩
    · rw [h]
      exact .none _
    · rw [(Outbound.of_held encode h).2]
      exact List.Sublist.refl _

theorem spec_outboundStep {deadline : Bool} {rc : ErrorCode} {pc : Outbound} {e : Effect}
    (h : s.outboundStep encode deadline rc = some (pc, e)) :
    OutboundSpec encode s.queue.ring s.outbound pc e := by
  cases hpc : s.outbound <;>
    simp only [outboundStep, hpc, Option.some.injEq, Prod.mk.injEq, reduceCtorEq] at h
  case setup | setupFailed | loop | popCheck =>
    obtain ⟨rfl, rfl⟩ := h
    refine spec_wait rfl ?_
    split_ifs <;> rfl
  case popTry | popLast =>
    rw [show pc = _ from (congrArg Prod.fst h).symm, show e = _ from (congrArg Prod.snd h).symm]
    exact spec_tryPop rfl rfl
  case encode x =>
    rcases hencode : encode x.pdu with _ | buffer <;> rw [hencode] at h <;>
      obtain ⟨rfl, rfl⟩ := Prod.mk.inj (Option.some.inj h)
    all_goals
      exact ⟨List.nil_prefix, ⟨rfl, rfl⟩, fun _ => .none _, fun _ => ⟨hencode, by simp⟩, rfl,
        List.Sublist.refl _, fun _ => rfl⟩
  case notEncoded x =>
    obtain ⟨rfl, rfl⟩ := h
    exact ⟨List.nil_prefix, ⟨rfl, rfl⟩, fun _ => change_started rfl,
      by simp [Outbound.Fits, Fate.Fits], rfl, List.nil_sublist _, fun _ => rfl⟩
  case send x buffer =>
    obtain ⟨rfl, rfl⟩ := h
    have hquiet : ¬ ∀ x' buffer', Outbound.send x buffer ≠ .send x' buffer' := fun h => h _ _ rfl
    split_ifs with hrc
    on_goal 1 => subst hrc
    all_goals
      exact ⟨List.nil_prefix, ⟨rfl, rfl⟩, fun _ => change_started rfl,
        by simp_all [Outbound.Fits, happens], rfl, List.Sublist.refl _, fun h => absurd h hquiet⟩
  all_goals
    obtain ⟨rfl, rfl⟩ := h
    exact ⟨List.nil_prefix, ⟨rfl, rfl⟩, fun _ => change_started rfl,
      by simp [Outbound.Fits, Fate.Fits, happens], rfl, List.Sublist.refl _, fun _ => rfl⟩

theorem move_controlStep {ok records : Bool} (ht : s.controlStep ok records = some t) :
    Move encode s t l := by
  unfold controlStep at ht
  cases hpc : s.control <;> simp only [hpc, Option.some.injEq] at ht
  case join =>
    cases hout : s.outbound <;> simp only [hout, Option.some.injEq, reduceCtorEq] at ht
    exact .control s.shouldStop s.startedBefore s.queue.isShutdown .stopped (fun _ => .inr hout)
      (by simp [← ht, ← hout])
  case rearmClear =>
    rcases hring : s.queue.ring with _ | ⟨x, rest⟩ <;> simp only [hring, Option.some.injEq] at ht
    · exact .control _ _ _ .rearmOpen (fun _ => .inl (by rw [hpc]; rfl)) ht.symm
    · exact .discard x (by rw [hpc]; rfl) hring ht.symm
  case connect =>
    cases ok
    · exact .control _ true _ .error (fun _ => .inl (by rw [hpc]; rfl)) ht.symm
    · exact .start records (by rw [hpc]; rfl) ht.symm
  case stopped =>
    cases ok
    · exact .control _ _ _ .setFlag (by simp [Control.joined]) (Option.some.inj ht).symm
    · exact .control false _ _ _ (fun _ => .inl (by rw [hpc]; rfl)) (Option.some.inj ht).symm
  case createConnector => exact .control _ _ _ _ (fun _ => .inl (by rw [hpc]; rfl)) ht.symm
  case rearmOpen =>
    exact .control _ _ false .connect (fun _ => .inl (by rw [hpc]; rfl)) ht.symm
  case setFlag => exact .control true _ _ .shutdownQueue (by simp [Control.joined]) ht.symm
  case shutdownQueue =>
    exact .control _ _ true .shutdownConnector (by simp [Control.joined]) ht.symm
  all_goals exact .control _ _ _ _ (by simp [Control.joined]) ht.symm

theorem move_call {p : ℕ} {ring : Option Bool} (hp : s.producers[p]? = some ⟨.idle, ring⟩)
    {pc : Producer} (hheld : pc.held = []) (hfits : pc.Fits) :
    Move encode s { s with producers := s.producers.set p ⟨pc, ring⟩ } l := by
  have hspec : ProducerSpec encode s.counter .idle pc {} := by
    refine ⟨rfl, fun _ => ?_, fun _ => ⟨hfits, by simp⟩, rfl, rfl⟩
    rw [hheld]
    exact .none []
  exact @Move.producer encode s _ l p _ ⟨pc, ring⟩ {} hp hspec (by simp [apply])

theorem move_step (ht : step encode s l = some t) : Move encode s t l := by
  cases l with
  | call p pdu =>
    simp only [step] at ht
    split at ht
    · next ring hp =>
      exact Option.some.inj ht ▸ move_call hp rfl trivial
    · cases ht
  | emit p pdu ctx fn =>
    simp only [step] at ht
    split at ht
    · next ring hp =>
      exact Option.some.inj ht ▸ move_call hp rfl trivial
    · cases ht
  | producer p opened =>
    obtain ⟨⟨th', e⟩, hr, hbound⟩ := Option.bind_eq_some_iff.mp ht
    obtain ⟨th, hp, hth⟩ := Option.bind_eq_some_iff.mp hr
    split_ifs at hbound
    exact .producer p hp (spec_producerStep hth) (Option.some.inj hbound).symm
  | otherNumber =>
    simp only [step] at ht
    split_ifs at ht
    exact .skip (Option.some.inj ht).symm
  | outbound deadline rc =>
    obtain ⟨⟨pc, e⟩, hr, rfl⟩ := Option.map_eq_some_iff.mp ht
    refine .outbound rfl (fun hended => ?_) (spec_outboundStep hr) rfl
    simp [outboundStep, hended] at hr
  | control ok records => exact move_controlStep ht

/-! ## What every step keeps -/

theorem sound_apply (h : Sound Tells s.book) {e : Effect} {rest : List Outgoing}
    (hring : s.queue.ring = e.taken ++ rest) (producers : List ProducerThread) (pc : Outbound)
    {old new : List (ℕ × Place)} (others : List (ℕ × Place))
    (hc : Change Tells s.counter (e.taken.map ringEntry ++ old)
      (new ++ e.pushed.map ringEntry ++ e.fates.map Fate.entry) e.given e.log)
    (hold : (s.producers.flatMap (·.pc.held) ++ s.outbound.held).Perm (old ++ others))
    (hnew : (producers.flatMap (·.pc.held) ++ pc.held).Perm (new ++ others)) :
    Sound Tells { s.apply e with producers, outbound := pc }.book := by
  refine h.change (others ++ rest.map ringEntry ++ s.fates.map Fate.entry) hc ?_ ?_ rfl rfl rfl
  · refine List.perm_iff_count.mpr fun a => ?_
    have hcount := List.perm_iff_count.mp hold a
    simp only [book, entries, hring, List.map_append, List.count_append] at hcount ⊢
    omega
  · refine List.perm_iff_count.mpr fun a => ?_
    have hcount := List.perm_iff_count.mp hnew a
    simp only [book, entries, apply, hring, List.drop_left, List.map_append, List.count_append]
      at hcount ⊢
    omega

theorem sound_move (h : Sound Tells s.book)
    (hjoined : s.control.joined = true → s.outbound = .ended) (hm : Move encode s t l) :
    Sound Tells t.book := by
  cases hm with
  | @producer p th th' e hp hm ht =>
    have hpos : ∀ x ∈ th.pc.held, 0 < x.1 := by
      intro x hx
      refine h.given_pos _ (h.items.mem_iff.mp (List.mem_map_of_mem ?_))
      have hentries : x ∈ s.producers.flatMap (·.pc.held) :=
        List.mem_flatMap.mpr ⟨_, List.mem_of_getElem? hp, hx⟩
      simp [book, entries, hentries]
    obtain ⟨rest, hold, hnew⟩ := perm_flatMap_set (fun th : ProducerThread => th.pc.held) th' hp
    rw [ht]
    refine sound_apply h (by rw [hm.taken]; rfl) _ s.outbound (rest ++ s.outbound.held)
      (by simpa [hm.taken] using hm.change hpos) ?_ ?_
    · simpa using hold.append_right s.outbound.held
    · simpa using hnew.append_right s.outbound.held
  | @outbound _ _ pc e hl hne hm ht =>
    obtain ⟨rest, hrest⟩ := hm.taken
    rw [ht]
    refine sound_apply h hrest.symm s.producers pc _ ?_ List.perm_append_comm
      List.perm_append_comm
    simpa [hm.pushed.1, hm.pushed.2] using hm.change s.counter
  | discard x hc hring ht =>
    rw [ht]
    exact sound_apply h (e := { taken := [x], fates := [.discarded x] }) hring s.producers
      s.outbound _ (.none [ringEntry x]) (List.Perm.refl ([] ++ _)) (List.Perm.refl ([] ++ _))
  | skip ht => exact ht ▸ h.skip
  | control _ _ _ _ _ ht => exact ht ▸ h
  | start _ hc ht =>
    rw [ht]
    simp only [book, entries, hjoined hc] at h ⊢
    exact h

theorem joined_move (hjoined : s.control.joined = true → s.outbound = .ended)
    (hm : Move encode s t l) : t.control.joined = true → t.outbound = .ended := by
  cases hm with
  | producer _ _ _ ht | discard _ _ _ ht | skip ht => exact ht ▸ hjoined
  | outbound hl hne hm ht =>
    subst ht
    intro hc
    exact absurd (hjoined hc) hne
  | control _ _ _ _ hc ht =>
    subst ht
    intro hj
    rcases hc hj with hj | hended
    · exact hjoined hj
    · exact hended
  | start _ hc ht =>
    subst ht
    simp [Control.joined]

theorem fits_move (h : s.Fits encode) (hm : Move encode s t l) : t.Fits encode := by
  have happend {fates : List Fate} (hfates : ∀ f ∈ fates, f.Fits encode) :
      ∀ f ∈ s.fates ++ fates, f.Fits encode := by
    intro f hf
    rcases List.mem_append.mp hf with hf | hf
    · exact h.fates f hf
    · exact hfates f hf
  cases hm with
  | producer p hp hm ht =>
    subst ht
    obtain ⟨hth, hfates⟩ := hm.fits (h.producers _ (List.mem_of_getElem? hp))
    refine ⟨fun th hmem => ?_, h.outbound, happend hfates⟩
    rcases List.mem_or_eq_of_mem_set hmem with hmem | rfl
    · exact h.producers th hmem
    · exact hth
  | outbound hl hne hm ht =>
    obtain ⟨hpc, hfates⟩ := hm.fits h.outbound
    exact ht ▸ ⟨h.producers, hpc, happend hfates⟩
  | discard x hc hring ht =>
    exact ht ▸ ⟨h.producers, h.outbound, happend fun f hf => by
      rw [List.mem_singleton.mp hf]
      trivial⟩
  | skip ht | control _ _ _ _ _ ht => exact ht ▸ ⟨h.producers, h.outbound, h.fates⟩
  | start _ hc ht => exact ht ▸ ⟨h.producers, trivial, h.fates⟩

theorem ordered_move (h : s.Ordered) (hm : Move encode s t l) : t.Ordered := by
  obtain ⟨taken, hpushed, hsub⟩ := h
  cases hm with
  | producer p hp hm ht =>
    subst ht
    refine ⟨taken, ?_, ?_⟩
    · simp [apply, hpushed, hm.pushed, hm.taken]
    · simpa [apply, hm.handed] using hsub
  | @outbound _ _ pc e hl hne hm ht =>
    obtain ⟨rest, hrest⟩ := hm.taken
    subst ht
    refine ⟨taken ++ e.taken, ?_, ?_⟩
    · simp [apply, hpushed, hm.log, hm.pushed.1, ← hrest]
    · have happend := (hm.order.append_left (handedPdus s.log)).trans
        (by simpa using hsub.append_right e.taken)
      simpa [apply] using happend
  | discard x hc hring ht =>
    subst ht
    refine ⟨taken ++ [x], ?_, ?_⟩
    · simp [apply, hpushed, hring]
    · simpa [apply] using hsub.trans (List.sublist_append_left _ _)
  | skip ht | control _ _ _ _ _ ht => exact ht ▸ ⟨taken, hpushed, hsub⟩
  | start _ hc ht =>
    subst ht
    refine ⟨taken, hpushed, ?_⟩
    simpa [Outbound.unsent] using (List.sublist_append_left _ _).trans hsub

theorem log_move (hm : Move encode s t l) : s.log <+: t.log := by
  cases hm with
  | producer _ _ _ ht | outbound _ _ _ ht | discard _ _ _ ht => exact ht ▸ List.prefix_append _ _
  | skip ht | control _ _ _ _ _ ht | start _ _ ht => exact ht ▸ List.prefix_rfl

/-! ## Runs -/

structure Inv (encode : Pdu → Option Bytes) (s : OutboundThreads) : Prop where
  sound : Sound Tells s.book
  joined : s.control.joined = true → s.outbound = .ended
  fits : s.Fits encode
  ordered : s.Ordered

theorem inv_initialized (role : E3Role) (n : ℕ) : (initialized role n).Inv encode := by
  have hheld : (List.replicate n ({} : ProducerThread)).flatMap (·.pc.held) = [] := by
    simp [Producer.held]
  refine ⟨⟨?_, ?_, ?_, ?_, ?_, ?_⟩, fun _ => rfl, ⟨?_, trivial, ?_⟩, ⟨[], rfl, ?_⟩⟩
  all_goals simp [book, entries, initialized, hheld, Outbound.held, Outbound.unsent, handedPdus,
    LockFreeQueue.make, Producer.Fits]

theorem inv_step (h : s.Inv encode) (ht : step encode s l = some t) : t.Inv encode := by
  have hm := move_step ht
  exact ⟨sound_move h.sound h.joined hm, joined_move h.joined hm, fits_move h.fits hm,
    ordered_move h.ordered hm⟩

theorem inv_run {labels : List Label} (role : E3Role) (n : ℕ)
    (hrun : run (step encode) (initialized role n) labels = some s) : s.Inv encode :=
  inv inv_step (inv_initialized role n) hrun

/-! ## What is recorded -/

/-- The rings that the step opens are enabled. -/
def Label.OpensRings : Label → Prop
  | .producer _ opened => opened = some true
  | .control _ records => records = true
  | _ => True

/-- The event is not a stamp that is lost; the emit entry comes before the thread opens a ring. -/
def Recorded : ℕ × OutEvent → Prop
  | (_, .stamp recorded stage _ _) => stage = .emitEnter ∨ recorded = true
  | _ => True

/-- No ring of the thread is disabled, and it has one once `queue_outbound` has opened it. -/
def ProducerThread.Opened (th : ProducerThread) : Prop :=
  match th.pc with
  | .idle | .emit _ _ _ | .emitStamp _ _ _ | .queueOutbound _ => th.ring ≠ some false
  | _ => th.ring = some true

structure Records (s : OutboundThreads) : Prop where
  producers : ∀ th ∈ s.producers, th.Opened
  outbound : s.outbound ≠ .ended → s.records = true
  log : ∀ x ∈ s.log, Recorded x

theorem recorded_producerStep {th th' : ProducerThread} {e : Effect} (hth : th.Opened)
    (h : s.producerStep (some true) th = some (th', e)) :
    th'.Opened ∧ ∀ x ∈ e.log, Recorded x := by
  obtain ⟨pc, ring⟩ := th
  cases pc <;> simp only [ProducerThread.Opened] at hth <;>
    simp only [producerStep, Option.some.injEq, Prod.mk.injEq, reduceCtorEq] at h
  case queueOutbound x =>
    split_ifs at h <;> obtain ⟨rfl, rfl⟩ := Prod.mk.inj (Option.some.inj h)
    all_goals
      refine ⟨?_, by simp⟩
      rcases ring with _ | _ | _
      · rfl
      · exact absurd rfl hth
      · rfl
  case pushCheck x | pushRing x =>
    split_ifs at h <;> obtain ⟨rfl, rfl⟩ := Prod.mk.inj (Option.some.inj h)
    all_goals simp [ProducerThread.Opened, happens, Recorded, hth]
  all_goals
    obtain ⟨rfl, rfl⟩ := h
    simp [ProducerThread.Opened, ProducerThread.records, happens, Recorded, enqueueStamp,
      dropStamp, hth]

theorem recorded_outboundStep {deadline : Bool} {rc : ErrorCode} {pc : Outbound} {e : Effect}
    (hs : s.records = true) (h : s.outboundStep encode deadline rc = some (pc, e)) :
    ∀ x ∈ e.log, Recorded x := by
  cases hpc : s.outbound <;>
    simp only [outboundStep, hpc, Option.some.injEq, Prod.mk.injEq, reduceCtorEq] at h
  case popTry | popLast =>
    rw [show e = _ from (congrArg Prod.snd h).symm]
    unfold tryPop
    split <;> simp
  case encode x =>
    split at h <;> obtain ⟨rfl, rfl⟩ := Prod.mk.inj (Option.some.inj h) <;> simp
  all_goals
    obtain ⟨rfl, rfl⟩ := h
    simp [happens, Recorded, dequeueStamp, encodeDoneStamp, sendDoneStamp, dropStamp, hs]

theorem Records.set (h : s.Records) {p : ℕ} {th : ProducerThread} (hth : th.Opened) :
    ∀ th' ∈ s.producers.set p th, th'.Opened := by
  intro th' hmem
  rcases List.mem_or_eq_of_mem_set hmem with hmem | rfl
  · exact h.producers th' hmem
  · exact hth

theorem Records.append (h : s.Records) {log : List (ℕ × OutEvent)} (hlog : ∀ x ∈ log, Recorded x) :
    ∀ x ∈ s.log ++ log, Recorded x := by
  intro x hx
  rcases List.mem_append.mp hx with hx | hx
  · exact h.log x hx
  · exact hlog x hx

theorem records_controlStep {ok : Bool} (h : s.Records) (ht : s.controlStep ok true = some t) :
    t.Records := by
  unfold controlStep at ht
  cases hpc : s.control <;> simp only [hpc, Option.some.injEq] at ht
  case join =>
    cases hout : s.outbound <;> simp only [hout, Option.some.injEq, reduceCtorEq] at ht
    exact ht ▸ ⟨h.producers, fun hne => absurd rfl hne, h.log⟩
  case rearmClear =>
    split at ht <;> obtain rfl := Option.some.inj ht
    · exact ⟨h.producers, h.outbound, h.log⟩
    · exact ⟨h.producers, h.outbound, h.append (by simp)⟩
  case stopped =>
    split_ifs at ht <;> obtain rfl := Option.some.inj ht <;>
      exact ⟨h.producers, h.outbound, h.log⟩
  case connect =>
    subst ht
    cases ok
    · exact ⟨h.producers, h.outbound, h.log⟩
    · exact ⟨h.producers, fun _ => rfl, h.log⟩
  all_goals exact ht ▸ ⟨h.producers, h.outbound, h.log⟩

theorem records_step (h : s.Records) (hl : l.OpensRings) (ht : step encode s l = some t) :
    t.Records := by
  cases l with
  | call p pdu | emit p pdu ctx fn =>
    simp only [step] at ht
    split at ht
    · next ring hp =>
      have hth := h.producers _ (List.mem_of_getElem? hp)
      exact Option.some.inj ht ▸ ⟨h.set hth, h.outbound, h.log⟩
    · cases ht
  | producer p opened =>
    obtain ⟨⟨th', e⟩, hr, hbound⟩ := Option.bind_eq_some_iff.mp ht
    obtain ⟨th, hp, hth⟩ := Option.bind_eq_some_iff.mp hr
    obtain rfl : opened = some true := hl
    obtain ⟨hth', hlog⟩ := recorded_producerStep (h.producers _ (List.mem_of_getElem? hp)) hth
    split_ifs at hbound
    exact Option.some.inj hbound ▸ ⟨h.set hth', h.outbound, h.append hlog⟩
  | otherNumber =>
    simp only [step] at ht
    split_ifs at ht
    exact Option.some.inj ht ▸ ⟨h.producers, h.outbound, h.log⟩
  | outbound deadline rc =>
    obtain ⟨⟨pc, e⟩, hr, rfl⟩ := Option.map_eq_some_iff.mp ht
    have hs : s.records = true := h.outbound fun hended => by simp [outboundStep, hended] at hr
    exact ⟨h.producers, fun _ => hs, h.append (recorded_outboundStep hs hr)⟩
  | control ok records =>
    obtain rfl : records = true := hl
    exact records_controlStep h ht

theorem records_initialized (role : E3Role) (n : ℕ) : (initialized role n).Records := by
  refine ⟨fun th hth => ?_, fun h => absurd rfl h, by simp [initialized]⟩
  rw [List.eq_of_mem_replicate hth]
  simp [ProducerThread.Opened]

end Step

/-- The interface is started, and a PDU is queued and sent. -/
def sendOne (pdu : Pdu) : List Label :=
  List.replicate 2 (.control true true) ++ [.call 0 pdu]
    ++ List.replicate 4 (.producer 0 (some true))
    ++ List.replicate 8 (.outbound false .success)

def sendOneAndStop : List Label :=
  sendOne {} ++ List.replicate 4 (.control true true)
    ++ [.outbound false .success, .control true true]

/-- The connector gets PDUs in the order in which the ring took them, over stops and restarts. -/
theorem connector_order (encode : Pdu → Option Bytes) (role : E3Role) (n : ℕ)
    (labels : List Label) (s : OutboundThreads)
    (hrun : run (step encode) (initialized role n) labels = some s) :
    (handedPdus s.log).Sublist (pushedPdus s.log) := by
  obtain ⟨taken, hpushed, hsub⟩ := (inv_run role n hrun).ordered
  rw [hpushed]
  exact ((List.sublist_append_left _ _).trans hsub).trans (List.sublist_append_left _ _)

theorem connector_order_one :
    ∃ s, run (step fun _ => some [1]) (initialized .ran 1) (sendOne {}) = some s
      ∧ handedPdus s.log = [⟨1, {}⟩] ∧ (handedPdus s.log).Sublist (pushedPdus s.log) :=
  ⟨_, rfl, rfl, connector_order (fun _ => some [1]) .ran 1 (sendOne {}) _ rfl⟩

/-- When `stop()` has returned and no thread is queueing, each PDU that got a number is at its end
or was taken by the ring and not by the outbound thread. -/
theorem stopped_accounts (encode : Pdu → Option Bytes) (role : E3Role) (n : ℕ)
    (labels : List Label) (s : OutboundThreads)
    (hrun : run (step encode) (initialized role n) labels = some s) (hstopped : s.control = .stopped)
    (hidle : ∀ th ∈ s.producers, th.pc = .idle) :
    s.numbered.Perm (s.queue.ring.map Outgoing.enqueueSeq
      ++ s.fates.map fun f => f.pdu.enqueueSeq) := by
  have h := inv_run role n hrun
  have hended := h.joined (by rw [hstopped]; rfl)
  have hproducers : s.producers.flatMap (·.pc.held) = [] := by
    rw [List.flatMap_eq_nil_iff]
    intro th hth
    rw [hidle th hth]
    rfl
  have hitems := h.sound.items.symm
  simp only [book, entries, hproducers, hended, Outbound.held, List.nil_append, List.append_nil,
    List.map_append, List.map_map] at hitems
  exact hitems

theorem stopped_accounts_one :
    ∃ s, run (step fun _ => some [1]) (initialized .dapp 1) sendOneAndStop = some s
      ∧ s.control = .stopped ∧ s.numbered = [1]
      ∧ s.numbered.Perm (s.queue.ring.map Outgoing.enqueueSeq
        ++ s.fates.map fun f => f.pdu.enqueueSeq) :=
  ⟨_, rfl, rfl, rfl, stopped_accounts (fun _ => some [1]) .dapp 1 sendOneAndStop _ rfl rfl
    fun th hth => by rw [List.mem_singleton.mp hth]⟩

end LibE3.OutboundThreads
