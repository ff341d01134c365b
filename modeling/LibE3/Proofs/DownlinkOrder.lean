import LibE3.Downlink
import LibE3.Encoder.JsonDecoder
import LibE3.Lib.JsonWriter
import LibE3.Proofs.Framing
import LibE3.Proofs.OutboundFates

/-!
# What a dApp gets is what was queued

What was passed to `send` since a connection was accepted is a run of the PDUs that the outbound
thread has handed over, up to the last one while the connector is in use. The framing gives the dApp
the first of these messages, so it decodes PDUs in the order in which the ring took them, with none
left out in between.
-/

namespace LibE3

namespace Posix.Outbound

variable {s t : Outbound} {e : Event} {c : ℕ}

theorem since_send {data : Bytes} (h : s.step (.send data) = some t) (c : ℕ) :
    (t.peers c).since = (s.peers c).since.map (· ++ [data]) := by
  simp only [step] at h
  split at h
  · obtain rfl := Option.some.inj h
    simp only [send]
    split_ifs <;> rfl
  · cases h

theorem since_write {kept rest : List ℕ} {it : ℕ} {loop : SendInChunks} {anyFailed : Bool}
    {sent : WriteResult} :
    ((s.write kept it rest loop anyFailed sent).peers c).since = (s.peers c).since := by
  have hset : ((s.setPeer it ((s.peers it).wrote (loop.taken sent))).peers c).since
      = (s.peers c).since := by
    rcases eq_or_ne c it with rfl | hc
    · rw [setPeer_self]
      rfl
    · rw [setPeer_of_ne _ hc]
  simp only [write]
  cases loop.body sent with
  | running => exact hset
  | returned r =>
    cases r <;>
      · rw [broadcast_peers]
        exact hset

theorem since_other (he : ∀ data, e ≠ .send data) (h : s.step e = some t) {ms : List Bytes}
    (hms : (t.peers c).since = some ms) :
    (s.peers c).since = some ms ∨ ∃ data peers, s.thread = .draining data peers ∧ ms = [data] := by
  cases turn_of_step h with
  | listen | shutdown | same => exact .inl hms
  | send => exact absurd rfl (he _)
  | @accept data peers d hthread hd =>
    rcases eq_or_ne c d with rfl | hc
    · simp only [setPeer_self, Option.some.injEq] at hms
      exact .inr ⟨data, peers, hthread, hms.symm⟩
    · rw [← hms]
      exact .inl (congrArg Peer.since (setPeer_of_ne _ hc).symm)
  | drained => exact .inl (by rwa [broadcast_peers] at hms)
  | write => exact .inl (since_write.symm.trans hms)
  | @reads _ d p _ _ hsince =>
    rcases eq_or_ne c d with rfl | hc
    · rw [setPeer_self, hsince] at hms
      exact .inl hms
    · rw [setPeer_of_ne _ hc] at hms
      exact .inl hms

theorem broadcast_not_draining {data data' : Bytes} {kept rest peers : List ℕ} {anyFailed : Bool} :
    (s.broadcast data kept rest anyFailed).thread ≠ .draining data' peers := by
  cases rest <;> simp [broadcast]

theorem draining_step {data : Bytes} {peers : List ℕ} (h : s.step e = some t)
    (ht : t.thread = .draining data peers) :
    e = .send data ∨ ∃ peers', s.thread = .draining data peers' := by
  cases turn_of_step h with
  | listen | shutdown | same | reads => exact .inr ⟨peers, ht⟩
  | @send data' peers' hthread =>
    simp only [send] at ht
    split_ifs at ht
    · exact .inr ⟨peers, ht⟩
    · exact .inr ⟨peers, ht⟩
    · cases ht
      exact .inl rfl
  | accept hthread =>
    cases ht
    exact .inr ⟨_, hthread⟩
  | drained => exact absurd ht broadcast_not_draining
  | @write kept rest it loop anyFailed sent =>
    simp only [write] at ht
    cases hbody : loop.body sent with
    | running =>
      rw [hbody] at ht
      cases ht
    | returned r =>
      rw [hbody] at ht
      cases r <;> exact absurd ht broadcast_not_draining

end Posix.Outbound

namespace Downlink

open OutboundThreads Runs

/-- The PDUs that the outbound thread has passed to `send`. -/
def given (d : Downlink) : List Outgoing :=
  handedPdus d.threads.log ++ if d.sending then d.threads.outbound.unsent else []

/-- The messages are the encodings of the PDUs. -/
def Carries (encode : Pdu → Option Bytes) (xs : List Outgoing) (ms : List Bytes) : Prop :=
  xs.map (fun x => encode x.pdu) = ms.map some

theorem Carries.first {encode : Pdu → Option Bytes} {xs : List Outgoing} {ms ms' : List Bytes}
    (h : Carries encode xs ms) (hms' : ms' <+: ms) : Carries encode (xs.take ms'.length) ms' := by
  unfold Carries at h ⊢
  rw [List.map_take, h, ← List.map_take, ← List.prefix_iff_eq_take.mp hms']

theorem Carries.decoded {encode : Pdu → Option Bytes} {decode : Bytes → Option Pdu}
    {xs : List Outgoing} {ms : List Bytes} (h : Carries encode xs ms)
    (hdecode : ∀ x ∈ xs, ∀ buffer, encode x.pdu = some buffer → decode buffer = some x.pdu) :
    ms.map decode = xs.map fun x => some x.pdu := by
  have hbind := congrArg (List.map (·.bind decode)) h
  simp only [List.map_map, Function.comp_def, Option.bind_some] at hbind
  rw [← hbind]
  refine List.map_congr_left fun x hx => ?_
  have hmem : encode x.pdu ∈ ms.map some := h ▸ List.mem_map_of_mem hx
  obtain ⟨buffer, -, hbuffer⟩ := List.mem_map.mp hmem
  rw [← hbuffer]
  exact hdecode x hx buffer hbuffer.symm

structure Inv (encode : Pdu → Option Bytes) (d : Downlink) : Prop where
  threads : d.threads.Inv encode
  links : ∀ g, (d.links g).Inv ∧ (d.links g).Messages
  sending : d.sending = true → ∃ x buffer, d.threads.outbound = .send x buffer
  draining : ∀ g data peers, (d.links g).thread = .draining data peers →
    g = d.current ∧ d.sending = true ∧ ∃ x, d.threads.outbound = .send x data
  since : ∀ g c ms, ((d.links g).peers c).since = some ms → g ≤ d.current
    ∧ ∃ xs, Carries encode xs ms ∧ xs <:+: d.given ∧ (g = d.current → xs <:+ d.given)

section Step

variable {encode : Pdu → Option Bytes} {d d' : Downlink}

theorem given_sublist (h : d.Inv encode) : d.given.Sublist (pushedPdus d.threads.log) := by
  obtain ⟨taken, hpushed, hsub⟩ := h.threads.ordered
  have hgiven : d.given.Sublist (handedPdus d.threads.log ++ d.threads.outbound.unsent) := by
    unfold given
    split_ifs
    · exact List.Sublist.refl _
    · exact (List.nil_sublist _).append_left _
  rw [hpushed]
  exact (hgiven.trans hsub).trans (List.sublist_append_left _ _)

/-- Between the call of `send` and its return the other threads hand nothing over, and leave the
outbound thread where it is. -/
theorem quiet {s t : OutboundThreads} {l : OutboundThreads.Label} (h : s.Inv encode)
    (hl : ∀ x buffer deadline rc, s.outbound = .send x buffer → l = .outbound deadline rc → False)
    (ht : OutboundThreads.step encode s l = some t) :
    handedPdus t.log = handedPdus s.log
      ∧ ∀ x buffer, s.outbound = .send x buffer → t.outbound = .send x buffer := by
  cases move_step ht with
  | producer p hp hm ht =>
    subst ht
    exact ⟨by simp [apply, hm.handed], fun _ _ hx => hx⟩
  | outbound hl' hne hm ht =>
    have hsend : ∀ x buffer, s.outbound ≠ .send x buffer := fun x buffer hx =>
      hl x buffer _ _ hx hl'
    subst ht
    exact ⟨by simp [apply, hm.quiet hsend], fun x buffer hx => absurd hx (hsend x buffer)⟩
  | discard x hc hring ht =>
    subst ht
    exact ⟨by simp [apply], fun _ _ hx => hx⟩
  | skip ht | control _ _ _ _ _ ht => exact ht ▸ ⟨rfl, fun _ _ hx => hx⟩
  | start _ hc ht =>
    subst ht
    refine ⟨rfl, fun x buffer hx => ?_⟩
    cases hx.symm.trans (h.joined hc)

theorem inv_threads {l : OutboundThreads.Label} (h : d.Inv encode)
    (hd : step encode d (.threads l) = some d') : d'.Inv encode := by
  simp only [step] at hd
  split at hd
  · cases hd
  next hl =>
  obtain ⟨t, ht, rfl⟩ := Option.map_eq_some_iff.mp hd
  obtain ⟨hlog, hsend⟩ := quiet h.threads hl ht
  have hgiven : given { d with threads := t, current := d.connector t } = d.given := by
    unfold given
    rw [hlog]
    cases hs : d.sending with
    | false => rfl
    | true =>
      obtain ⟨x, buffer, hout⟩ := h.sending hs
      simp [hout, hsend x buffer hout]
  have hcurrent : d.current ≤ d.connector t := by
    unfold connector
    split_ifs <;> omega
  -- A new connector is made when the outbound thread has ended.
  have hsame : d.sending = true → d.connector t = d.current := by
    intro hs
    refine if_neg ?_
    rintro ⟨hc, -⟩
    obtain ⟨x, buffer, hout⟩ := h.sending hs
    cases hout.symm.trans (h.threads.joined (by rw [hc]; rfl))
  refine ⟨OutboundThreads.inv_step h.threads ht, h.links, fun hs => ?_, fun g data peers hg => ?_,
    fun g c ms hms => ?_⟩
  · obtain ⟨x, buffer, hout⟩ := h.sending hs
    exact ⟨x, buffer, hsend x buffer hout⟩
  · obtain ⟨hgc, hs, x, hout⟩ := h.draining g data peers hg
    exact ⟨hgc.trans (hsame hs).symm, hs, x, hsend x data hout⟩
  · obtain ⟨hle, xs, hcarries, hinfix, hsuffix⟩ := h.since g c ms hms
    rw [hgiven]
    exact ⟨hle.trans hcurrent, xs, hcarries, hinfix,
      fun hg => hsuffix (le_antisymm hle (hg ▸ hcurrent))⟩

theorem setLink_self (g : ℕ) (link : Posix.Outbound) : (d.setLink g link).links g = link :=
  Function.update_self ..

theorem setLink_of_ne {g g' : ℕ} (link : Posix.Outbound) (h : g' ≠ g) :
    (d.setLink g link).links g' = d.links g' :=
  Function.update_of_ne h ..

theorem links_setLink {g : ℕ} {e : Posix.Outbound.Event} {link : Posix.Outbound}
    (h : ∀ g, (d.links g).Inv ∧ (d.links g).Messages) (hlink : (d.links g).step e = some link)
    (he : ∀ data, e = .send data → Posix.Sized data) (g' : ℕ) :
    ((d.setLink g link).links g').Inv ∧ ((d.setLink g link).links g').Messages := by
  rcases eq_or_ne g' g with rfl | hg
  · rw [setLink_self]
    exact ⟨Posix.Outbound.inv_step (h g').1 hlink, Posix.Outbound.messages_step (h g').2 he hlink⟩
  · rw [setLink_of_ne _ hg]
    exact h g'

theorem Inv.encoded (h : d.Inv encode) {x : Outgoing} {buffer : Bytes}
    (hout : d.threads.outbound = .send x buffer) : encode x.pdu = some buffer := by
  have hfits := h.threads.fits.outbound
  rwa [hout] at hfits

/-- What the ring has taken encodes to messages that the framing can carry, if it encodes. -/
def SizedPdus (encode : Pdu → Option Bytes) (d : Downlink) : Prop :=
  ∀ x ∈ pushedPdus d.threads.log, ∀ buffer, encode x.pdu = some buffer → Posix.Sized buffer

theorem Inv.pushed (h : d.Inv encode) {x : Outgoing} {buffer : Bytes}
    (hout : d.threads.outbound = .send x buffer) : x ∈ pushedPdus d.threads.log := by
  obtain ⟨taken, hpushed, hsub⟩ := h.threads.ordered
  rw [hpushed]
  exact List.mem_append_left _ (hsub.subset (by simp [hout, Outbound.unsent]))

theorem inv_callSend (h : d.Inv encode) (hsized : d.SizedPdus encode)
    (hd : step encode d .callSend = some d') : d'.Inv encode := by
  simp only [step] at hd
  split at hd
  · next x buffer hout hs =>
    obtain ⟨link, hlink, rfl⟩ := Option.map_eq_some_iff.mp hd
    have hencode := h.encoded hout
    have hgiven : given { d.setLink d.current link with sending := true } = d.given ++ [x] := by
      simp [given, setLink, hs, hout, Outbound.unsent]
    refine ⟨h.threads, links_setLink h.links hlink ?_, fun _ => ⟨x, buffer, hout⟩,
      fun g data peers hg => ?_, fun g c ms hms => ?_⟩
    · rintro data ⟨⟩
      exact hsized x (h.pushed hout) _ hencode
    · rcases eq_or_ne g d.current with rfl | hne
      · rw [setLink_self] at hg
        rcases Posix.Outbound.draining_step hlink hg with heq | ⟨peers', hbefore⟩
        · cases heq
          exact ⟨rfl, rfl, x, hout⟩
        · cases hs.symm.trans (h.draining _ _ _ hbefore).2.1
      · rw [setLink_of_ne _ hne] at hg
        cases hs.symm.trans (h.draining _ _ _ hg).2.1
    · rw [hgiven]
      rcases eq_or_ne g d.current with rfl | hne
      · rw [setLink_self, Posix.Outbound.since_send hlink] at hms
        obtain ⟨ms', hms', rfl⟩ := Option.map_eq_some_iff.mp hms
        obtain ⟨hle, xs, hcarries, -, hsuffix⟩ := h.since _ c ms' hms'
        have hnew : xs ++ [x] <:+ d.given ++ [x] := by
          obtain ⟨front, hfront⟩ := hsuffix rfl
          exact ⟨front, by rw [← hfront, List.append_assoc]⟩
        refine ⟨hle, xs ++ [x], ?_, hnew.isInfix, fun _ => hnew⟩
        simpa [Carries, hencode] using hcarries
      · rw [setLink_of_ne _ hne] at hms
        obtain ⟨hle, xs, hcarries, hinfix, -⟩ := h.since g c ms hms
        exact ⟨hle, xs, hcarries, hinfix.trans (List.prefix_append _ _).isInfix,
          fun hg => absurd hg hne⟩
  · cases hd

theorem inv_sendReturns (h : d.Inv encode) (hd : step encode d .sendReturns = some d') :
    d'.Inv encode := by
  simp only [step] at hd
  split at hd
  · next peers rc hs hthread _ =>
    obtain ⟨t, ht, rfl⟩ := Option.map_eq_some_iff.mp hd
    obtain ⟨x, buffer, hout⟩ := h.sending hs
    have hinv := OutboundThreads.inv_step h.threads ht
    simp only [OutboundThreads.step, outboundStep, hout] at ht
    obtain rfl := Option.some.inj ht
    refine ⟨hinv, h.links, by simp, fun g data peers hg => ?_, fun g c ms hms => ?_⟩
    · obtain ⟨rfl, -, -⟩ := h.draining g data peers hg
      cases hthread.symm.trans hg
    · have hsince := h.since g c ms hms
      simpa [given, hs, hout, Outbound.unsent, apply, happens, handedPdus, handedPdu] using hsince
  · cases hd

theorem inv_link {g : ℕ} {e : Posix.Outbound.Event} (h : d.Inv encode)
    (he : ∀ data, e ≠ .send data) (hle : g ≤ d.current) {link : Posix.Outbound}
    (hlink : (d.links g).step e = some link) : (d.setLink g link).Inv encode := by
  refine ⟨h.threads, links_setLink h.links hlink fun data hdata => absurd hdata (he data),
    h.sending, fun g' data peers hg => ?_, fun g' c ms hms => ?_⟩
  · rcases eq_or_ne g' g with rfl | hne
    · rw [setLink_self] at hg
      rcases Posix.Outbound.draining_step hlink hg with heq | ⟨peers', hbefore⟩
      · exact absurd heq (he data)
      · exact h.draining g' data peers' hbefore
    · rw [setLink_of_ne _ hne] at hg
      exact h.draining g' data peers hg
  · rcases eq_or_ne g' g with rfl | hne
    · rw [setLink_self] at hms
      rcases Posix.Outbound.since_other he hlink hms with hbefore | ⟨data, peers, hthread, rfl⟩
      · exact h.since g' c ms hbefore
      · -- The connection is accepted while the last of the PDUs is being sent.
        obtain ⟨hcurrent, hs, x, hout⟩ := h.draining g' data peers hthread
        have hlast : [x] <:+ d.given :=
          ⟨handedPdus d.threads.log, by simp [given, hs, hout, Outbound.unsent]⟩
        exact ⟨hle, [x], by simp [Carries, h.encoded hout], hlast.isInfix, fun _ => hlast⟩
    · rw [setLink_of_ne _ hne] at hms
      exact h.since g' c ms hms

theorem inv_step {l : Label} (h : d.Inv encode) (hsized : d.SizedPdus encode)
    (hd : step encode d l = some d') : d'.Inv encode := by
  cases l with
  | threads l => exact inv_threads h hd
  | callSend => exact inv_callSend h hsized hd
  | sendReturns => exact inv_sendReturns h hd
  | link g e =>
    simp only [step] at hd
    split at hd
    · cases hd
    · next he =>
      split_ifs at hd with hle
      obtain ⟨link, hlink, rfl⟩ := Option.map_eq_some_iff.mp hd
      exact inv_link h (fun data hdata => he data hdata) hle hlink

theorem log_step {l : Label} (hd : step encode d l = some d') :
    d.threads.log <+: d'.threads.log := by
  cases l with
  | threads l =>
    simp only [step] at hd
    split at hd
    · cases hd
    · obtain ⟨t, ht, rfl⟩ := Option.map_eq_some_iff.mp hd
      exact log_move (move_step ht)
  | callSend =>
    simp only [step] at hd
    split at hd
    · obtain ⟨link, hlink, rfl⟩ := Option.map_eq_some_iff.mp hd
      exact List.prefix_rfl
    · cases hd
  | sendReturns =>
    simp only [step] at hd
    split at hd
    · obtain ⟨t, ht, rfl⟩ := Option.map_eq_some_iff.mp hd
      exact log_move (move_step ht)
    · cases hd
  | link g e =>
    simp only [step] at hd
    split at hd
    · cases hd
    · split_ifs at hd
      obtain ⟨link, hlink, rfl⟩ := Option.map_eq_some_iff.mp hd
      exact List.prefix_rfl

theorem inv_step_of_sized {l : Label} (h : d.SizedPdus encode → d.Inv encode)
    (hd : step encode d l = some d') : d'.SizedPdus encode → d'.Inv encode := by
  intro hsized
  obtain ⟨log, hlog⟩ := log_step hd
  have hbefore : d.SizedPdus encode := fun x hx =>
    hsized x (by rw [← hlog, pushedPdus_append]; exact List.mem_append_left _ hx)
  exact inv_step (h hbefore) hbefore hd

theorem inv_initialized (n : ℕ) : (initialized n).Inv encode := by
  refine ⟨OutboundThreads.inv_initialized .ran n,
    fun _ => ⟨Posix.Outbound.inv_initial, Posix.Outbound.messages_initial⟩, ?_, ?_, ?_⟩
  all_goals simp [initialized, Posix.Outbound.initial]

end Step

/-- The POSIX downlink of a RAN, for every interleaving of the threads that queue PDUs, the outbound
thread, `stop()` and `start()`, the writes of the RAN and the reads of the dApps: what a dApp decodes
from a connection is a run of consecutive PDUs of those that were passed to `send`, and these are
PDUs that the ring took, in that order, if these encode to 1 to 65536 bytes each and decode to what
they were. A dApp that has read everything, while no `send` is under way and the RAN has neither
dropped it nor shut down, has all of them from the first of its run on. -/
theorem downlink_in_order (encode : Pdu → Option Bytes) (decode : Bytes → Option Pdu) (n : ℕ)
    (labels : List Label) (d : Downlink)
    (hrun : run (step encode) (initialized n) labels = some d) (hsized : d.SizedPdus encode)
    (hdecode : ∀ x ∈ pushedPdus d.threads.log, ∀ buffer, encode x.pdu = some buffer →
      decode buffer = some x.pdu) (g c : ℕ) :
    ∃ xs, xs <:+: d.given ∧ d.given.Sublist (pushedPdus d.threads.log)
      ∧ ((d.links g).peers c).results.map decode = xs.map (fun x => some x.pdu)
      ∧ ∀ peers, (d.links g).thread = .idle peers → c ∈ peers → g = d.current →
        (d.links g).shutdownRequested = false → ((d.links g).peers c).unread = [] →
        ((d.links g).peers c).inboundLoop ≠ .stopped → xs <:+ d.given := by
  have h : d.Inv encode := inv (I := fun d => d.SizedPdus encode → d.Inv encode)
    inv_step_of_sized (fun _ => inv_initialized n) hrun hsized
  have hsub := given_sublist h
  have hdelivered := (h.links g).1.delivered (h.links g).2 c
  cases hsince : ((d.links g).peers c).since with
  | none =>
    rw [hdelivered.early hsince]
    exact ⟨[], List.nil_infix, hsub, rfl, fun _ _ _ _ _ _ _ => List.nil_suffix⟩
  | some ms =>
    obtain ⟨-, xs, hcarries, hinfix, hsuffix⟩ := h.since g c ms hsince
    have hfirst := (List.take_prefix ((d.links g).peers c).results.length xs).isInfix.trans hinfix
    refine ⟨_, hfirst, hsub, (hcarries.first (hdelivered.first ms hsince)).decoded ?_, ?_⟩
    · exact fun x hx => hdecode x (hsub.subset (hfirst.subset hx))
    · intro peers hthread hc hg hshut hunread hloop
      have hlength : xs.length = ms.length := by simpa using congrArg List.length hcarries
      rw [hdelivered.all ms peers hsince hthread hc hshut hunread hloop,
        List.take_of_length_le hlength.le]
      exact hsuffix hg

/-- A PDU is queued and sent to a dApp that connects meanwhile, and the dApp reads it. -/
def sendToDapp (pdu : Pdu) : List Label :=
  ((sendOne pdu).take 13).map .threads
    ++ [.link 0 .listen, .callSend, .link 0 (.accept 3), .link 0 .drained,
      .link 0 (.write (.moved 999)), .sendReturns, .link 0 (.poll 3 .ready),
      .link 0 (.recv 3 (.moved 4)), .link 0 (.recv 3 (.moved 999))]

def sentAck : Pdu where
  type := .messageAck
  choice := .messageAck { requestId := 6, responseCode := .positive }
  messageId := 3

def jsonEncode : Pdu → Option Bytes := JsonE3Encoder.encode (Json.reference Json.noFloats)

def jsonDecode (data : Bytes) : Option Pdu :=
  (JsonE3Encoder.decode (Json.reference Json.noFloats) Json.noFloats.truncate data).toOption

theorem downlink_in_order_json :
    ∃ d xs, run (step jsonEncode) (initialized 1) (sendToDapp sentAck) = some d ∧ xs <:+: d.given
      ∧ ((d.links 0).peers 3).results.map jsonDecode = xs.map (fun x => some x.pdu)
      ∧ xs.map Outgoing.pdu = [sentAck] := by
  have hrun : (run (step jsonEncode) (initialized 1) (sendToDapp sentAck)).map
      (fun d => (((d.links 0).peers 3).results.map jsonDecode, pushedPdus d.threads.log))
      = some ([some sentAck], [⟨1, sentAck⟩]) := by decide +kernel
  have hcodec : ∀ buffer, jsonEncode sentAck = some buffer →
      Posix.Sized buffer ∧ jsonDecode buffer = some sentAck := by
    have hall : (jsonEncode sentAck).all (fun buffer => decide (1 ≤ buffer.length)
        && decide (buffer.length ≤ 65536) && decide (jsonDecode buffer = some sentAck)) = true := by
      decide +kernel
    intro buffer hbuffer
    rw [hbuffer] at hall
    simpa [Posix.Sized, and_assoc] using hall
  obtain ⟨d, hd, heq⟩ := Option.map_eq_some_iff.mp hrun
  obtain ⟨hresults, hpushed⟩ := Prod.mk.inj heq
  have hmem : ∀ x ∈ pushedPdus d.threads.log, x.pdu = sentAck := by
    intro x hx
    rw [hpushed] at hx
    rw [List.mem_singleton.mp hx]
  obtain ⟨xs, hinfix, -, hxs, -⟩ := downlink_in_order jsonEncode jsonDecode 1 _ d hd
    (fun x hx buffer hbuffer => (hcodec buffer (hmem x hx ▸ hbuffer)).1)
    (fun x hx buffer hbuffer => hmem x hx ▸ (hcodec buffer (hmem x hx ▸ hbuffer)).2) 0 3
  refine ⟨d, xs, hd, hinfix, hxs, ?_⟩
  rw [hresults] at hxs
  simpa using congrArg (List.filterMap id) hxs.symm

end Downlink

end LibE3
