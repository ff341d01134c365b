import LibE3.PosixConnector
import LibE3.Lib.Runs

/-!
# Messages to the dApps arrive whole and in order

The bytes that the RAN has written for a connection are always a beginning of the frames of the
messages since it was accepted, and the bytes a dApp has read are the frames of what it returned
with a torn frame behind them. As no frame begins another one, the two fit together whatever the
kernel does in between. A peer that a write failed for leaves the list of peers, and nothing is
written for it again.
-/

namespace LibE3.Posix

open LengthPrefix

/-- The sizes of messages that `recv_with_size` takes. -/
def Sized (m : Bytes) : Prop := 1 ≤ m.length ∧ m.length ≤ 65536

theorem Sized.fits {m : Bytes} (h : Sized m) : sizePrefix.Fits m :=
  show m.length < 256 ^ 4 by have := h.2; omega

/-! ## The loop of the sender -/

namespace SendInChunks

variable {s t : SendInChunks}

theorem offered_isPrefix (s : SendInChunks) :
    s.offered <+: (sizePrefix.frame s.buffer).drop s.totalSent := by
  have hlen : (sizePrefix.write s.buffer.length).length = 4 := sizePrefix.length_write _
  unfold offered
  split_ifs with h
  · rw [Header.frame, List.drop_append_of_le_length (by omega)]
  · rw [Header.frame, List.drop_append, hlen, List.drop_eq_nil_of_le (by omega), List.nil_append]
    exact List.take_prefix _ _

theorem offered_ne_nil (h : s.totalSent < 4 + s.buffer.length) : s.offered ≠ [] := by
  have hlen : (sizePrefix.write s.buffer.length).length = 4 := sizePrefix.length_write _
  rw [← List.length_pos_iff]
  unfold offered
  split_ifs with h4
  · rw [List.length_append, List.length_drop, hlen]
    omega
  · simp only [List.length_take, List.length_drop, chunkSize]
    omega

theorem taken_isPrefix (s : SendInChunks) (sent : WriteResult) :
    s.taken sent <+: (sizePrefix.frame s.buffer).drop s.totalSent := by
  cases sent with
  | moved n => exact (List.take_prefix n _).trans s.offered_isPrefix
  | interrupted => exact List.nil_prefix
  | failed => exact List.nil_prefix

theorem take_add_taken (s : SendInChunks) (sent : WriteResult) :
    (sizePrefix.frame s.buffer).take (s.totalSent + (s.taken sent).length)
      = (sizePrefix.frame s.buffer).take s.totalSent ++ s.taken sent := by
  rw [List.take_add, ← List.prefix_iff_eq_take.mp (s.taken_isPrefix sent)]

theorem check_running (h : s.check = .running t) :
    t = s ∧ s.totalSent < 4 + s.buffer.length := by
  unfold check at h
  split_ifs at h with hlt
  obtain rfl := Loop.running.inj h
  exact ⟨rfl, hlt⟩

theorem body_running {sent : WriteResult} (h : s.body sent = .running t) :
    t.buffer = s.buffer ∧ t.totalSent = s.totalSent + (s.taken sent).length
      ∧ t.totalSent < 4 + t.buffer.length := by
  cases sent with
  | moved n =>
    obtain ⟨rfl, hlt⟩ := check_running h
    exact ⟨rfl, rfl, hlt⟩
  | interrupted =>
    obtain ⟨rfl, hlt⟩ := check_running h
    exact ⟨rfl, rfl, hlt⟩
  | failed => exact absurd h nofun

theorem body_returned {sent : WriteResult} (hs : s.totalSent < 4 + s.buffer.length)
    (h : s.body sent = .returned true) :
    (sizePrefix.frame s.buffer).take s.totalSent ++ s.taken sent = sizePrefix.frame s.buffer := by
  rw [← take_add_taken]
  apply List.take_of_length_le
  rw [Header.length_frame]
  show 4 + _ ≤ _
  cases sent with
  | moved n =>
    simp only [body, check] at h
    split_ifs at h with hlt
    omega
  | interrupted =>
    simp only [body, check, if_pos hs] at h
    exact absurd h nofun
  | failed => exact absurd h nofun

theorem body_forward {n : ℕ} (hs : s.totalSent < 4 + s.buffer.length) (hn : 1 ≤ n)
    (h : s.body (.moved n) = .running t) :
    4 + t.buffer.length - t.totalSent < 4 + s.buffer.length - s.totalSent := by
  obtain ⟨hbuf, hsent, hlt⟩ := body_running h
  have hpos : 0 < s.offered.length := List.length_pos_iff.mpr (offered_ne_nil hs)
  have htaken : 1 ≤ (s.taken (.moved n)).length := by
    rw [taken, List.length_take]
    omega
  rw [hbuf] at hlt ⊢
  omega

end SendInChunks

/-- `send_in_chunks` returns if every write that is not an error moves a byte and the writes are
not interrupted for ever. -/
theorem sendInChunks_ends (buffer : Bytes) {answers : ℕ → WriteResult}
    (hmove : ∀ i n, answers i = .moved n → 1 ≤ n)
    (hfair : ∀ i, ∃ k, answers (i + k) ≠ .interrupted) :
    ∃ n r, sendInChunks buffer answers n = .returned r := by
  refine Loop.returns (fun s => 4 + s.buffer.length - s.totalSent)
    (fun s => s.totalSent < 4 + s.buffer.length) (· = .interrupted) ?_ ?_ ?_ ?_ hfair
  · intro s t a _ h
    exact (SendInChunks.body_running h).2.2
  · intro s h
    obtain ⟨rfl, hlt⟩ := SendInChunks.check_running h
    exact hlt
  · rintro s _ hs rfl
    exact if_pos hs
  · intro i s t hi hs h
    cases ha : answers i with
    | moved n =>
      rw [ha] at h
      exact SendInChunks.body_forward hs (hmove i n ha) h
    | interrupted => exact absurd ha hi
    | failed =>
      rw [ha] at h
      exact absurd h nofun

/-! ## The loops of the receiver -/

namespace RecvWithSize

def held : RecvWithSize → Bytes
  | .header received => received
  | .payload payloadSize received => sizePrefix.write payloadSize ++ received

/-- What holds in front of every `recv`. -/
def Waits : RecvWithSize → Prop
  | .header received => received.length < 4
  | .payload payloadSize received => received.length < payloadSize ∧ payloadSize ≤ 65536

theorem Waits.torn {s : RecvWithSize} (h : s.Waits) : sizePrefix.Torn s.held := by
  cases s with
  | header received => exact .header h
  | payload payloadSize received =>
    refine .payload (sizePrefix.length_write payloadSize) ?_
    have hread : sizePrefix.read (sizePrefix.write payloadSize) = payloadSize :=
      sizePrefix.read_write payloadSize
        (show payloadSize < 256 ^ 4 by have := h.2; omega)
    rw [hread]
    exact h.1

theorem Waits.wanted_pos {s : RecvWithSize} (h : s.Waits) : 0 < s.wanted := by
  cases s with
  | header received =>
    simp only [Waits] at h
    simp only [wanted]
    omega
  | payload payloadSize received =>
    simp only [Waits] at h
    simp only [wanted, chunkSize]
    omega

/-- What a turn of a loop makes of the bytes held: they are still a torn frame, or they have become
the frame of the message that is returned. -/
def Continues (held : Bytes) : Loop RecvWithSize (Except ErrorCode Bytes) → Prop
  | .running s => s.Waits ∧ s.held = held
  | .returned (.ok m) => Sized m ∧ sizePrefix.frame m = held
  | .returned (.error _) => True

theorem continues_check {n : ℕ} {received : Bytes} (hn : 1 ≤ n ∧ n ≤ 65536)
    (hr : received.length ≤ n) :
    Continues (sizePrefix.write n ++ received) (check n received) := by
  unfold check
  split_ifs with hlt
  · exact ⟨⟨hlt, hn.2⟩, rfl⟩
  · have hlen : received.length = n := by omega
    refine ⟨⟨by omega, by omega⟩, ?_⟩
    rw [Header.frame, hlen]

theorem continues_sized {h : Bytes} (hh : h.length = 4) : Continues h (sized h) := by
  have hback : sizePrefix.write (sizePrefix.read h) = h := sizePrefix.write_read h hh
  by_cases hsize : sizePrefix.read h = 0 ∨ sizePrefix.read h > maxProtocolDataSize * 2
  · simp only [sized, if_pos hsize]
    trivial
  · simp only [sized, if_neg hsize]
    unfold maxProtocolDataSize at hsize
    have hcheck : Continues (sizePrefix.write (sizePrefix.read h) ++ [])
        (check (sizePrefix.read h) []) := continues_check (by omega) (Nat.zero_le _)
    rwa [List.append_nil, hback] at hcheck

theorem continues_body {s : RecvWithSize} {bs : Bytes} (hs : s.Waits)
    (hbs : bs.length ≤ s.wanted) : Continues (s.held ++ bs) (s.body (.bytes bs)) := by
  cases s with
  | header received =>
    simp only [wanted] at hbs
    simp only [body, wanted, List.take_of_length_le hbs, held]
    split_ifs with hlt
    · exact ⟨hlt, rfl⟩
    · simp only [Waits] at hs
      apply continues_sized
      rw [List.length_append] at hlt ⊢
      omega
  | payload n received =>
    have hle : bs.length ≤ n - received.length := hbs.trans (Nat.min_le_right _ _)
    simp only [Waits] at hs
    simp only [body, List.take_of_length_le hbs, held, List.append_assoc]
    apply continues_check (by omega)
    rw [List.length_append]
    omega

theorem bytes_of_running {s t : RecvWithSize} {ret : ReadResult} (h : s.body ret = .running t) :
    ∃ bs, ret = .bytes bs := by
  cases ret with
  | bytes bs => exact ⟨bs, rfl⟩
  | closed | interrupted | failed => cases s <;> exact absurd h nofun

theorem body_take (s : RecvWithSize) (bs : Bytes) :
    s.body (.bytes (bs.take s.wanted)) = s.body (.bytes bs) := by
  cases s <;> simp only [body, List.take_take, Nat.min_self]

theorem waits_body {s t : RecvWithSize} {ret : ReadResult} (hs : s.Waits)
    (h : s.body ret = .running t) : t.Waits := by
  obtain ⟨bs, rfl⟩ := bytes_of_running h
  rw [← body_take] at h
  have hnext := continues_body hs (List.length_take_le s.wanted bs)
  rw [h] at hnext
  exact hnext.1

def left : RecvWithSize → ℕ
  | .header received => 65537 + (4 - received.length)
  | .payload payloadSize received => payloadSize - received.length

theorem check_running {n : ℕ} {received : Bytes} {t : RecvWithSize}
    (h : check n received = .running t) : t = .payload n received := by
  unfold check at h
  split_ifs at h
  exact (Loop.running.inj h).symm

theorem body_forward {s t : RecvWithSize} {bs : Bytes} (hs : s.Waits) (hbs : bs ≠ [])
    (h : s.body (.bytes bs) = .running t) : t.left < s.left := by
  have hmoved : 1 ≤ (bs.take s.wanted).length := by
    have hpos := List.length_pos_iff.mpr hbs
    have hwanted := hs.wanted_pos
    rw [List.length_take]
    omega
  have ht := waits_body hs h
  cases s with
  | header received =>
    simp only [body] at h
    split_ifs at h with hlt
    · obtain rfl := Loop.running.inj h
      simp only [left, List.length_append] at hlt ⊢
      omega
    · simp only [sized] at h
      split_ifs at h
      obtain rfl := check_running h
      simp only [Waits] at ht
      simp only [left]
      omega
  | payload n received =>
    obtain rfl := check_running h
    simp only [Waits] at hs
    simp only [left, List.length_append]
    omega

end RecvWithSize

theorem recvWithSize_ends {answers : ℕ → ReadResult}
    (hmove : ∀ i bs, answers i = .bytes bs → bs ≠ []) :
    ∃ n r, recvWithSize answers n = .returned r := by
  refine Loop.returns RecvWithSize.left RecvWithSize.Waits (fun _ => False)
    RecvWithSize.waits_body ?_ (fun _ hf => hf.elim) ?_ fun i => ⟨0, not_false⟩
  · rintro s ⟨rfl⟩
    exact show 0 < 4 by decide
  · intro i s t _ hs h
    obtain ⟨bs, ha⟩ := RecvWithSize.bytes_of_running h
    rw [ha] at h
    exact RecvWithSize.body_forward hs (hmove i bs ha) h

/-! ## The bytes of one connection -/

/-- The torn frame that a dApp holds at its place in the loops. -/
def InboundLoop.Holds : InboundLoop → Bytes → Prop
  | .polling, x => x = []
  | .receiving loop, x => loop.Waits ∧ x = loop.held
  | .stopped, _ => True

theorem InboundLoop.Holds.torn {l : InboundLoop} {x : Bytes} (h : l.Holds x)
    (hl : l ≠ .stopped) : sizePrefix.Torn x := by
  cases l with
  | polling =>
    rw [show x = [] from h]
    exact sizePrefix.torn_nil
  | receiving loop =>
    rw [h.2]
    exact h.1.torn
  | stopped => exact absurd rfl hl

structure Peer.Sound (p : Peer) : Prop where
  read_le : p.read ≤ p.written.length
  sized : ∀ m ∈ p.results, Sized m
  holds : ∃ x, p.written.take p.read = sizePrefix.stream p.results ++ x ∧ p.inboundLoop.Holds x
  early : p.since = none → p.written = []
  begun : ∀ ms, p.since = some ms → p.written <+: sizePrefix.stream ms

namespace Peer.Sound

variable {p : Peer}

theorem stopped (h : p.Sound) : ({ p with inboundLoop := .stopped } : Peer).Sound := by
  obtain ⟨x, hx, -⟩ := h.holds
  exact ⟨h.read_le, h.sized, ⟨x, hx, trivial⟩, h.early, h.begun⟩

/-- A turn of the dApp's loops. -/
theorem resume {loop : RecvWithSize} {a : Arrival} {ret : ReadResult} (h : p.Sound)
    (hloop : p.inboundLoop = .receiving loop) (ha : a.answer loop.wanted p.unread = some ret) :
    (p.resume loop ret).Sound := by
  obtain ⟨x, hx, hheld⟩ := h.holds
  rw [hloop] at hheld
  obtain ⟨hwaits, rfl⟩ := hheld
  cases ret with
  | bytes bs =>
    obtain ⟨⟨y, hy⟩, hlen⟩ := Arrival.answer_bytes ha
    have hle : p.read + bs.length ≤ p.written.length := by
      have := congrArg List.length hy
      rw [Peer.unread, List.length_drop, List.length_append] at this
      have := h.read_le
      omega
    -- What has been read now ends with the new bytes.
    have hread : p.written.take (p.read + bs.length)
        = sizePrefix.stream p.results ++ (loop.held ++ bs) := by
      have htake : (p.written.drop p.read).take bs.length = bs := by
        rw [← Peer.unread, ← hy, List.take_left]
      rw [List.take_add, hx, htake, List.append_assoc]
    have hnext := RecvWithSize.continues_body hwaits hlen
    simp only [Peer.resume]
    cases hb : loop.body (.bytes bs) with
    | running loop' =>
      rw [hb] at hnext
      exact ⟨hle, h.sized, ⟨_, hread, hnext.1, hnext.2.symm⟩, h.early, h.begun⟩
    | returned r =>
      rw [hb] at hnext
      cases r with
      | error e => exact ⟨hle, h.sized, ⟨_, hread, trivial⟩, h.early, h.begun⟩
      | ok m =>
        refine ⟨hle, ?_, ⟨[], ?_, rfl⟩, h.early, h.begun⟩
        · intro m' hm'
          rcases List.mem_append.mp hm' with hm' | hm'
          · exact h.sized m' hm'
          · rw [List.mem_singleton.mp hm']
            exact hnext.1
        · rw [hread, Header.stream_append, Header.stream_cons, Header.stream_nil, hnext.2]
          simp only [List.append_nil]
  | closed | interrupted | failed =>
    cases loop <;> exact h.stopped

/-- Bytes that come behind what has been written do not change what has been read. -/
theorem append {x : Bytes} (h : p.Sound)
    (hx : ∃ ms, p.since = some ms ∧ p.written ++ x <+: sizePrefix.stream ms) :
    ({ p with written := p.written ++ x } : Peer).Sound := by
  obtain ⟨ms, hms, hstream⟩ := hx
  refine ⟨?_, h.sized, ?_, ?_, ?_⟩
  · show p.read ≤ (p.written ++ x).length
    rw [List.length_append]
    have := h.read_le
    omega
  · obtain ⟨y, hy, hheld⟩ := h.holds
    refine ⟨y, ?_, hheld⟩
    show (p.written ++ x).take p.read = _
    rw [List.take_append_of_le_length h.read_le, hy]
  · intro hnone
    exact absurd (hms.symm.trans hnone) nofun
  · intro ms' hms'
    obtain rfl := Option.some.inj (hms.symm.trans hms')
    exact hstream

theorem note (h : p.Sound) (data : Bytes) : (p.note data).Sound := by
  refine ⟨h.read_le, h.sized, h.holds, ?_, ?_⟩
  · intro hnone
    exact h.early (Option.map_eq_none_iff.mp hnone)
  · intro ms' hms'
    obtain ⟨ms, hms, rfl⟩ := Option.map_eq_some_iff.mp hms'
    rw [Header.stream_append]
    exact (h.begun ms hms).trans (List.prefix_append _ _)

/-- The messages returned are the first of those since the connection was accepted. -/
theorem first (h : p.Sound) {ms : List Bytes} (hms : p.since = some ms)
    (hsized : ∀ m ∈ ms, Sized m) : p.results <+: ms := by
  obtain ⟨x, hx, -⟩ := h.holds
  apply Header.first_of_stream (H := sizePrefix) (x := x) (fun m hm => (h.sized m hm).fits)
    (fun m hm => (hsized m hm).fits)
  rw [← hx]
  exact (List.take_prefix _ _).trans (h.begun ms hms)

end Peer.Sound

theorem Peer.resume_same (p : Peer) (loop : RecvWithSize) (ret : ReadResult) :
    (p.resume loop ret).written = p.written ∧ (p.resume loop ret).since = p.since := by
  unfold Peer.resume
  cases ret <;> dsimp only <;> split <;> exact ⟨rfl, rfl⟩

/-! ## The channel -/

/-- `outbound_peer_sockets_`. -/
def OutboundThread.peers : OutboundThread → List ℕ
  | .idle peers => peers
  | .draining _ peers => peers
  | .sending kept it rest _ _ => kept ++ it :: rest

namespace Peer

/-- The frames of all messages have been written. -/
def UpToDate (p : Peer) : Prop :=
  ∃ ms, p.since = some ms ∧ p.written = sizePrefix.stream ms

/-- All frames but the last one have been written. -/
def Behind (p : Peer) (data : Bytes) : Prop :=
  ∃ ms, p.since = some (ms ++ [data]) ∧ p.written = sizePrefix.stream ms

/-- The last frame has been written up to where the loop stands. -/
def Partway (p : Peer) (loop : SendInChunks) : Prop :=
  loop.totalSent < 4 + loop.buffer.length
    ∧ ∃ ms, p.since = some (ms ++ [loop.buffer])
      ∧ p.written = sizePrefix.stream ms ++ (sizePrefix.frame loop.buffer).take loop.totalSent

def wrote (p : Peer) (x : Bytes) : Peer := { p with written := p.written ++ x }

theorem Behind.partway {p : Peer} {data : Bytes} (h : p.Behind data) :
    p.Partway { buffer := data } := by
  obtain ⟨ms, hms, hw⟩ := h
  refine ⟨show 0 < 4 + data.length by omega, ms, hms, ?_⟩
  rw [hw, List.take_zero, List.append_nil]

section Write

variable {p : Peer} {loop loop' : SendInChunks} {sent : WriteResult}

theorem Partway.sound (h : p.Partway loop) (hp : p.Sound) : (p.wrote (loop.taken sent)).Sound := by
  obtain ⟨-, ms, hms, hw⟩ := h
  refine hp.append ⟨_, hms, ?_⟩
  rw [hw, List.append_assoc, ← SendInChunks.take_add_taken, Header.stream_append,
    Header.stream_cons, Header.stream_nil, List.append_nil]
  exact (List.prefix_append_right_inj _).mpr (List.take_prefix _ _)

theorem Partway.running (h : p.Partway loop) (hbody : loop.body sent = .running loop') :
    (p.wrote (loop.taken sent)).Partway loop' := by
  obtain ⟨-, ms, hms, hw⟩ := h
  obtain ⟨hbuf, hsent, hlt⟩ := SendInChunks.body_running hbody
  refine ⟨hlt, ms, by rw [hbuf]; exact hms, ?_⟩
  rw [hbuf, hsent, SendInChunks.take_add_taken, ← List.append_assoc, ← hw]
  rfl

theorem Partway.upToDate (h : p.Partway loop) (hbody : loop.body sent = .returned true) :
    (p.wrote (loop.taken sent)).UpToDate := by
  obtain ⟨hlt, ms, hms, hw⟩ := h
  refine ⟨_, hms, ?_⟩
  show p.written ++ loop.taken sent = _
  rw [hw, List.append_assoc, SendInChunks.body_returned hlt hbody, Header.stream_append,
    Header.stream_cons, Header.stream_nil, List.append_nil]

end Write

end Peer

/-- Where the peers stand at each place of the outbound thread. A message that was passed after the
shutdown is not sent. -/
def OutboundThread.Stands (shutdown : Bool) (peers : ℕ → Peer) : OutboundThread → Prop
  | .idle ps => ∀ c ∈ ps, (peers c).since ≠ none ∧ (shutdown = false → (peers c).UpToDate)
  | .draining data ps => ∀ c ∈ ps, (peers c).Behind data
  | .sending kept it rest loop _ =>
    (∀ c ∈ kept, (peers c).UpToDate) ∧ (peers it).Partway loop
      ∧ ∀ c ∈ rest, (peers c).Behind loop.buffer

structure Outbound.Inv (s : Outbound) : Prop where
  sound : ∀ c, (s.peers c).Sound
  nodup : s.thread.peers.Nodup
  stands : s.thread.Stands s.shutdownRequested s.peers
  unopened : s.listening = false → s.thread = .idle []

namespace Outbound

variable {s t : Outbound} {c : ℕ}

@[simp] theorem setPeer_self (p : Peer) : (s.setPeer c p).peers c = p := Function.update_self ..

theorem setPeer_of_ne {d : ℕ} (p : Peer) (h : d ≠ c) : (s.setPeer c p).peers d = s.peers d :=
  Function.update_of_ne h ..

@[simp] theorem peers_broadcast (data : Bytes) (kept rest : List ℕ) (anyFailed : Bool) :
    (s.broadcast data kept rest anyFailed).thread.peers = kept ++ rest := by
  cases rest with
  | nil => exact (List.append_nil kept).symm
  | cons it rest => rfl

@[simp] theorem broadcast_peers (data : Bytes) (kept rest : List ℕ) (anyFailed : Bool) :
    (s.broadcast data kept rest anyFailed).peers = s.peers := by
  cases rest <;> rfl

theorem Inv.setPeer (h : s.Inv) {p : Peer} (hp : p.Sound) (hw : p.written = (s.peers c).written)
    (hsince : p.since = (s.peers c).since) : (s.setPeer c p).Inv := by
  have hsame : ∀ d, ((s.setPeer c p).peers d).written = (s.peers d).written
      ∧ ((s.setPeer c p).peers d).since = (s.peers d).since := by
    intro d
    rcases eq_or_ne d c with rfl | hd
    · simp only [setPeer_self, hw, hsince, and_self]
    · simp only [setPeer_of_ne p hd, and_self]
  refine ⟨?_, h.nodup, ?_, h.unopened⟩
  · intro d
    rcases eq_or_ne d c with rfl | hd
    · rwa [setPeer_self]
    · rw [setPeer_of_ne p hd]
      exact h.sound d
  · have hstands := h.stands
    show s.thread.Stands s.shutdownRequested (s.setPeer c p).peers
    cases hthread : s.thread <;>
      simpa only [hthread, OutboundThread.Stands, Peer.UpToDate, Peer.Behind, Peer.Partway, hsame]
        using hstands

variable {data : Bytes} {kept rest : List ℕ} {anyFailed : Bool}

theorem inv_broadcast (hsound : ∀ c, (s.peers c).Sound) (hlisten : s.listening = true)
    (hnodup : (kept ++ rest).Nodup) (hkept : ∀ c ∈ kept, (s.peers c).UpToDate)
    (hrest : ∀ c ∈ rest, (s.peers c).Behind data) :
    (s.broadcast data kept rest anyFailed).Inv := by
  refine ⟨by simpa only [broadcast_peers] using hsound, by simpa only [peers_broadcast], ?_, ?_⟩
  · cases rest with
    | nil =>
      intro c hc
      refine ⟨?_, fun _ => hkept c hc⟩
      obtain ⟨ms, hms, -⟩ := hkept c hc
      show (s.peers c).since ≠ none
      rw [hms]
      exact nofun
    | cons it rest =>
      exact ⟨hkept, (hrest it List.mem_cons_self).partway,
        fun c hc => hrest c (List.mem_cons_of_mem it hc)⟩
  · intro hl
    cases rest <;> exact absurd (hlisten.symm.trans hl) nofun

theorem Inv.listening (h : s.Inv) (hthread : s.thread ≠ .idle []) : s.listening = true := by
  cases hl : s.listening with
  | true => rfl
  | false => exact absurd (h.unopened hl) hthread

theorem inv_send {peers : List ℕ} (h : s.Inv) (hthread : s.thread = .idle peers) :
    (s.send data peers).Inv := by
  have hstands := h.stands
  have hnodup := h.nodup
  rw [hthread] at hstands hnodup
  have hsound : ∀ c, ((s.peers c).note data).Sound := fun c => (h.sound c).note data
  have hsome : ∀ c ∈ peers, ((s.peers c).note data).since ≠ none := by
    intro c hc hnone
    exact (hstands c hc).1 (Option.map_eq_none_iff.mp hnone)
  simp only [send]
  split_ifs with hshut hlisten
  · refine ⟨hsound, h.nodup, ?_, h.unopened⟩
    show s.thread.Stands s.shutdownRequested fun c => (s.peers c).note data
    rw [hthread]
    exact fun c hc => ⟨hsome c hc, fun hf => absurd (hshut.symm.trans hf) nofun⟩
  · have hidle := h.unopened (by simpa using hlisten)
    refine ⟨hsound, h.nodup, ?_, h.unopened⟩
    show s.thread.Stands s.shutdownRequested fun c => (s.peers c).note data
    rw [hidle]
    exact fun c hc => absurd hc List.not_mem_nil
  · refine ⟨hsound, hnodup, ?_, fun hl => absurd hl (by simpa using hlisten)⟩
    intro c hc
    obtain ⟨ms, hms, hw⟩ := (hstands c hc).2 (by simpa using hshut)
    refine ⟨ms, ?_, hw⟩
    show (s.peers c).since.map _ = _
    rw [hms, Option.map_some]

theorem inv_accept {peers : List ℕ} (h : s.Inv) (hthread : s.thread = .draining data peers)
    (hc : (s.peers c).since = none) :
    ({ s.setPeer c { s.peers c with since := some [data] } with
      thread := .draining data (peers ++ [c]) } : Outbound).Inv := by
  have hstands := h.stands
  have hnodup := h.nodup
  rw [hthread] at hstands hnodup
  simp only [OutboundThread.peers] at hnodup
  have hnew : c ∉ peers := by
    intro hmem
    obtain ⟨ms, hms, -⟩ := hstands c hmem
    exact absurd (hms.symm.trans hc) nofun
  have hw := (h.sound c).early hc
  have hsound := h.sound c
  refine ⟨?_, ?_, ?_, fun hl => ?_⟩
  · intro d
    rcases eq_or_ne d c with rfl | hd
    · simp only [setPeer_self]
      refine ⟨hsound.read_le, hsound.sized, hsound.holds, nofun, fun ms _ => ?_⟩
      show (s.peers d).written <+: _
      rw [hw]
      exact List.nil_prefix
    · simp only [setPeer_of_ne _ hd]
      exact h.sound d
  · exact hnodup.append (List.nodup_singleton c) (by simpa using hnew)
  · intro d hd
    rcases List.mem_append.mp hd with hd | hd
    · have hne : d ≠ c := fun e => hnew (e ▸ hd)
      simp only [setPeer_of_ne _ hne]
      exact hstands d hd
    · obtain rfl := List.mem_singleton.mp hd
      simp only [setPeer_self]
      exact ⟨[], rfl, hw⟩
  · have hidle := h.unopened hl
    exact absurd (hthread.symm.trans hidle) nofun

theorem inv_write {it : ℕ} {loop : SendInChunks} {sent : WriteResult} (h : s.Inv)
    (hthread : s.thread = .sending kept it rest loop anyFailed) :
    (s.write kept it rest loop anyFailed sent).Inv := by
  have hlisten : s.listening = true := h.listening (by rw [hthread]; rintro ⟨⟩)
  have hstands := h.stands
  have hnodup := h.nodup
  rw [hthread] at hstands hnodup
  simp only [OutboundThread.peers] at hnodup
  obtain ⟨hkept, hit, hrest⟩ := hstands
  have hsplit : (it :: (kept ++ rest)).Nodup :=
    List.perm_middle.nodup_iff.mp hnodup
  obtain ⟨hnot, hothers⟩ := List.nodup_cons.mp hsplit
  -- The other peers are as before.
  have hother : ∀ c ∈ kept ++ rest,
      (s.setPeer it ((s.peers it).wrote (loop.taken sent))).peers c = s.peers c :=
    fun c hc => setPeer_of_ne _ fun e => hnot (e ▸ hc)
  have hsound : ∀ c, ((s.setPeer it ((s.peers it).wrote (loop.taken sent))).peers c).Sound := by
    intro c
    rcases eq_or_ne c it with rfl | hc
    · rw [setPeer_self]
      exact hit.sound (h.sound c)
    · rw [setPeer_of_ne _ hc]
      exact h.sound c
  have hkept' : ∀ c ∈ kept,
      ((s.setPeer it ((s.peers it).wrote (loop.taken sent))).peers c).UpToDate := by
    intro c hc
    rw [hother c (List.mem_append_left rest hc)]
    exact hkept c hc
  have hrest' : ∀ c ∈ rest,
      ((s.setPeer it ((s.peers it).wrote (loop.taken sent))).peers c).Behind loop.buffer := by
    intro c hc
    rw [hother c (List.mem_append_right kept hc)]
    exact hrest c hc
  unfold write
  cases hbody : loop.body sent with
  | running loop' =>
    refine ⟨hsound, hnodup, ⟨hkept', ?_, ?_⟩, fun hl => ?_⟩
    · simp only [setPeer_self]
      exact hit.running hbody
    · rw [(SendInChunks.body_running hbody).1]
      exact hrest'
    · cases hlisten.symm.trans hl
  | returned r =>
    cases r with
    | false => exact inv_broadcast hsound hlisten hothers hkept' hrest'
    | true =>
      refine inv_broadcast hsound hlisten (by simpa using hnodup) ?_ hrest'
      intro c hc
      rcases List.mem_append.mp hc with hc | hc
      · exact hkept' c hc
      · obtain rfl := List.mem_singleton.mp hc
        rw [setPeer_self]
        exact hit.upToDate hbody

/-- What one event can do to the channel. `reads` is every turn of a dApp's loops. -/
inductive Turn (s : Outbound) : Event → Outbound → Prop
  | listen : Turn s .listen { s with listening := true }
  | shutdown : Turn s .shutdown { s with shutdownRequested := true }
  | send {data : Bytes} {peers : List ℕ} (h : s.thread = .idle peers) :
    Turn s (.send data) (s.send data peers)
  | accept {data : Bytes} {peers : List ℕ} {c : ℕ} (h : s.thread = .draining data peers)
    (hc : (s.peers c).since = none) :
    Turn s (.accept c)
      { s.setPeer c { s.peers c with since := some [data] } with
        thread := .draining data (peers ++ [c]) }
  | drained {data : Bytes} {peers : List ℕ} (h : s.thread = .draining data peers) :
    Turn s .drained (s.broadcast data [] peers false)
  | write {kept rest : List ℕ} {it : ℕ} {loop : SendInChunks} {anyFailed : Bool}
    {sent : WriteResult} (h : s.thread = .sending kept it rest loop anyFailed) :
    Turn s (.write sent) (s.write kept it rest loop anyFailed sent)
  | reads {e : Event} {c : ℕ} {p : Peer} (hp : (s.peers c).Sound → p.Sound)
    (hw : p.written = (s.peers c).written) (hsince : p.since = (s.peers c).since) :
    Turn s e (s.setPeer c p)
  | same {e : Event} : Turn s e s

variable {e : Event}

theorem turn_of_step (h : s.step e = some t) : Turn s e t := by
  cases e with
  | listen =>
    obtain rfl := Option.some.inj h
    exact .listen
  | shutdown =>
    obtain rfl := Option.some.inj h
    exact .shutdown
  | send data =>
    simp only [step] at h
    split at h
    · obtain rfl := Option.some.inj h
      exact .send ‹_›
    · exact absurd h nofun
  | accept c =>
    simp only [step] at h
    split at h
    · split_ifs at h with hc
      obtain rfl := Option.some.inj h
      exact .accept ‹_› hc
    · exact absurd h nofun
  | drained =>
    simp only [step] at h
    split at h
    · obtain rfl := Option.some.inj h
      exact .drained ‹_›
    · exact absurd h nofun
  | write sent =>
    simp only [step] at h
    split at h
    · obtain rfl := Option.some.inj h
      exact .write ‹_›
    · exact absurd h nofun
  | poll c ret =>
    simp only [step] at h
    split at h
    · rename_i hloop
      obtain rfl := Option.some.inj h
      refine .reads (fun hs => ?_) rfl rfl
      obtain ⟨x, hx, hheld⟩ := hs.holds
      rw [hloop] at hheld
      exact ⟨hs.read_le, hs.sized, ⟨x, hx, show 0 < 4 by decide, hheld⟩, hs.early, hs.begun⟩
    · obtain rfl := Option.some.inj h
      exact .reads (fun hs => hs.stopped) rfl rfl
    · obtain rfl := Option.some.inj h
      exact .same
    · exact absurd h nofun
  | recv c ret =>
    simp only [step] at h
    split at h
    · rename_i loop hloop
      obtain ⟨a, ha, rfl⟩ := Option.map_eq_some_iff.mp h
      exact .reads (fun hs => hs.resume hloop ha) (Peer.resume_same _ _ _).1
        (Peer.resume_same _ _ _).2
    · exact absurd h nofun

theorem inv_step (h : s.Inv) (hstep : s.step e = some t) : t.Inv := by
  cases turn_of_step hstep with
  | listen => exact ⟨h.sound, h.nodup, h.stands, nofun⟩
  | shutdown =>
    refine ⟨h.sound, h.nodup, ?_, h.unopened⟩
    have hstands := h.stands
    show s.thread.Stands true s.peers
    cases hthread : s.thread with
    | idle ps =>
      rw [hthread] at hstands
      exact fun c hc => ⟨(hstands c hc).1, nofun⟩
    | draining data ps | sending kept it rest loop anyFailed =>
      rw [hthread] at hstands
      exact hstands
  | send hthread => exact inv_send h hthread
  | accept hthread hc => exact inv_accept h hthread hc
  | drained hthread =>
    have hlisten := h.listening (by rw [hthread]; exact nofun)
    have hstands := h.stands
    have hnodup := h.nodup
    rw [hthread] at hstands hnodup
    exact inv_broadcast h.sound hlisten hnodup (fun _ hc => absurd hc List.not_mem_nil) hstands
  | write hthread => exact inv_write h hthread
  | reads hp hw hsince => exact h.setPeer (hp (h.sound _)) hw hsince
  | same => exact h

theorem sound_empty : (({} : Peer)).Sound :=
  ⟨Nat.le_refl 0, nofun, ⟨[], rfl, rfl⟩, fun _ => rfl, nofun⟩

theorem inv_initial : initial.Inv :=
  ⟨fun _ => sound_empty, List.nodup_nil, fun _ hc => absurd hc List.not_mem_nil, fun _ => rfl⟩

/-! ## Peers that are gone -/

/-- A connection that was accepted and is not in the list of peers any more. -/
def Gone (s : Outbound) (c : ℕ) : Prop := (s.peers c).since ≠ none ∧ c ∉ s.thread.peers

theorem gone_step (h : s.Gone c) (hstep : s.step e = some t) :
    t.Gone c ∧ (t.peers c).written = (s.peers c).written := by
  obtain ⟨hsome, hnot⟩ := h
  cases turn_of_step hstep with
  | listen => exact ⟨⟨hsome, hnot⟩, rfl⟩
  | shutdown => exact ⟨⟨hsome, hnot⟩, rfl⟩
  | @send data peers hthread =>
    have hnote : ((s.peers c).note data).since ≠ none :=
      fun hnone => hsome (Option.map_eq_none_iff.mp hnone)
    rw [hthread] at hnot
    simp only [send]
    split_ifs
    · exact ⟨⟨hnote, by rwa [hthread]⟩, rfl⟩
    · exact ⟨⟨hnote, by rwa [hthread]⟩, rfl⟩
    · exact ⟨⟨hnote, hnot⟩, rfl⟩
  | @accept data peers d hthread hd =>
    have hne : c ≠ d := fun e => hsome (e ▸ hd)
    rw [hthread] at hnot
    simp only [Gone, setPeer_of_ne _ hne, OutboundThread.peers, List.mem_append,
      List.mem_singleton]
    exact ⟨⟨hsome, not_or.mpr ⟨hnot, hne⟩⟩, trivial⟩
  | @drained data peers hthread =>
    rw [hthread] at hnot
    simp only [Gone, broadcast_peers, peers_broadcast, List.nil_append]
    exact ⟨⟨hsome, hnot⟩, trivial⟩
  | @write kept rest it loop anyFailed sent hthread =>
    rw [hthread] at hnot
    simp only [OutboundThread.peers, List.mem_append, List.mem_cons, not_or] at hnot
    obtain ⟨hkept, hne, hrest⟩ := hnot
    simp only [write]
    cases loop.body sent with
    | running loop' =>
      simp only [Gone, setPeer_of_ne _ hne, OutboundThread.peers, List.mem_append, List.mem_cons,
        not_or]
      exact ⟨⟨hsome, hkept, hne, hrest⟩, trivial⟩
    | returned r =>
      cases r <;>
        simp only [Gone, broadcast_peers, peers_broadcast, setPeer_of_ne _ hne, List.mem_append,
          List.mem_singleton, not_or]
      · exact ⟨⟨hsome, hkept, hrest⟩, trivial⟩
      · exact ⟨⟨hsome, ⟨hkept, hne⟩, hrest⟩, trivial⟩
  | @reads _ d p _ hw hsince =>
    rcases eq_or_ne c d with rfl | hne
    · simp only [Gone, setPeer_self, hw, hsince]
      exact ⟨⟨hsome, hnot⟩, trivial⟩
    · simp only [Gone, setPeer_of_ne _ hne]
      exact ⟨⟨hsome, hnot⟩, trivial⟩
  | same => exact ⟨⟨hsome, hnot⟩, rfl⟩

theorem gone_run {es : List Event} (h : s.Gone c) (hrun : Runs.run step s es = some t) :
    (t.peers c).written = (s.peers c).written := by
  have hinv : t.Gone c ∧ (t.peers c).written = (s.peers c).written := by
    refine Runs.inv (I := fun u => u.Gone c ∧ (u.peers c).written = (s.peers c).written)
      ?_ ⟨h, rfl⟩ hrun
    intro u v e hu hv
    obtain ⟨hgone, hw⟩ := gone_step hu.1 hv
    exact ⟨hgone, hw.trans hu.2⟩
  exact hinv.2

theorem gone_of_failed {loop : SendInChunks} (h : s.Inv)
    (hthread : s.thread = .sending kept c rest loop anyFailed)
    (hstep : s.step (.write .failed) = some t) :
    t.Gone c ∧ (t.peers c).written = (s.peers c).written := by
  have hstands := h.stands
  have hnodup := h.nodup
  rw [hthread] at hstands hnodup
  obtain ⟨ms, hms, -⟩ := hstands.2.1.2
  have hnot : c ∉ kept ++ rest :=
    (List.nodup_cons.mp (List.perm_middle.nodup_iff.mp hnodup)).1
  simp only [step, hthread] at hstep
  obtain rfl := Option.some.inj hstep
  simp only [write, SendInChunks.body, Gone, broadcast_peers, peers_broadcast, setPeer_self, hms,
    SendInChunks.taken, List.append_nil]
  exact ⟨⟨nofun, hnot⟩, trivial⟩

/-! ## What the dApps are given -/

/-- Only messages of the sizes that are sent are on their way. -/
structure Messages (s : Outbound) : Prop where
  since : ∀ c ms, (s.peers c).since = some ms → ∀ m ∈ ms, Sized m
  current : ∀ data peers, s.thread = .draining data peers → Sized data

theorem messages_broadcast (h : ∀ c ms, (s.peers c).since = some ms → ∀ m ∈ ms, Sized m) :
    (s.broadcast data kept rest anyFailed).Messages := by
  cases rest with
  | nil => exact ⟨h, nofun⟩
  | cons it rest => exact ⟨h, nofun⟩

theorem Messages.setPeer (h : s.Messages) {p : Peer} (hp : ∀ ms, p.since = some ms →
    ∀ m ∈ ms, Sized m) (d : ℕ) (ms : List Bytes) (hms : ((s.setPeer c p).peers d).since = some ms) :
    ∀ m ∈ ms, Sized m := by
  rcases eq_or_ne d c with rfl | hd
  · rw [setPeer_self] at hms
    exact hp ms hms
  · rw [setPeer_of_ne p hd] at hms
    exact h.since d ms hms

theorem messages_step (h : s.Messages) (he : ∀ data, e = .send data → Sized data)
    (hstep : s.step e = some t) : t.Messages := by
  cases turn_of_step hstep with
  | listen => exact ⟨h.since, h.current⟩
  | shutdown => exact ⟨h.since, h.current⟩
  | @send data peers hthread =>
    have hdata := he data rfl
    have hnote : ∀ c ms, ((s.peers c).note data).since = some ms → ∀ m ∈ ms, Sized m := by
      intro c ms' hms' m hm
      obtain ⟨ms, hms, rfl⟩ := Option.map_eq_some_iff.mp hms'
      rcases List.mem_append.mp hm with hm | hm
      · exact h.since c ms hms m hm
      · rwa [List.mem_singleton.mp hm]
    simp only [send]
    split_ifs
    · exact ⟨hnote, h.current⟩
    · exact ⟨hnote, h.current⟩
    · refine ⟨hnote, ?_⟩
      rintro data' peers' ⟨⟩
      exact hdata
  | @accept data peers c hthread hc =>
    have hdata := h.current data peers hthread
    refine ⟨h.setPeer ?_, ?_⟩
    · rintro ms ⟨⟩ m hm
      rwa [List.mem_singleton.mp hm]
    · rintro data' peers' ⟨⟩
      exact hdata
  | drained hthread => exact messages_broadcast h.since
  | @write kept rest it loop anyFailed sent hthread =>
    have hsince := h.setPeer (c := it)
      (p := (s.peers it).wrote (loop.taken sent)) fun ms hms => h.since it ms hms
    simp only [write]
    cases loop.body sent with
    | running loop' => exact ⟨hsince, nofun⟩
    | returned r => cases r <;> exact messages_broadcast hsince
  | @reads _ c p _ _ hsince =>
    exact ⟨h.setPeer fun ms hms => h.since c ms (hsince ▸ hms), h.current⟩
  | same => exact h

/-- What a dApp has been given of what was passed to `send()` since its connection was accepted:
the first messages, and all of them when it has read everything, no `send()` is under way and the
RAN has neither dropped it nor shut down. -/
structure Delivered (s : Outbound) (c : ℕ) : Prop where
  early : (s.peers c).since = none → (s.peers c).results = []
  first : ∀ ms, (s.peers c).since = some ms → (s.peers c).results <+: ms
  all : ∀ ms peers, (s.peers c).since = some ms → s.thread = .idle peers → c ∈ peers →
    s.shutdownRequested = false → (s.peers c).unread = [] →
    (s.peers c).inboundLoop ≠ .stopped → (s.peers c).results = ms

theorem Inv.delivered (h : s.Inv) (hm : s.Messages) (c : ℕ) : s.Delivered c := by
  have hsound := h.sound c
  refine ⟨?_, ?_, ?_⟩
  · intro hnone
    obtain ⟨x, hx, -⟩ := hsound.holds
    rw [hsound.early hnone, List.take_nil] at hx
    have hstream := (List.append_eq_nil_iff.mp hx.symm).1
    have hfirst : (s.peers c).results <+: [] :=
      Header.first_of_stream (H := sizePrefix) (x := []) (fun m hm => (hsound.sized m hm).fits)
        nofun (by rw [hstream]; exact List.nil_prefix)
    exact List.prefix_nil.mp hfirst
  · intro ms hms
    exact hsound.first hms (hm.since c ms hms)
  · intro ms peers hms hthread hc hshut hunread hloop
    have hstands := h.stands
    rw [hthread] at hstands
    obtain ⟨ms', hms', hw⟩ := (hstands c hc).2 hshut
    obtain rfl := Option.some.inj (hms.symm.trans hms')
    obtain ⟨x, hx, hheld⟩ := hsound.holds
    have hall : (s.peers c).written.take (s.peers c).read = (s.peers c).written :=
      List.take_of_length_le (List.drop_eq_nil_iff.mp hunread)
    exact Header.all_of_stream (fun m hm' => (hsound.sized m hm').fits)
      (fun m hm' => (hm.since c ms hms m hm').fits) (hheld.torn hloop)
      (hx.symm.trans (hall.trans hw))

theorem messages_initial : initial.Messages := ⟨nofun, nofun⟩

/-- Framing from the RAN to the dApps, for every order of calls, writes, reads and interruptions:
each dApp is given the first of the messages since its connection was accepted, whole and in order;
after a write that failed nothing is written to the connection any more; and the two loops end if
every call that does not fail moves a byte and the writes are not interrupted for ever. -/
theorem framed_messages_delivered {es : List Event} {s : Outbound}
    (hrun : Runs.run step initial es = some s) (hsized : ∀ data, .send data ∈ es → Sized data) :
    (∀ c, s.Delivered c)
      ∧ (∀ kept c rest loop anyFailed, s.thread = .sending kept c rest loop anyFailed →
        ∀ t later u, s.step (.write .failed) = some t → Runs.run step t later = some u →
          (u.peers c).written = (s.peers c).written)
      ∧ (∀ buffer answers, (∀ i n, answers i = .moved n → 1 ≤ n) →
        (∀ i, ∃ k, answers (i + k) ≠ .interrupted) →
          ∃ n r, sendInChunks buffer answers n = .returned r)
      ∧ ∀ answers, (∀ i bs, answers i = .bytes bs → bs ≠ []) →
        ∃ n r, recvWithSize answers n = .returned r := by
  have hinv : s.Inv := Runs.inv inv_step inv_initial hrun
  have hmessages : s.Messages := by
    refine Runs.inv_of_mem (P := fun e => ∀ data, e = .send data → Sized data) messages_step
      messages_initial ?_ hrun
    rintro e he data rfl
    exact hsized data he
  refine ⟨hinv.delivered hmessages, ?_, fun buffer _ => sendInChunks_ends buffer,
    fun _ => recvWithSize_ends⟩
  intro kept c rest loop anyFailed hthread t later u hstep hlater
  obtain ⟨hgone, hw⟩ := gone_of_failed hinv hthread hstep
  exact (gone_run hgone hlater).trans hw

/-- A message of one byte, with a short write inside its size, an interruption, and reads that do
not end where the writes did. -/
def shortWrites : List Event :=
  [.listen, .send [7], .accept 0, .drained, .write (.moved 2), .write .interrupted,
    .write (.moved 100), .poll 0 .ready, .recv 0 (.moved 3), .recv 0 (.moved 9), .recv 0 (.moved 9)]

theorem framed_messages_short_writes :
    ∃ s, Runs.run step initial shortWrites = some s ∧ (s.peers 0).results = [[7]]
      ∧ (s.peers 0).since = some [[7]] ∧ s.Delivered 0 := by
  have hsized : ∀ data, .send data ∈ shortWrites → Sized data := by
    intro data h
    simp only [shortWrites, List.mem_cons, reduceCtorEq, Event.send.injEq, false_or, or_false,
      List.not_mem_nil] at h
    rw [h]
    exact ⟨Nat.le_refl 1, by decide⟩
  exact ⟨_, rfl, by decide, by decide, (framed_messages_delivered rfl hsized).1 0⟩

/-- A write that is interrupted each time it is tried keeps the thread in the loop, although every
write that is not an error would move a byte. -/
theorem interrupted_for_ever :
    (∀ i n, (fun _ : ℕ => WriteResult.interrupted) i = .moved n → 1 ≤ n)
      ∧ ∀ n, sendInChunks [7] (fun _ => .interrupted) n = .running { buffer := [7] } := by
  refine ⟨nofun, ?_⟩
  intro n
  induction n with
  | zero => rfl
  | succ n ih =>
    unfold sendInChunks at ih ⊢
    rw [Loop.after, ih]
    rfl

end Outbound

end LibE3.Posix
