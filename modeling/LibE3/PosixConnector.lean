import LibE3.SmRegistry
import LibE3.Lib.LengthPrefix
import LibE3.Lib.Loops

/-!
# The POSIX connector

The inbound and the outbound channel of a POSIX link are stream sockets, one connection for each
dApp. The RAN puts a length of four bytes in front of what it sends and the dApp reads messages by
it. In the other direction the dApp makes one plain `send` for a message and the RAN takes what one
`recv` gives. Every answer of the kernel (how many bytes a call moved, an interruption, an error,
which sockets are ready) is an input, and the bytes of a connection keep their order. A connection
is a number, and what a call does to one is a function of that connection alone.
-/

namespace LibE3.Posix

/-- `CHUNK_SIZE`. -/
def chunkSize : ℕ := 8192

/-- `DEFAULT_BUFFER_SIZE`. -/
def defaultBufferSize : ℕ := 60000

/-- The answer to `::send` or `::writev`: how many bytes the kernel took, or -1 with `EINTR` or with
another error. -/
inductive WriteResult
  | moved (n : ℕ)
  | interrupted
  | failed
  deriving DecidableEq, Repr

/-- The answer to `::recv`: bytes, the end of the stream, or -1, with `EINTR`, `EAGAIN` or
`EWOULDBLOCK` or with another error. -/
inductive ReadResult
  | bytes (bs : Bytes)
  | closed
  | interrupted
  | failed
  deriving DecidableEq, Repr

/-- What the kernel does when a socket is read: it hands out at most so many bytes, or none. -/
inductive Arrival
  | moved (n : ℕ)
  | closed
  | interrupted
  | failed
  deriving DecidableEq, Repr

/-- The answer to a `recv` into a buffer of `size` bytes, with the bytes of the stream that are not
read yet; `none` if there is nothing to hand out and the call waits. -/
def Arrival.answer (a : Arrival) (size : ℕ) (unread : Bytes) : Option ReadResult :=
  match a with
  | .moved n =>
    match unread.take (min n size) with
    | [] => none
    | b :: bs => some (.bytes (b :: bs))
  | .closed => some .closed
  | .interrupted => some .interrupted
  | .failed => some .failed

/-- A read hands out the next bytes of the stream, and no more than there is room for. -/
theorem Arrival.answer_bytes {a : Arrival} {size : ℕ} {unread bs : Bytes}
    (h : a.answer size unread = some (.bytes bs)) : bs <+: unread ∧ bs.length ≤ size := by
  cases a with
  | moved n =>
    simp only [answer] at h
    split at h
    · exact absurd h nofun
    · rename_i b bs' htake
      obtain rfl : b :: bs' = bs := ReadResult.bytes.inj (Option.some.inj h)
      rw [← htake]
      refine ⟨List.take_prefix _ _, (List.length_take_le _ _).trans (Nat.min_le_right _ _)⟩
  | closed | interrupted | failed => exact absurd h (by simp [answer])

/-! ## Framed messages -/

/-- `uint32_t` in network byte order. -/
def sizePrefix : LengthPrefix.Header UInt8 := LengthPrefix.networkOrder 4 (by decide)

/-- `send_in_chunks`, in front of a system call. -/
structure SendInChunks where
  buffer : Bytes
  totalSent : ℕ := 0
  deriving DecidableEq, Repr

namespace SendInChunks

/-- The bytes that the next call offers: the rest of the size with the payload as long as the size
is not out, and one chunk of the payload after that. -/
def offered (s : SendInChunks) : Bytes :=
  if s.totalSent < 4 then (sizePrefix.write s.buffer.length).drop s.totalSent ++ s.buffer
  else
    let payloadSent := s.totalSent - 4
    let toSend := min chunkSize (s.buffer.length - payloadSent)
    (s.buffer.drop payloadSent).take toSend

/-- The bytes of it that the kernel takes. -/
def taken (s : SendInChunks) : WriteResult → Bytes
  | .moved n => s.offered.take n
  | .interrupted => []
  | .failed => []

/-- The condition of the loop; the function returns 0 behind it. -/
def check (s : SendInChunks) : Loop SendInChunks Bool :=
  if s.totalSent < 4 + s.buffer.length then .running s else .returned true

/-- The rest of the body of the loop. -/
def body (s : SendInChunks) (sent : WriteResult) : Loop SendInChunks Bool :=
  match sent with
  | .failed => .returned false
  | .interrupted => s.check
  | .moved _ => { s with totalSent := s.totalSent + (s.taken sent).length }.check

end SendInChunks

/-- `send_in_chunks` after `n` answers. -/
def sendInChunks (buffer : Bytes) (answers : ℕ → WriteResult) (n : ℕ) : Loop SendInChunks Bool :=
  (SendInChunks.check { buffer := buffer }).after SendInChunks.body answers n

/-- `recv_with_size`, in front of a `recv`: in the loop for the size or in the loop for the
payload. -/
inductive RecvWithSize
  | header (received : Bytes)
  | payload (payloadSize : ℕ) (received : Bytes)
  deriving DecidableEq, Repr

namespace RecvWithSize

/-- How many bytes the next call asks for. -/
def wanted : RecvWithSize → ℕ
  | .header received => 4 - received.length
  | .payload payloadSize received => min chunkSize (payloadSize - received.length)

/-- The condition of the second loop. -/
def check (payloadSize : ℕ) (received : Bytes) : Loop RecvWithSize (Except ErrorCode Bytes) :=
  if received.length < payloadSize then .running (.payload payloadSize received)
  else .returned (.ok received)

/-- What stands between the two loops. -/
def sized (networkOrderSize : Bytes) : Loop RecvWithSize (Except ErrorCode Bytes) :=
  let payloadSize := sizePrefix.read networkOrderSize
  if payloadSize = 0 ∨ payloadSize > maxProtocolDataSize * 2 then
    .returned (.error .transportError)
  else check payloadSize []

/-- The rest of the body of the loop. The kernel writes no more than it was asked for. -/
def body (s : RecvWithSize) (ret : ReadResult) : Loop RecvWithSize (Except ErrorCode Bytes) :=
  match s, ret with
  | .header received, .bytes bs =>
    let received := received ++ bs.take s.wanted
    if received.length < 4 then .running (.header received) else sized received
  | .header _, .closed => .returned (.error .notConnected)
  | .payload payloadSize received, .bytes bs => check payloadSize (received ++ bs.take s.wanted)
  | _, _ => .returned (.error .transportError)

end RecvWithSize

/-- `recv_with_size` after `n` answers. -/
def recvWithSize (answers : ℕ → ReadResult) (n : ℕ) : Loop RecvWithSize (Except ErrorCode Bytes) :=
  (Loop.running (.header [])).after RecvWithSize.body answers n

/-! ## The outbound channel, from the RAN to the dApps -/

/-- `inbound_loop_dapp`: in the poll of `receive`, in `recv_with_size`, or behind its `break`. -/
inductive InboundLoop
  | polling
  | receiving (loop : RecvWithSize)
  | stopped
  deriving DecidableEq, Repr

/-- One connection. `written` is every byte the kernel took from the RAN for it, of which the dApp
has read the first `read`. `results` is what `recv_with_size` returned, and `since` what was passed
to `send()` of the RAN since the call that accepted the connection, that call included. -/
structure Peer where
  written : Bytes := []
  read : ℕ := 0
  inboundLoop : InboundLoop := .polling
  results : List Bytes := []
  since : Option (List Bytes) := none
  deriving DecidableEq, Repr

/-- The outbound thread of the RAN, with `outbound_peer_sockets_`: outside of `send()`, in its
`drain_accept`, or in `send_in_chunks` for the socket at the iterator, which has `kept` behind it
and `rest` in front of it. -/
inductive OutboundThread
  | idle (peers : List ℕ)
  | draining (data : Bytes) (peers : List ℕ)
  | sending (kept : List ℕ) (it : ℕ) (rest : List ℕ) (loop : SendInChunks) (anyFailed : Bool)
  deriving DecidableEq, Repr

/-- The outbound channel: the RAN's connector and both ends of every connection. `returned` is what
`send()` returned. -/
structure Outbound where
  listening : Bool := false
  shutdownRequested : Bool := false
  thread : OutboundThread := .idle []
  peers : ℕ → Peer := fun _ => {}
  returned : List ErrorCode := []

namespace Peer

/-- The bytes that are still on their way. -/
def unread (p : Peer) : Bytes := p.written.drop p.read

/-- A message is passed to `send()`. -/
def note (p : Peer) (data : Bytes) : Peer := { p with since := p.since.map (· ++ [data]) }

/-- The dApp's `recv_with_size` goes on, and with what it returns `receive` and the inbound loop,
which a negative result ends. -/
def resume (p : Peer) (loop : RecvWithSize) (ret : ReadResult) : Peer :=
  let p := match ret with
    | .bytes bs => { p with read := p.read + bs.length }
    | _ => p
  match loop.body ret with
  | .running loop => { p with inboundLoop := .receiving loop }
  | .returned (.ok message) =>
    { p with inboundLoop := .polling, results := p.results ++ [message] }
  | .returned (.error _) => { p with inboundLoop := .stopped }

end Peer

/-- The answer to a `poll` for one socket. -/
inductive PollResult
  | timeout
  | interrupted
  | failed
  | ready
  deriving DecidableEq, Repr

namespace Outbound

/-- What happens on the channel: calls on the RAN, one turn of a loop of its outbound thread, and
one turn of a loop of the inbound thread of a dApp. -/
inductive Event
  | listen
  | shutdown
  | send (data : Bytes)
  | accept (c : ℕ)
  | drained
  | write (sent : WriteResult)
  | poll (c : ℕ) (ret : PollResult)
  | recv (c : ℕ) (ret : Arrival)
  deriving DecidableEq, Repr

def setPeer (s : Outbound) (c : ℕ) (p : Peer) : Outbound :=
  { s with peers := Function.update s.peers c p }

/-- The loop of `send()` over the peers, from an iterator in front of `rest`, and what follows. -/
def broadcast (s : Outbound) (data : Bytes) (kept rest : List ℕ) (anyFailed : Bool) : Outbound :=
  match rest with
  | it :: rest => { s with thread := .sending kept it rest { buffer := data } anyFailed }
  | [] =>
    { s with
      thread := .idle kept
      returned := s.returned ++ [if anyFailed ∧ kept = [] then .transportError else .success] }

/-- `PosixE3Connector::send` of the RAN, up to its first system call. -/
def send (s : Outbound) (data : Bytes) (peers : List ℕ) : Outbound :=
  let s := { s with peers := fun c => (s.peers c).note data }
  if s.shutdownRequested then { s with returned := s.returned ++ [.cancelled] }
  else if !s.listening then { s with returned := s.returned ++ [.notConnected] }
  else { s with thread := .draining data peers }

/-- A write of `send_in_chunks` is answered. A peer whose write failed is closed and erased. -/
def write (s : Outbound) (kept : List ℕ) (it : ℕ) (rest : List ℕ) (loop : SendInChunks)
    (anyFailed : Bool) (sent : WriteResult) : Outbound :=
  let p := s.peers it
  let s := s.setPeer it { p with written := p.written ++ loop.taken sent }
  match loop.body sent with
  | .running loop => { s with thread := .sending kept it rest loop anyFailed }
  | .returned true => s.broadcast loop.buffer (kept ++ [it]) rest anyFailed
  | .returned false => s.broadcast loop.buffer kept rest true

def step (s : Outbound) : Event → Option Outbound
  | .listen => some { s with listening := true }
  | .shutdown => some { s with shutdownRequested := true }
  | .send data =>
    match s.thread with
    | .idle peers => some (s.send data peers)
    | _ => none
  | .accept c =>
    match s.thread with
    | .draining data peers =>
      -- The listener hands out a connection once.
      if (s.peers c).since = none then
        some { s.setPeer c { s.peers c with since := some [data] } with
          thread := .draining data (peers ++ [c]) }
      else none
    | _ => none
  | .drained =>
    match s.thread with
    | .draining data peers => some (s.broadcast data [] peers false)
    | _ => none
  | .write sent =>
    match s.thread with
    | .sending kept it rest loop anyFailed => some (s.write kept it rest loop anyFailed sent)
    | _ => none
  | .poll c ret =>
    match (s.peers c).inboundLoop, ret with
    | .polling, .ready =>
      some (s.setPeer c { s.peers c with inboundLoop := .receiving (.header []) })
    | .polling, .failed => some (s.setPeer c { s.peers c with inboundLoop := .stopped })
    | .polling, _ => some s
    | _, _ => none
  | .recv c ret =>
    match (s.peers c).inboundLoop with
    | .receiving loop =>
      (ret.answer loop.wanted (s.peers c).unread).map fun ret =>
        s.setPeer c ((s.peers c).resume loop ret)
    | _ => none

def initial : Outbound := {}

end Outbound

/-! ## The inbound channel, from the dApps to the RAN -/

/-- One connection. `sent` is what the dApp passed to `send()` with success, and `received` what
`receive()` of the RAN returned from this connection. -/
structure Wire where
  connected : Bool := false
  shutdownRequested : Bool := false
  unread : Bytes := []
  sent : List Bytes := []
  received : List Bytes := []
  deriving DecidableEq, Repr

namespace Wire

/-- `PosixE3Connector::send` of the dApp. -/
def send (w : Wire) (data : Bytes) (sent : WriteResult) : ErrorCode × Wire :=
  if w.shutdownRequested then (.cancelled, w)
  else if !w.connected then (.notConnected, w)
  else
    match sent with
    | .moved n =>
      let out := data.take n
      let w := { w with unread := w.unread ++ out }
      if out.length ≠ data.length then (.transportError, w)
      else (.success, { w with sent := w.sent ++ [data] })
    | _ => (.transportError, w)

/-- A `recv` of the RAN takes bytes out of the stream. -/
def take (w : Wire) (bs : Bytes) : Wire :=
  { w with
    unread := w.unread.drop bs.length
    received := w.received ++ [bs] }

end Wire

/-- `revents`: whether `POLLIN` is set, and whether `POLLHUP`, `POLLERR` or `POLLNVAL` is. -/
structure Revents where
  pollin : Bool
  broken : Bool
  deriving DecidableEq, Repr

/-- What the kernel answers during one `receive()`: to the poll, to the accepts (how many of the
waiting connections are taken), and to a `recv` on each socket. -/
inductive Answers
  | timeout
  | interrupted
  | failed
  | ready (listener : Bool) (accepted : ℕ) (revents : ℕ → Revents) (reads : ℕ → Arrival)

/-- The inbound channel: the RAN's connector and both ends of every connection. -/
structure Inbound where
  listening : Bool := false
  backlog : List ℕ := []
  peers : List ℕ := []
  inboundRr : ℕ := 0
  wires : ℕ → Wire := fun _ => {}

namespace Inbound

def setWire (s : Inbound) (c : ℕ) (w : Wire) : Inbound :=
  { s with wires := Function.update s.wires c w }

/-- One peer of the scan that has an event: the bytes that were read, and whether it is broken. A
read that finds nothing counts as interrupted. -/
def serve (w : Wire) (re : Revents) (read : Arrival) : Option Bytes × Bool :=
  if re.pollin then
    match read.answer defaultBufferSize w.unread with
    | some (.bytes bs) => (some bs, re.broken)
    | some .closed => (none, true)
    | some .failed => (none, true)
    | some .interrupted => (none, re.broken)
    | none => (none, re.broken)
  else (none, re.broken)

/-- The scan of `receive()` over the indices that are left, in the order of the rotating cursor.
`pfds` is the list of the peers as it was polled. The result is what `receive()` returns, with `[]`
for 0. -/
def scan (pfds : List ℕ) (revents : ℕ → Revents) (reads : ℕ → Arrival) :
    List ℕ → Inbound → Bytes × Inbound
  | [], s =>
    ([], if pfds.length > 0 then { s with inboundRr := (s.inboundRr + 1) % pfds.length } else s)
  | idx :: rest, s =>
    match pfds[idx]? with
    | none => scan pfds revents reads rest s
    | some fd =>
      if !((revents fd).pollin || (revents fd).broken) then scan pfds revents reads rest s
      else
        match serve (s.wires fd) (revents fd) (reads fd) with
        | (some bs, _) =>
          (bs, { s.setWire fd ((s.wires fd).take bs) with inboundRr := idx + 1 })
        | (none, true) =>
          scan pfds revents reads rest { s with peers := s.peers.filter (· ≠ fd) }
        | (none, false) => scan pfds revents reads rest s

/-- `drain_accept` on the inbound listener. -/
def drainAccept (s : Inbound) (accepted : ℕ) : Inbound :=
  { s with
    peers := s.peers ++ s.backlog.take accepted
    backlog := s.backlog.drop accepted }

/-- `PosixE3Connector::receive` of the RAN. -/
def receive (s : Inbound) (answers : Answers) : Except ErrorCode Bytes × Inbound :=
  if !s.listening then (.error .notConnected, s)
  else
    match answers with
    | .timeout => (.ok [], s)
    | .interrupted => (.ok [], s)
    | .failed => (.error .transportError, s)
    | .ready listener accepted revents reads =>
      let pfds := s.peers
      let s := if listener then s.drainAccept accepted else s
      let order := (List.range pfds.length).map fun k => (s.inboundRr + k) % pfds.length
      let (bytes, s) := scan pfds revents reads order s
      (.ok bytes, s)

/-- What happens on the channel. -/
inductive Event
  | listen
  | connect (c : ℕ)
  | shutdown (c : ℕ)
  | send (c : ℕ) (data : Bytes) (sent : WriteResult)
  | receive (answers : Answers)

def step (s : Inbound) : Event → Option Inbound
  | .listen => some { s with listening := true }
  | .connect c =>
    if (s.wires c).connected then none
    else
      some { s.setWire c { s.wires c with connected := true } with backlog := s.backlog ++ [c] }
  | .shutdown c => some (s.setWire c { s.wires c with shutdownRequested := true })
  | .send c data sent => some (s.setWire c ((s.wires c).send data sent).2)
  | .receive answers => some (s.receive answers).2

def initial : Inbound := {}

end Inbound

end LibE3.Posix
