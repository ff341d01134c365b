import LibE3.PosixConnector

/-!
# The ZeroMQ connector

`ZmqE3Connector` in both roles. ZeroMQ carries whole messages, so there is no framing here: a send
hands one message over, and a receive is given one message. What ZeroMQ answers is an input. Of a
socket only whether there is one is kept.

`zmq_recv` copies as much of the message as there is room for in the buffer, and returns the length
that the message has.
-/

namespace LibE3.Zmq

open Posix (defaultBufferSize)

/-- The answer to `zmq_recv`: a message, or -1 with `EAGAIN`, `EINTR` or another error. -/
inductive RecvResult
  | message (m : Bytes)
  | again
  | interrupted
  | failed
  deriving DecidableEq, Repr

def RecvResult.message? : RecvResult → Option Bytes
  | .message m => some m
  | _ => none

/-- `std::vector::resize`: what is added is zero. -/
def resize (buffer : Bytes) (n : ℕ) : Bytes :=
  buffer.take n ++ List.replicate (n - buffer.length) 0

/-- The buffer after a `zmq_recv` into it. -/
def copyInto (buffer m : Bytes) : Bytes := m.take buffer.length ++ buffer.drop m.length

structure ZmqE3Connector where
  context : Bool := false
  setupSocket : Bool := false
  inboundSocket : Bool := false
  outboundSocket : Bool := false
  shutdownRequested : Bool := false
  deriving DecidableEq, Repr

namespace ZmqE3Connector

/-! ## Sockets -/

/-- `setup_initial_connection` and `setup_initial_connection_client`: whether the context, the
socket and its endpoint could be had. -/
def setupInitialConnection (c : ZmqE3Connector) (context created attached : Bool) :
    ErrorCode × ZmqE3Connector :=
  if !context then (.connectionFailed, { c with context := false })
  else if !created then (.connectionFailed, { c with context := true, setupSocket := false })
  else
    (if attached then .success else .connectionFailed,
      { c with context := true, setupSocket := true })

/-- `setup_inbound_connection` and `setup_inbound_connection_client`. -/
def setupInboundConnection (c : ZmqE3Connector) (created attached : Bool) :
    ErrorCode × ZmqE3Connector :=
  if !c.context then (.notInitialized, c)
  else
    (if created && attached then .success else .connectionFailed,
      { c with inboundSocket := created })

/-- `setup_outbound_connection` and `setup_outbound_connection_client`. -/
def setupOutboundConnection (c : ZmqE3Connector) (created attached : Bool) :
    ErrorCode × ZmqE3Connector :=
  if !c.context then (.notInitialized, c)
  else
    (if created && attached then .success else .connectionFailed,
      { c with outboundSocket := created })

/-- `reset_setup_socket`: a new socket in place of the old one, if it can be had and bound. -/
def resetSetupSocket (c : ZmqE3Connector) (created bound : Bool) : ZmqE3Connector :=
  { c with setupSocket := c.context && created && bound }

/-- `open_setup_req_socket`. -/
def openSetupReqSocket (c : ZmqE3Connector) (created connected : Bool) :
    ErrorCode × ZmqE3Connector :=
  (if created && connected then .success else .connectionFailed, { c with setupSocket := created })

def shutdown (c : ZmqE3Connector) : ZmqE3Connector := { c with shutdownRequested := true }

def dispose (c : ZmqE3Connector) : ZmqE3Connector :=
  { c with context := false, setupSocket := false, inboundSocket := false, outboundSocket := false }

/-! ## Messages -/

/-- `recv_setup_request`. The result is the length of the message, 0 for none, with the buffer. -/
def recvSetupRequest (c : ZmqE3Connector) (buffer : Bytes) (ret : RecvResult)
    (created bound : Bool) : Except ErrorCode ℕ × Bytes × ZmqE3Connector :=
  if !c.setupSocket then (.error .notConnected, buffer, c)
  else
    let buffer := resize buffer defaultBufferSize
    match ret with
    | .message m => (.ok m.length, resize (copyInto buffer m) m.length, c)
    | .again => (.ok 0, buffer, c)
    | .interrupted => (.error .transportError, buffer, c.resetSetupSocket created bound)
    | .failed => (.error .transportError, buffer, c.resetSetupSocket created bound)

def sendResponse (c : ZmqE3Connector) (sent created bound : Bool) : ErrorCode × ZmqE3Connector :=
  if !c.setupSocket then (.notConnected, c)
  else if !sent then (.transportError, c.resetSetupSocket created bound)
  else (.success, c)

/-- `receive`. `disconnected` is what `inbound_peer_disconnected` answers. -/
def receive (c : ZmqE3Connector) (buffer : Bytes) (ret : RecvResult) (disconnected : Bool) :
    Except ErrorCode ℕ × Bytes :=
  if !c.inboundSocket then (.error .notConnected, buffer)
  else
    let buffer := resize buffer defaultBufferSize
    match ret with
    | .message m => (.ok m.length, resize (copyInto buffer m) m.length)
    | .again => (if disconnected then .error .notConnected else .ok 0, buffer)
    | .interrupted => (.ok 0, buffer)
    | .failed => (.error .transportError, buffer)

def send (c : ZmqE3Connector) (sent : Bool) : ErrorCode :=
  if c.shutdownRequested then .cancelled
  else if !c.outboundSocket then .notConnected
  else if !sent then .transportError
  else .success

def sendSetupRequestClient (c : ZmqE3Connector) (sent created connected : Bool) :
    ErrorCode × ZmqE3Connector :=
  if !c.setupSocket then (.notConnected, c)
  else
    let (rc, c) := c.openSetupReqSocket created connected
    if rc ≠ .success then (rc, c)
    else if !sent then (.transportError, c)
    else (.success, c)

def recvSetupResponseClient (c : ZmqE3Connector) (buffer : Bytes) (ret : RecvResult) :
    Except ErrorCode ℕ × Bytes :=
  if !c.setupSocket then (.error .notConnected, buffer)
  else
    let buffer := resize buffer defaultBufferSize
    match ret with
    | .message m => (.ok m.length, resize (copyInto buffer m) m.length)
    | .again => (.ok 0, buffer)
    | .interrupted => (.error .transportError, buffer)
    | .failed => (.error .transportError, buffer)

end ZmqE3Connector

/-! ## A link -/

/-- The ways of a message: between the setup sockets, and from the outbound socket of one side to
the inbound socket of the other. -/
inductive Channel
  | setupRequest
  | setupResponse
  | toRan
  | toDapp
  deriving DecidableEq, Repr

/-- A call that receives: the message it was given, if any, what it returned, and the buffer. -/
structure Receipt where
  channel : Channel
  delivered : Option Bytes
  ret : Except ErrorCode ℕ
  buffer : Bytes

/-- The connectors of a RAN and of a dApp, the messages that ZeroMQ took on each channel, and the
buffers of the loops that receive. -/
structure Link where
  ran : ZmqE3Connector := {}
  dapp : ZmqE3Connector := {}
  accepted : Channel → List Bytes := fun _ => []
  buffers : Channel → Bytes := fun _ => []
  receipts : List Receipt := []

namespace Link

/-- What one side does to its sockets. -/
inductive SocketCall
  | setupInitialConnection (context created attached : Bool)
  | setupInboundConnection (created attached : Bool)
  | setupOutboundConnection (created attached : Bool)
  | shutdown
  | dispose
  deriving DecidableEq, Repr

def SocketCall.exec (c : ZmqE3Connector) : SocketCall → ZmqE3Connector
  | .setupInitialConnection context created attached =>
    (c.setupInitialConnection context created attached).2
  | .setupInboundConnection created attached => (c.setupInboundConnection created attached).2
  | .setupOutboundConnection created attached => (c.setupOutboundConnection created attached).2
  | .shutdown => c.shutdown
  | .dispose => c.dispose

inductive Event
  | ranSockets (call : SocketCall)
  | dappSockets (call : SocketCall)
  /-- The sender of the channel is passed a message. -/
  | send (channel : Channel) (data : Bytes) (sent created attached : Bool)
  /-- The receiver of the channel is called. -/
  | recv (channel : Channel) (ret : RecvResult) (disconnected created bound : Bool)
  deriving DecidableEq, Repr

/-- The function that sends on a channel, with what it leaves of the link. -/
def sendOn (l : Link) (sent created attached : Bool) : Channel → ErrorCode × Link
  | .setupRequest =>
    let (rc, c) := l.dapp.sendSetupRequestClient sent created attached
    (rc, { l with dapp := c })
  | .setupResponse =>
    let (rc, c) := l.ran.sendResponse sent created attached
    (rc, { l with ran := c })
  | .toRan => (l.dapp.send sent, l)
  | .toDapp => (l.ran.send sent, l)

/-- The function that receives on a channel. -/
def recvOn (l : Link) (ret : RecvResult) (disconnected created bound : Bool) (ch : Channel) :
    Except ErrorCode ℕ × Bytes × Link :=
  match ch with
  | .setupRequest =>
    let (n, buffer, c) := l.ran.recvSetupRequest (l.buffers ch) ret created bound
    (n, buffer, { l with ran := c })
  | .setupResponse =>
    let (n, buffer) := l.dapp.recvSetupResponseClient (l.buffers ch) ret
    (n, buffer, l)
  | .toRan =>
    let (n, buffer) := l.ran.receive (l.buffers ch) ret disconnected
    (n, buffer, l)
  | .toDapp =>
    let (n, buffer) := l.dapp.receive (l.buffers ch) ret disconnected
    (n, buffer, l)

/-- The socket that the receiver of a channel reads from is there. -/
def listens (l : Link) : Channel → Bool
  | .setupRequest => l.ran.setupSocket
  | .setupResponse => l.dapp.setupSocket
  | .toRan => l.ran.inboundSocket
  | .toDapp => l.dapp.inboundSocket

/-- The message that a call is given: ZeroMQ gives one only to a socket. -/
def given (l : Link) (ch : Channel) (ret : RecvResult) : Option Bytes :=
  if l.listens ch then ret.message? else none

def step (l : Link) : Event → Option Link
  | .ranSockets call => some { l with ran := call.exec l.ran }
  | .dappSockets call => some { l with dapp := call.exec l.dapp }
  | .send ch data sent created attached =>
    let (rc, l) := l.sendOn sent created attached ch
    if rc = .success then
      some { l with accepted := Function.update l.accepted ch (l.accepted ch ++ [data]) }
    else some l
  | .recv ch ret disconnected created bound =>
    let delivered := l.given ch ret
    -- ZeroMQ makes up no messages.
    if ∀ m ∈ delivered, m ∈ l.accepted ch then
      let (n, buffer, l) := l.recvOn ret disconnected created bound ch
      some { l with
        buffers := Function.update l.buffers ch buffer
        receipts := l.receipts ++ [⟨ch, delivered, n, buffer⟩] }
    else none

def initial : Link := {}

end Link

end LibE3.Zmq
