import LibE3.DAppThreads

/-!
# The setup exchange of a dApp

`setup_loop_dapp` sends a SetupRequest up to five times and looks up to four times for a reply to
each. The connector and the reads of `should_stop_` are answers that the loop is given, one for each
place it can ask at. What the loop ends with is the response it has handled, if any.
-/

namespace LibE3

/-- What `recv_setup_response_client` returns: bytes, nothing within its timeout, or an error. -/
inductive Reply
  | bytes (buffer : Bytes)
  | silence
  | error
  deriving DecidableEq, Repr

/-- The answers to the loop, by the number of the attempt and of the look for a reply within it. -/
structure SetupChannel where
  stopBefore : ℕ → Bool
  send : ℕ → ErrorCode
  stopWithin : ℕ → ℕ → Bool
  recv : ℕ → ℕ → Reply

namespace SetupChannel

def maxRetries : ℕ := 5

def maxReceives : ℕ := 4

/-- The SetupResponse in a reply. A reply that does not decode, and one that is another PDU, is
none. -/
def responseOf (decode : Bytes → Option Pdu) (buffer : Bytes) : Option SetupResponse :=
  match decode buffer with
  | none => none
  | some pdu =>
    if pdu.type ≠ .setupResponse then none
    else
      match pdu.choice with
      | .setupResponse resp => some resp
      | _ => none

/-- The inner loop: `left` looks for a reply to attempt `retries` are left. Only silence is a reason
to look again. -/
def receiveLoop (decode : Bytes → Option Pdu) (ch : SetupChannel) (retries : ℕ) :
    (left attempt : ℕ) → Option SetupResponse
  | 0, _ => none
  | left + 1, attempt =>
    if ch.stopWithin retries attempt then none
    else
      match ch.recv retries attempt with
      | .bytes buffer => responseOf decode buffer
      | .error => none
      | .silence => receiveLoop decode ch retries left (attempt + 1)

/-- The outer loop, with `left` attempts left. -/
def sendLoop (decode : Bytes → Option Pdu) (ch : SetupChannel) :
    (left retries : ℕ) → Option SetupResponse
  | 0, _ => none
  | left + 1, retries =>
    if ch.stopBefore retries then none
    else if ch.send retries ≠ .success then sendLoop decode ch left (retries + 1)
    else
      match receiveLoop decode ch retries maxReceives 0 with
      | some resp => some resp
      | none => sendLoop decode ch left (retries + 1)

/-- `setup_loop_dapp`, up to its last block: the response it has handled. `encoded` says that the
SetupRequest could be encoded. -/
def setupLoopDapp (decode : Bytes → Option Pdu) (ch : SetupChannel) (encoded : Bool) :
    Option SetupResponse :=
  if !encoded then none else sendLoop decode ch maxRetries 0

end SetupChannel

/-- The setup thread of a session does what its loop does: it handles the response of the loop, or
gives up without one. -/
def DAppThreads.Event.OfLoop (outcome : Option SetupResponse) : DAppThreads.Event → Prop
  | .setupResponds resp => outcome = some resp
  | .setupGivesUp => outcome = none
  | _ => True

end LibE3
