import LibE3.OutboundThreads
import LibE3.PosixConnector

/-!
# The threads of the RAN over the POSIX connector

The outbound thread is in `send` of the connector from a call to its return, while the producers
and the channels go on. A restart makes a new connector, and dApps may still read what is left on
the connections of an old one.
-/

namespace LibE3

/-- The threads, the outbound channel of each connector that was made, the one in use, and whether
the outbound thread is in its `send`. -/
structure Downlink where
  threads : OutboundThreads
  links : ℕ → Posix.Outbound := fun _ => .initial
  current : ℕ := 0
  sending : Bool := false

namespace Downlink

inductive Label
  /-- A step of the threads other than the call of `send`. -/
  | threads (l : OutboundThreads.Label)
  | callSend
  | sendReturns
  /-- Something happens on the channel of a connector. -/
  | link (g : ℕ) (e : Posix.Outbound.Event)

def initialized (producers : ℕ) : Downlink where
  threads := .initialized .ran producers

def setLink (d : Downlink) (g : ℕ) (link : Posix.Outbound) : Downlink :=
  { d with links := Function.update d.links g link }

/-- The connector in use after a step of the threads. -/
def connector (d : Downlink) (t : OutboundThreads) : ℕ :=
  if d.threads.control = .createConnector ∧ t.control = .rearmClear then d.current + 1
  else d.current

def step (encode : Pdu → Option Bytes) (d : Downlink) : Label → Option Downlink
  | .threads l =>
    match d.threads.outbound, l with
    | .send _ _, .outbound _ _ => none
    | _, l =>
      (OutboundThreads.step encode d.threads l).map fun t =>
        { d with threads := t, current := d.connector t }
  | .callSend =>
    match d.threads.outbound, d.sending with
    | .send _ buffer, false =>
      ((d.links d.current).step (.send buffer)).map fun link =>
        { d.setLink d.current link with sending := true }
    | _, _ => none
  | .sendReturns =>
    match d.sending, (d.links d.current).thread, (d.links d.current).returned.getLast? with
    | true, .idle _, some rc =>
      (OutboundThreads.step encode d.threads (.outbound false rc)).map fun t =>
        { d with threads := t, sending := false }
    | _, _, _ => none
  | .link g e =>
    match e with
    | .send _ => none
    | e => if g ≤ d.current then ((d.links g).step e).map (d.setLink g) else none

end Downlink

end LibE3
