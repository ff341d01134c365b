import LibE3.Interface

/-!
# The handlers of the RAN and the outbound queue

The handlers of `Ran` give the PDU that is to be sent. Here they are on the whole interface: the PDU
goes to `queue_outbound`, and no handler looks at what that returns. The Service Models and the
user put their PDUs into the same queue, and the outbound thread takes them out.
-/

namespace LibE3

/-- An interface in the RAN role: its queues and its connector, and what its handlers work on. -/
structure RanInterface where
  e : E3Interface
  ran : Ran

namespace RanInterface

/-- The interface after an `init()` that succeeded, in a process that has registered no Service
Model yet. -/
def initialized (config : E3Config) : RanInterface where
  e := { E3Interface.constructed config with
    state := .initialized
    responseQueue := some (.make 128)
    reportQueue := some (.make 1024)
    connector := some {} }
  ran := .initialized config

def handleSubscriptionRequest (s : RanInterface) (now : TimePoint) (stamp : UInt64)
    (request : SubscriptionRequest) (requestMessageId : UInt32) : RanInterface :=
  let (ran, responsePdu) := s.ran.handleSubscriptionRequest now stamp request requestMessageId
  { e := (s.e.queueOutbound responsePdu).2, ran := ran }

def handleSubscriptionDelete (s : RanInterface) (stamp : UInt64) (del : SubscriptionDelete)
    (requestMessageId : UInt32) : RanInterface :=
  let (ran, responsePdu) := s.ran.handleSubscriptionDelete stamp del requestMessageId
  { e := (s.e.queueOutbound responsePdu).2, ran := ran }

/-- The first result is the Service Model that is called, with what it is called with. -/
def handleControlAction (s : RanInterface) (stamp : UInt64) (action : DAppControlAction)
    (requestMessageId : UInt32) :
    Option (ServiceModel × UInt32 × DAppControlAction) × RanInterface :=
  let (ran, out) := s.ran.handleControlAction stamp action requestMessageId
  (out.handed,
    { e := out.outbound.foldl (fun e ackPdu => (e.queueOutbound ackPdu).2) s.e, ran := ran })

inductive Label
  | ran (a : Ran.Label)
  /-- A Service Model or the user sends a PDU. -/
  | queueOutbound (pdu : Pdu)
  /-- The outbound thread takes a PDU. -/
  | sendOutbound

def Label.ran? : Label → Option Ran.Label
  | .ran a => some a
  | .queueOutbound _ | .sendOutbound => none

def step (s : RanInterface) : Label → Option RanInterface
  | .queueOutbound pdu => some { s with e := (s.e.queueOutbound pdu).2 }
  | .sendOutbound => (s.e.step .sendOutbound).map fun e => { s with e := e }
  | .ran (.start created connected) =>
    some
      { e := (s.e.start (created = .success) connected).2
        ran := (s.ran.start created connected).2 }
  | .ran .stop => some { e := s.e.stop, ran := s.ran.stop }
  | .ran (.subscriptionRequest now stamp request requestMessageId) =>
    if s.e.state = .running then
      some (s.handleSubscriptionRequest now stamp request requestMessageId)
    else none
  | .ran (.subscriptionDelete stamp del requestMessageId) =>
    if s.e.state = .running then some (s.handleSubscriptionDelete stamp del requestMessageId)
    else none
  | .ran (.controlAction stamp action requestMessageId) =>
    if s.e.state = .running then some (s.handleControlAction stamp action requestMessageId).2
    else none
  -- a setup is answered on its own channel, and the others send nothing
  | .ran (.registerSm sm) => (s.ran.step (.registerSm sm)).map fun ran => { s with ran := ran }
  | .ran (.setupRequest stamp requestMessageId) =>
    (s.ran.step (.setupRequest stamp requestMessageId)).map fun ran => { s with ran := ran }
  | .ran (.release release order) =>
    (s.ran.step (.release release order)).map fun ran => { s with ran := ran }
  | .ran (.sweep now order) =>
    (s.ran.step (.sweep now order)).map fun ran => { s with ran := ran }

end RanInterface

end LibE3
