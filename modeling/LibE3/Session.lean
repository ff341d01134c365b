import LibE3.Table
import LibE3.DApp

/-!
# What one dApp and the RAN know of its subscriptions

An abstract model of the exchange between one dApp and the RAN. The dApp has what it recorded and
the requests it remembers, the RAN has what it holds for the dApp, and between them are the
requests and the answers under way. Maps are functions, and everything that is not about this
dApp's subscriptions is left out.

An answer says only whether it is positive and which identifier it names, so the dApp attributes
it to a RAN function by the request it remembers (`effect`).
-/

namespace LibE3

/-- What a dApp asks for: a subscription to a RAN function, or the end of the subscription that has
an identifier. -/
inductive Ask
  | subscribe (ranFunctionId : UInt32) (time : Option UInt32)
  | delete (subscriptionId : UInt32)
  deriving DecidableEq, Repr

structure Asked where
  messageId : UInt32
  ask : Ask
  deriving DecidableEq, Repr

structure Answer where
  requestId : UInt32
  positive : Bool
  subscriptionId : Option UInt32
  deriving DecidableEq, Repr

/-- What an answer does to the records of the dApp. -/
inductive Effect
  | granted (ranFunctionId subscriptionId time : UInt32)
  | removed (ranFunctionId : UInt32)
  | nothing
  deriving DecidableEq, Repr

/-- The effect of an answer on the dApp that remembers `op` for its request. -/
def effect (op : Option PendingSubscriptionOp) (a : Answer) : Effect :=
  match op with
  | none => .nothing
  | some op =>
    if !a.positive then .nothing
    else if op.isDelete then .removed op.ranFunctionId
    else
      match a.subscriptionId with
      | none => .nothing
      | some id => .granted op.ranFunctionId id (op.subscriptionTimeS.getD 0)

/-- When a subscription runs out that is given a time now; a time of zero is no limit. -/
def deadline (now : TimePoint) (time : UInt32) : Option TimePoint :=
  if 0 < time then some (now + seconds time) else none

@[ext]
structure Session where
  now : TimePoint
  /-- The requests the dApp remembers, by message identifier. -/
  pending : UInt32 → Option PendingSubscriptionOp
  /-- The subscription identifiers the dApp recorded, by RAN function. -/
  recorded : UInt32 → Option UInt32
  /-- The deadlines the dApp recorded, by RAN function. -/
  expiry : UInt32 → Option TimePoint
  asked : List Asked
  answered : List Answer
  /-- The subscriptions the RAN holds for the dApp, by RAN function. -/
  held : UInt32 → Option Entry

namespace Session

/-- Nothing was asked for yet. -/
def start (now : TimePoint) : Session where
  now := now
  pending _ := none
  recorded _ := none
  expiry _ := none
  asked := []
  answered := []
  held _ := none

/-- The dApp records the effect of an answer. -/
def record (s : Session) : Effect → Session
  | .granted f id time =>
    { s with
      recorded := Function.update s.recorded f (some id)
      expiry := Function.update s.expiry f (deadline s.now time) }
  | .removed f =>
    -- a RAN function that is not recorded keeps its deadline
    { s with
      recorded := Function.update s.recorded f none
      expiry := if (s.recorded f).isSome then Function.update s.expiry f none else s.expiry }
  | .nothing => s

/-- The deadline that the dApp recorded for the RAN function has passed. -/
def ranOut (s : Session) (f : UInt32) : Bool :=
  match s.expiry f with
  | some t => t ≤ s.now
  | none => false

/-- What a step is called, as far as conditions on runs speak of it. -/
inductive Event
  | subscribe (time : Option UInt32)
  /-- The RAN answers a request for what it already holds. -/
  | hold (time : Option UInt32) (entry : Entry)
  /-- The RAN ends the subscription to a RAN function on a request with this message identifier. -/
  | delete (messageId ranFunctionId : UInt32)
  | other

/-- The RAN takes the next request off the link and sends an answer to it. -/
def answer (s : Session) (rest : List Asked) (a : Answer) : Session :=
  { s with asked := rest, answered := s.answered ++ [a] }

/-- The dApp remembers a request and sends it. -/
def request (s : Session) (mid : UInt32) (op : PendingSubscriptionOp) (ask : Ask) : Session :=
  { s with
    pending := Function.update s.pending mid (some op)
    asked := s.asked ++ [⟨mid, ask⟩] }

inductive Step (s : Session) : Event → Session → Prop
  | elapse {now : TimePoint} (h : s.now ≤ now) : Step s .other { s with now := now }
  | subscribe {mid f : UInt32} {time : Option UInt32} (hm : s.pending mid = none) :
    Step s (.subscribe time) (s.request mid ⟨f, false, time⟩ (.subscribe f time))
  | unsubscribe {mid f id : UInt32} (hm : s.pending mid = none) (hf : s.recorded f = some id) :
    Step s .other (s.request mid ⟨f, true, none⟩ (.delete id))
  | refuse {q : Asked} {rest : List Asked} (hq : s.asked = q :: rest) :
    Step s .other (s.answer rest ⟨q.messageId, false, none⟩)
  | hold {mid f : UInt32} {time : Option UInt32} {rest : List Asked} {e : Entry}
      (hq : s.asked = ⟨mid, .subscribe f time⟩ :: rest) (he : s.held f = some e) :
    Step s (.hold time e) (s.answer rest ⟨mid, true, some e.id⟩)
  | grant {mid f : UInt32} {time : Option UInt32} {rest : List Asked} {e : Entry}
      (hq : s.asked = ⟨mid, .subscribe f time⟩ :: rest)
      (he : e.details.expiresAt = deadline s.now (time.getD 0)) :
    Step s .other
      { s.answer rest ⟨mid, true, some e.id⟩ with held := Function.update s.held f (some e) }
  | delete {mid f : UInt32} {rest : List Asked} {e : Entry}
      (hq : s.asked = ⟨mid, .delete e.id⟩ :: rest) (he : s.held f = some e) :
    Step s (.delete mid f)
      { s.answer rest ⟨mid, true, some e.id⟩ with held := Function.update s.held f none }
  | hear {a : Answer} {rest : List Answer} (ha : s.answered = a :: rest) :
    Step s .other
      ({ s with
          pending := Function.update s.pending a.requestId none
          answered := rest }.record (effect (s.pending a.requestId) a))
  | ranSweep :
    Step s .other
      { s with held := fun f => (s.held f).filter fun e => !isExpired e.details s.now }
  | dappSweep :
    Step s .other
      { s with
        recorded := fun f => if s.ranOut f then none else s.recorded f
        expiry := fun f => if s.ranOut f then none else s.expiry f }

end Session

end LibE3
