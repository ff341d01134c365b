import LibE3.Lifecycle

/-!
# What a user of the manager sees

The public queries of a manager with what they can answer, what each call returns, and what is seen
over a sequence of calls and queries. The vectors that the queries return are in the order of a hash
map, which is not part of the map, so an answer holds what a vector lists and not its order. A
history keeps the calls with what they returned, and says without the maps which grants stand.
-/

namespace LibE3

open SubscriptionManager

inductive Query
  | isDappRegistered (dappId : UInt32)
  | getRegisteredDapps
  | isSubscribed (dappId ranFunctionId : UInt32)
  | getDappSubscriptions (dappId : UInt32)
  | getSubscribedDapps (now : TimePoint) (ranFunctionId : UInt32)
  | getSubscriptionDetails (dappId ranFunctionId : UInt32)
  | getSubscriberCount (ranFunctionId : UInt32)
  | getActiveRanFunctions
  | hasSubscribers (ranFunctionId : UInt32)
  | dappCount
  | subscriptionCount
  deriving DecidableEq, Repr

inductive Query.Answer
  | flag (b : Bool)
  | count (n : ℕ)
  | details (details : Option SubscriptionDetails)
  | ids (l : Multiset UInt32)
  deriving DecidableEq

/-- What a query can answer, whatever order its loop takes. -/
inductive Query.Answers (m : SubscriptionManager) : Query → Query.Answer → Prop
  | isDappRegistered (d : UInt32) : Answers m (.isDappRegistered d) (.flag (m.isDappRegistered d))
  | getRegisteredDapps {order : List UInt32} (h : Visits order m.registeredDapps.keys) :
    Answers m .getRegisteredDapps (.ids (m.getRegisteredDapps order))
  | isSubscribed (d f : UInt32) : Answers m (.isSubscribed d f) (.flag (m.isSubscribed d f))
  | getDappSubscriptions (d : UInt32) {order : List UInt32}
      (h : Visits order (m.dappSubscriptions.ref d)) :
    Answers m (.getDappSubscriptions d) (.ids (m.getDappSubscriptions d order))
  | getSubscribedDapps (now : TimePoint) (f : UInt32) {order : List UInt32}
      (h : Visits order (m.ranFunctionSubscribers.ref f)) :
    Answers m (.getSubscribedDapps now f) (.ids (m.getSubscribedDapps now f order))
  | getSubscriptionDetails (d f : UInt32) :
    Answers m (.getSubscriptionDetails d f) (.details (m.getSubscriptionDetails d f))
  | getSubscriberCount (f : UInt32) :
    Answers m (.getSubscriberCount f) (.count (m.getSubscriberCount f))
  | getActiveRanFunctions {order : List UInt32} (h : Visits order m.ranFunctionSubscribers.keys) :
    Answers m .getActiveRanFunctions (.ids (m.getActiveRanFunctions order))
  | hasSubscribers (f : UInt32) : Answers m (.hasSubscribers f) (.flag (m.hasSubscribers f))
  | dappCount : Answers m .dappCount (.count m.dappCount)
  | subscriptionCount {order : List UInt32} (h : Visits order m.dappSubscriptions.keys) :
    Answers m .subscriptionCount (.count (m.subscriptionCount order))

/-- What a call returns. -/
inductive Returned
  | code (result : ErrorCode)
  | assigned (result : ErrorCode) (id : UInt32)
  | expired (l : List ExpiredSubscription)
  | nothing
  deriving DecidableEq, Repr

def Operation.returned (m : SubscriptionManager) : Operation → Returned
  | .registerDapp => .assigned m.registerDapp.ret.1 m.registerDapp.ret.2
  | .unregisterDapp d order => .code (m.unregisterDapp d order).ret
  | .addSubscription now d f ts cs p s =>
    .assigned (m.addSubscription now d f ts cs p s).ret.1 (m.addSubscription now d f ts cs p s).ret.2
  | .removeSubscription d f => .code (m.removeSubscription d f).ret
  | .removeSubscriptionById d id => .code (m.removeSubscriptionById d id).ret
  | .expireSubscriptions now order => .expired (m.expireSubscriptions now order).ret
  | .clear => .nothing

inductive Call
  | operation (op : Operation)
  | query (q : Query)

inductive Seen
  | returned (value : Returned) (callbacks : List (UInt32 × Bool))
  | answered (answer : Query.Answer)

/-- What can be seen of a sequence of calls, each run to completion. -/
inductive Observes : SubscriptionManager → List Call → List Seen → Prop
  | nil (m : SubscriptionManager) : Observes m [] []
  | operation {m : SubscriptionManager} {op : Operation} {calls : List Call} {seen : List Seen}
      (hp : op.Possible m) (h : Observes (op.exec m).mgr calls seen) :
    Observes m (.operation op :: calls)
      (.returned (op.returned m) (op.exec m).callbacks :: seen)
  | query {m : SubscriptionManager} {q : Query} {a : Query.Answer} {calls : List Call}
      {seen : List Seen} (ha : q.Answers m a) (h : Observes m calls seen) :
    Observes m (.query q :: calls) (.answered a :: seen)

/-! ## Histories -/

/-- The clock reading of a call, if it reads the clock. -/
def Operation.clock : Operation → Option TimePoint
  | .addSubscription now .. => some now
  | .expireSubscriptions now _ => some now
  | _ => none

/-- A call of a history and what it returned. -/
structure Logged where
  op : Operation
  returned : Returned

/-- A manager and the calls that led to it, oldest first. -/
structure Journal where
  mgr : SubscriptionManager
  log : List Logged

def Journal.fresh : Journal := ⟨SubscriptionManager.fresh, []⟩

def Journal.step (j : Journal) (op : Operation) : Option Journal :=
  if op.Possible j.mgr then some ⟨(op.exec j.mgr).mgr, j.log ++ [⟨op, op.returned j.mgr⟩]⟩
  else none

/-- What a successful `add_subscription` granted, and when. -/
structure Grant where
  subscriptionId : UInt32
  started : TimePoint
  subscriptionTimeS : UInt32
  deriving DecidableEq, Repr

/-- The subscription time was 0 or has not elapsed. -/
def Grant.LiveAt (g : Grant) (time : TimePoint) : Prop :=
  g.subscriptionTimeS = 0 ∨ time < g.started + seconds g.subscriptionTimeS

namespace Logged

/-- The call granted the pair: an `add_subscription` for it that returned SUCCESS. -/
def grants (dappId ranFunctionId : UInt32) : Logged → Option Grant
  | ⟨.addSubscription now d f _ _ _ s, .assigned .success id⟩ =>
    if d = dappId ∧ f = ranFunctionId then some ⟨id, now, s⟩ else none
  | _ => none

/-- The call removed the pair, whose grant was `g`: by itself, by the identifier, with its dApp or
with everything. -/
def removes (dappId ranFunctionId : UInt32) (g : Grant) : Logged → Bool
  | ⟨.removeSubscription d f, .code .success⟩ => d = dappId ∧ f = ranFunctionId
  | ⟨.removeSubscriptionById d id, .code .success⟩ => d = dappId ∧ id = g.subscriptionId
  | ⟨.unregisterDapp d _, .code .success⟩ => d = dappId
  | ⟨.clear, _⟩ => true
  | _ => false

/-- The call was a sweep that ended the pair. -/
def sweeps (dappId ranFunctionId : UInt32) : Logged → Bool
  | ⟨.expireSubscriptions .., .expired l⟩ =>
    l.any fun x => x.dappId = dappId ∧ x.ranFunctionId = ranFunctionId
  | _ => false

/-- The call ended the pair. -/
def ends (dappId ranFunctionId : UInt32) (g : Grant) (c : Logged) : Bool :=
  c.removes dappId ranFunctionId g || c.sweeps dappId ranFunctionId

end Logged

/-- `g` is the last grant of the pair, and no call after it meets `ended`. -/
def Stands (ended : Grant → Logged → Bool) (dappId ranFunctionId : UInt32) (g : Grant)
    (log : List Logged) : Prop :=
  ∃ before c after, log = before ++ c :: after ∧ c.grants dappId ranFunctionId = some g ∧
    ∀ c' ∈ after, c'.grants dappId ranFunctionId = none ∧ ended g c' = false

end LibE3
