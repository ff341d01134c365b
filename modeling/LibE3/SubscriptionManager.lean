import LibE3.Lib.UnorderedMap
import LibE3.Types

/-!
# The subscription manager

`SubscriptionManager` keeps six maps by hand, in seven operations. Each operation is modelled as
the section it runs under the manager's lock; the calls of `check_sm_lifecycle` it makes after
the unlock are returned as `checks`, so that they can be run at once or interleaved with other
threads. `now` and the iteration orders of the hash maps are arguments.
-/

namespace LibE3

def minId : UInt32 := 1
def maxId : UInt32 := 65535

/-- The scan of `lowest_free_id` from `id`, over `n` more identifiers. -/
def scanFree (taken : UInt32 → Bool) : ℕ → UInt32 → UInt32
  | 0, _ => 0
  | n + 1, id => if taken id then scanFree taken n (id + 1) else id

/-- Lowest identifier in `minId..maxId` that `taken` does not hold, 0 when all are in use. -/
def lowestFreeId {ν : Type*} (taken : UnorderedMap UInt32 ν) : UInt32 :=
  scanFree (fun id => id ∈ taken) (maxId.toNat + 1 - minId.toNat) minId

structure SubscriptionDetails where
  telemetryIds : List UInt32
  controlIds : List UInt32
  periodicityUs : UInt32
  subscriptionTimeS : UInt32
  expiresAt : Option TimePoint
  deriving DecidableEq, Repr

structure ExpiredSubscription where
  dappId : UInt32
  ranFunctionId : UInt32
  subscriptionId : UInt32
  deriving DecidableEq, Repr

/-- `DAppEntry`, without the registration time nobody reads. -/
structure DAppEntry where
  dappIdentifier : UInt32
  deriving DecidableEq, Repr

structure SubscriptionManager where
  registeredDapps : UnorderedMap UInt32 DAppEntry
  dappSubscriptions : UnorderedMap UInt32 (Finset UInt32)
  ranFunctionSubscribers : UnorderedMap UInt32 (Finset UInt32)
  subscriptionIds : UnorderedMap UInt32 (UInt32 × UInt32)
  subscriptionIdReverse : UnorderedMap UInt64 UInt32
  subscriptionDetails : UnorderedMap UInt64 SubscriptionDetails
  deriving DecidableEq

/-- What an operation has done when it unlocks: the manager it leaves, what it will return, and
the calls of `check_sm_lifecycle` still to make, in order. -/
structure Locked (ρ : Type) where
  mgr : SubscriptionManager
  ret : ρ
  checks : List (UInt32 × Bool) := []

def isExpired (details : SubscriptionDetails) (time : TimePoint) : Bool :=
  match details.expiresAt with
  | some t => t ≤ time
  | none => false

/-- Composite key of a pair of a dApp and a RAN function. -/
def makeSubKey (dappId ranFuncId : UInt32) : UInt64 :=
  (dappId.toUInt64 <<< 32) ||| ranFuncId.toUInt64

/-- The dApp of a composite key, as the expiry sweep reads it. -/
def keyDapp (key : UInt64) : UInt32 := (key >>> 32).toUInt32

/-- The RAN function of a composite key, as the expiry sweep reads it. -/
def keyRanFunction (key : UInt64) : UInt32 := (key &&& 0xffffffff).toUInt32

namespace SubscriptionManager

/-- A fresh manager. -/
def fresh : SubscriptionManager := ⟨∅, ∅, ∅, ∅, ∅, ∅⟩

/-! ## Queries -/

def isDappRegistered (m : SubscriptionManager) (dappId : UInt32) : Bool :=
  dappId ∈ m.registeredDapps

def isSubscribed (m : SubscriptionManager) (dappId ranFunctionId : UInt32) : Bool :=
  match m.dappSubscriptions.lookup dappId with
  | none => false
  | some subs => ranFunctionId ∈ subs

def getSubscriptionDetails (m : SubscriptionManager) (dappId ranFunctionId : UInt32) :
    Option SubscriptionDetails :=
  m.subscriptionDetails.lookup (makeSubKey dappId ranFunctionId)

def hasSubscribers (m : SubscriptionManager) (ranFunctionId : UInt32) : Bool :=
  match m.ranFunctionSubscribers.lookup ranFunctionId with
  | none => false
  | some subscribers => subscribers ≠ ∅

/-- `get_registered_dapps`; `order` is how the loop visits the map, here and below. -/
def getRegisteredDapps (_ : SubscriptionManager) (order : List UInt32) : List UInt32 := order

def getDappSubscriptions (m : SubscriptionManager) (dappId : UInt32) (order : List UInt32) :
    List UInt32 :=
  match m.dappSubscriptions.lookup dappId with
  | none => []
  | some _ => order

/-- `get_subscribed_dapps`. The clock is read at most once, when a deadline is first met. -/
def getSubscribedDapps (m : SubscriptionManager) (now : TimePoint) (ranFunctionId : UInt32)
    (order : List UInt32) : List UInt32 :=
  match m.ranFunctionSubscribers.lookup ranFunctionId with
  | none => []
  | some _ =>
    order.filter fun dappId =>
      match m.subscriptionDetails.lookup (makeSubKey dappId ranFunctionId) with
      | none => true
      | some details => !(details.expiresAt.isSome && isExpired details now)

def getSubscriberCount (m : SubscriptionManager) (ranFunctionId : UInt32) : ℕ :=
  match m.ranFunctionSubscribers.lookup ranFunctionId with
  | none => 0
  | some subscribers => subscribers.card

def getActiveRanFunctions (m : SubscriptionManager) (order : List UInt32) : List UInt32 :=
  order.filter fun ranFunc => m.ranFunctionSubscribers.ref ranFunc ≠ ∅

def dappCount (m : SubscriptionManager) : ℕ := m.registeredDapps.keys.card

def subscriptionCount (m : SubscriptionManager) (order : List UInt32) : ℕ :=
  order.foldl (fun count dappId => count + (m.dappSubscriptions.ref dappId).card) 0

/-- The callback `check_sm_lifecycle` makes when it finds the manager `m`: `some (f, start)`. -/
def checkSmLifecycle (m : SubscriptionManager) (check : UInt32 × Bool) : Option (UInt32 × Bool) :=
  let (ranFunctionId, hadSubscribers) := check
  let hasSubscribersNow := m.hasSubscribers ranFunctionId
  if !hadSubscribers && hasSubscribersNow then some (ranFunctionId, true)
  else if hadSubscribers && !hasSubscribersNow then some (ranFunctionId, false)
  else none

/-! ## Registration -/

def registerDapp (m : SubscriptionManager) : Locked (ErrorCode × UInt32) :=
  let assignedId := lowestFreeId m.registeredDapps
  if assignedId = 0 then ⟨m, (.internalError, 0), []⟩
  else
    ⟨{ m with
        registeredDapps := m.registeredDapps.insert assignedId ⟨assignedId⟩
        dappSubscriptions := m.dappSubscriptions.insert assignedId ∅ },
      (.success, assignedId), []⟩

/-- Takes the dApp out of a RAN function's subscriber set, which a subscript creates if needed. -/
def eraseSubscriber (m : SubscriptionManager) (dappId ranFunctionId : UInt32) :
    SubscriptionManager :=
  { m with
    ranFunctionSubscribers := m.ranFunctionSubscribers.insert ranFunctionId
      ((m.ranFunctionSubscribers.ref ranFunctionId).erase dappId) }

/-- Erases the subscription identifier the reverse map gives for a key, from both maps. -/
def eraseSubId (m : SubscriptionManager) (subKey : UInt64) : SubscriptionManager :=
  match m.subscriptionIdReverse.lookup subKey with
  | none => m
  | some id =>
    { m with
      subscriptionIds := m.subscriptionIds.erase id
      subscriptionIdReverse := m.subscriptionIdReverse.erase subKey }

def eraseDetails (m : SubscriptionManager) (subKey : UInt64) : SubscriptionManager :=
  { m with subscriptionDetails := m.subscriptionDetails.erase subKey }

/-- Takes a RAN function out of a dApp's set, if the dApp has one. -/
def eraseDappSub (m : SubscriptionManager) (dappId ranFunctionId : UInt32) :
    SubscriptionManager :=
  match m.dappSubscriptions.lookup dappId with
  | none => m
  | some subs =>
    { m with dappSubscriptions := m.dappSubscriptions.insert dappId (subs.erase ranFunctionId) }

/-- The check after a removal: only the end of the last subscriber asks for one. -/
def lastGone (before after : SubscriptionManager) (ranFunctionId : UInt32) :
    List (UInt32 × Bool) :=
  let hadSubscribers := before.ranFunctionSubscribers.ref ranFunctionId ≠ ∅
  let stillHasSubscribers := after.ranFunctionSubscribers.ref ranFunctionId ≠ ∅
  if hadSubscribers ∧ ¬ stillHasSubscribers then [(ranFunctionId, true)] else []

/-- One turn of the loop of `unregister_dapp`, over the manager and the checks so far. -/
def unregisterStep (dappId : UInt32) (st : SubscriptionManager × List (UInt32 × Bool))
    (ranFunc : UInt32) : SubscriptionManager × List (UInt32 × Bool) :=
  let m := st.1.eraseSubscriber dappId ranFunc
  let subKey := makeSubKey dappId ranFunc
  ((m.eraseSubId subKey).eraseDetails subKey, st.2 ++ lastGone st.1 m ranFunc)

/-- `unregister_dapp`; `order` is how the loop visits the dApp's set. -/
def unregisterDapp (m : SubscriptionManager) (dappId : UInt32) (order : List UInt32) :
    Locked ErrorCode :=
  if dappId ∉ m.registeredDapps then ⟨m, .dappNotRegistered, []⟩
  else
    let (m', checks) :=
      if dappId ∈ m.dappSubscriptions then
        let (m', checks) := order.foldl (unregisterStep dappId) (m, [])
        ({ m' with dappSubscriptions := m'.dappSubscriptions.erase dappId }, checks)
      else (m, [])
    ⟨{ m' with registeredDapps := m'.registeredDapps.erase dappId }, .success, checks⟩

/-! ## Subscriptions -/

/-- The details a request stored at `started` gives. -/
def makeDetails (started : TimePoint) (telemetryIds controlIds : List UInt32)
    (periodicityUs subscriptionTimeS : UInt32) : SubscriptionDetails where
  telemetryIds := telemetryIds
  controlIds := controlIds
  periodicityUs := periodicityUs
  subscriptionTimeS := subscriptionTimeS
  expiresAt := if 0 < subscriptionTimeS then some (started + seconds subscriptionTimeS) else none

/-- `add_subscription` when the pair is already in the dApp's set. -/
def addExisting (m : SubscriptionManager) (started : TimePoint) (subKey : UInt64)
    (details : SubscriptionDetails) : Locked (ErrorCode × UInt32) :=
  let existingSubId := m.subscriptionIdReverse.ref subKey
  let m := { m with subscriptionIdReverse := m.subscriptionIdReverse.touch subKey }
  match m.subscriptionDetails.lookup subKey with
  | some old =>
    if isExpired old started then
      -- Ran out but not swept yet: a new one starts in its place.
      ⟨{ m with subscriptionDetails := m.subscriptionDetails.insert subKey details },
        (.success, existingSubId), []⟩
    else ⟨m, (.subscriptionExists, existingSubId), []⟩
  | none => ⟨m, (.subscriptionExists, existingSubId), []⟩

/-- `add_subscription` for a pair that is not in the dApp's set. -/
def addNew (m : SubscriptionManager) (dappId ranFunctionId : UInt32) (subKey : UInt64)
    (details : SubscriptionDetails) : Locked (ErrorCode × UInt32) :=
  let hadSubscribers : Bool := m.ranFunctionSubscribers.ref ranFunctionId ≠ ∅
  let m := { m with ranFunctionSubscribers := m.ranFunctionSubscribers.touch ranFunctionId }
  let subscriptionId := lowestFreeId m.subscriptionIds
  if subscriptionId = 0 then ⟨m, (.internalError, 0), []⟩
  else
    ⟨{ m with
        dappSubscriptions := m.dappSubscriptions.insert dappId
          (insert ranFunctionId (m.dappSubscriptions.ref dappId))
        ranFunctionSubscribers := m.ranFunctionSubscribers.insert ranFunctionId
          (insert dappId (m.ranFunctionSubscribers.ref ranFunctionId))
        subscriptionIds := m.subscriptionIds.insert subscriptionId (dappId, ranFunctionId)
        subscriptionIdReverse := m.subscriptionIdReverse.insert subKey subscriptionId
        subscriptionDetails := m.subscriptionDetails.insert subKey details },
      (.success, subscriptionId), if hadSubscribers then [] else [(ranFunctionId, false)]⟩

def addSubscription (m : SubscriptionManager) (started : TimePoint)
    (dappId ranFunctionId : UInt32) (telemetryIds controlIds : List UInt32)
    (periodicityUs subscriptionTimeS : UInt32) : Locked (ErrorCode × UInt32) :=
  if dappId ∉ m.registeredDapps then ⟨m, (.dappNotRegistered, 0), []⟩
  else
    let subKey := makeSubKey dappId ranFunctionId
    let details := makeDetails started telemetryIds controlIds periodicityUs subscriptionTimeS
    let m := { m with dappSubscriptions := m.dappSubscriptions.touch dappId }
    if ranFunctionId ∈ m.dappSubscriptions.ref dappId then
      addExisting m started subKey details
    else addNew m dappId ranFunctionId subKey details

/-- State of the loop of `expire_subscriptions`. -/
structure Sweep where
  mgr : SubscriptionManager
  emptiedRanFunctions : List UInt32
  expired : List ExpiredSubscription

/-- One turn of the loop of `expire_subscriptions`, at the entry of key `subKey`. -/
def expireStep (time : TimePoint) (st : Sweep) (subKey : UInt64) : Sweep :=
  match st.mgr.subscriptionDetails.lookup subKey with
  | none => st
  | some details =>
    if isExpired details time then
      let dappId := keyDapp subKey
      let ranFunctionId := keyRanFunction subKey
      -- Stays 0 when the reverse map has no identifier for the key.
      let subscriptionId := st.mgr.subscriptionIdReverse.ref subKey
      let m := (((st.mgr.eraseSubId subKey).eraseDappSub dappId ranFunctionId).eraseSubscriber
        dappId ranFunctionId)
      { mgr := m.eraseDetails subKey
        emptiedRanFunctions := st.emptiedRanFunctions ++
          (if m.ranFunctionSubscribers.ref ranFunctionId = ∅ then [ranFunctionId] else [])
        expired := st.expired ++ [⟨dappId, ranFunctionId, subscriptionId⟩] }
    else st

/-- `expire_subscriptions`; `order` is how the loop visits the details map. -/
def expireSubscriptions (m : SubscriptionManager) (time : TimePoint) (order : List UInt64) :
    Locked (List ExpiredSubscription) :=
  let st := order.foldl (expireStep time) ⟨m, [], []⟩
  ⟨st.mgr, st.expired, st.emptiedRanFunctions.map fun f => (f, true)⟩

def removeSubscription (m : SubscriptionManager) (dappId ranFunctionId : UInt32) :
    Locked ErrorCode :=
  match m.dappSubscriptions.lookup dappId with
  | none => ⟨m, .subscriptionNotFound, []⟩
  | some dappSubs =>
    if ranFunctionId ∉ dappSubs then ⟨m, .subscriptionNotFound, []⟩
    else
      let m₁ := m.eraseDappSub dappId ranFunctionId
      let m₂ := m₁.eraseSubscriber dappId ranFunctionId
      let subKey := makeSubKey dappId ranFunctionId
      ⟨(m₂.eraseSubId subKey).eraseDetails subKey, .success, lastGone m₁ m₂ ranFunctionId⟩

def removeSubscriptionById (m : SubscriptionManager) (dappId subscriptionId : UInt32) :
    Locked ErrorCode :=
  match m.subscriptionIds.lookup subscriptionId with
  | none => ⟨m, .subscriptionNotFound, []⟩
  | some (subDappId, ranFunctionId) =>
    if subDappId ≠ dappId then ⟨m, .subscriptionNotFound, []⟩
    else
      let m₁ := m.eraseDappSub dappId ranFunctionId
      let m₂ := m₁.eraseSubscriber dappId ranFunctionId
      let subKey := makeSubKey dappId ranFunctionId
      -- Unlike the other removals, the identifier is the argument and not looked up again.
      ⟨{ m₂ with
          subscriptionIdReverse := m₂.subscriptionIdReverse.erase subKey
          subscriptionIds := m₂.subscriptionIds.erase subscriptionId
          subscriptionDetails := m₂.subscriptionDetails.erase subKey },
        .success, lastGone m₁ m₂ ranFunctionId⟩

def clear (_ : SubscriptionManager) : SubscriptionManager := ⟨∅, ∅, ∅, ∅, ∅, ∅⟩

end SubscriptionManager

/-! ## Calls -/

/-- A call on the manager, with the clock it reads and the order its loop takes. -/
inductive Operation
  | registerDapp
  | unregisterDapp (dappId : UInt32) (order : List UInt32)
  | addSubscription (now : TimePoint) (dappId ranFunctionId : UInt32)
      (telemetryIds controlIds : List UInt32) (periodicityUs subscriptionTimeS : UInt32)
  | removeSubscription (dappId ranFunctionId : UInt32)
  | removeSubscriptionById (dappId subscriptionId : UInt32)
  | expireSubscriptions (now : TimePoint) (order : List UInt64)
  | clear
  deriving DecidableEq, Repr

namespace Operation

/-- The order is one that the loop of the call can take. -/
def Possible (m : SubscriptionManager) : Operation → Prop
  | unregisterDapp dappId order => Visits order (m.dappSubscriptions.ref dappId)
  | expireSubscriptions _ order => Visits order m.subscriptionDetails.keys
  | _ => True

instance (m : SubscriptionManager) : ∀ op, Decidable (Possible m op)
  | registerDapp | addSubscription .. | removeSubscription .. | removeSubscriptionById ..
  | clear => inferInstanceAs (Decidable True)
  | unregisterDapp .. | expireSubscriptions .. => inferInstanceAs (Decidable (Visits _ _))

/-- The locked section of a call. `expire_subscriptions` and `clear` cannot fail. -/
def exec (m : SubscriptionManager) : Operation → Locked ErrorCode
  | registerDapp =>
    let r := m.registerDapp
    ⟨r.mgr, r.ret.1, r.checks⟩
  | unregisterDapp dappId order => m.unregisterDapp dappId order
  | addSubscription now dappId ranFunctionId telemetryIds controlIds periodicityUs
      subscriptionTimeS =>
    let r := m.addSubscription now dappId ranFunctionId telemetryIds controlIds periodicityUs
      subscriptionTimeS
    ⟨r.mgr, r.ret.1, r.checks⟩
  | removeSubscription dappId ranFunctionId => m.removeSubscription dappId ranFunctionId
  | removeSubscriptionById dappId subscriptionId => m.removeSubscriptionById dappId subscriptionId
  | expireSubscriptions now order =>
    let r := m.expireSubscriptions now order
    ⟨r.mgr, .success, r.checks⟩
  | clear => ⟨m.clear, .success, []⟩

end Operation

/-- One call on the manager, as a step of a machine. -/
def SubscriptionManager.step (m : SubscriptionManager) (op : Operation) :
    Option SubscriptionManager :=
  if op.Possible m then some (op.exec m).mgr else none

end LibE3
