import LibE3.Lib.UnorderedMap
import LibE3.Types
import Mathlib.Data.Multiset.Sort

/-!
# Service Models and their registry

A Service Model is user code behind an interface. It is modelled by what the library reads of it:
the values it advertises, what `init()` and `start()` return, and whether it runs. A factory is
the Service Model it would make, if any.
-/

namespace LibE3

def maxProtocolDataSize : ℕ := 32768

structure ServiceModel where
  ranFunctionId : UInt32
  telemetryIds : List UInt32
  controlIds : List UInt32
  ranFunctionData : Bytes
  initResult : ErrorCode := .success
  startResult : ErrorCode := .success
  isRunning : Bool := false
  deriving DecidableEq, Repr

namespace ServiceModel

/-- `start()`: the Service Model runs when it reports success. -/
def start (sm : ServiceModel) : ErrorCode × ServiceModel :=
  (sm.startResult, if sm.startResult = .success then { sm with isRunning := true } else sm)

def stop (sm : ServiceModel) : ServiceModel := { sm with isRunning := false }

end ServiceModel

structure SmRegistry where
  sms : UnorderedMap UInt32 ServiceModel
  factories : UnorderedMap UInt32 (Option ServiceModel)
  deriving DecidableEq

namespace SmRegistry

def empty : SmRegistry := ⟨∅, ∅⟩

/-- `sms_.size() + factories_.size()`. -/
def size (r : SmRegistry) : ℕ := r.sms.keys.card + r.factories.keys.card

/-- `register_sm`; a null pointer is `none`. -/
def registerSm (r : SmRegistry) : Option ServiceModel → ErrorCode × SmRegistry
  | none => (.invalidParam, r)
  | some sm =>
    let rfdLen := sm.ranFunctionData.length
    if rfdLen = 0 ∨ rfdLen > maxProtocolDataSize then (.invalidParam, r)
    else if sm.telemetryIds.length > maxIdentifierListSize
        ∨ sm.controlIds.length > maxIdentifierListSize then (.invalidParam, r)
    else if r.size ≥ maxRanFunctions then (.invalidParam, r)
    else if sm.ranFunctionId ∈ r.sms then (.smAlreadyRegistered, r)
    else if sm.initResult ≠ .success then (sm.initResult, r)
    else (.success, { r with sms := r.sms.insert sm.ranFunctionId sm })

/-- `register_sm_factory`; an empty function is `none`. -/
def registerSmFactory (r : SmRegistry) (ranFunctionId : UInt32) :
    Option (Option ServiceModel) → ErrorCode × SmRegistry
  | none => (.invalidParam, r)
  | some factory =>
    if ranFunctionId ∈ r.sms ∨ ranFunctionId ∈ r.factories then (.smAlreadyRegistered, r)
    else if r.size ≥ maxRanFunctions then (.invalidParam, r)
    else (.success, { r with factories := r.factories.insert ranFunctionId factory })

def unregisterSm (r : SmRegistry) (ranFunctionId : UInt32) : ErrorCode × SmRegistry :=
  if ranFunctionId ∈ r.sms then (.success, { r with sms := r.sms.erase ranFunctionId })
  else if ranFunctionId ∈ r.factories then
    (.success, { r with factories := r.factories.erase ranFunctionId })
  else (.smNotFound, r)

/-- `get_by_ran_function`: a factory's Service Model is made on the first lookup. -/
def getByRanFunction (r : SmRegistry) (ranFunctionId : UInt32) :
    Option ServiceModel × SmRegistry :=
  match r.sms.lookup ranFunctionId with
  | some sm => (some sm, r)
  | none =>
    match r.factories.lookup ranFunctionId with
    | some (some sm) =>
      if sm.initResult = .success then
        (some sm, { sms := r.sms.insert ranFunctionId sm,
                    factories := r.factories.erase ranFunctionId })
      else (none, r)
    | _ => (none, r)

/-- `get_available_ran_functions`: the keys of both maps, sorted. -/
def getAvailableRanFunctions (r : SmRegistry) : List UInt32 :=
  (r.sms.keys.val + r.factories.keys.val).sort (· ≤ ·)

def startSm (r : SmRegistry) (ranFunctionId : UInt32) : ErrorCode × SmRegistry :=
  match r.sms.lookup ranFunctionId with
  | none => (.smNotFound, r)
  | some sm =>
    if sm.isRunning then (.success, r)
    else
      let (result, sm) := sm.start
      (result, { r with sms := r.sms.insert ranFunctionId sm })

def stopSm (r : SmRegistry) (ranFunctionId : UInt32) : ErrorCode × SmRegistry :=
  match r.sms.lookup ranFunctionId with
  | none => (.smNotFound, r)
  | some sm =>
    if !sm.isRunning then (.success, r)
    else (.success, { r with sms := r.sms.insert ranFunctionId sm.stop })

def isSmRunning (r : SmRegistry) (ranFunctionId : UInt32) : Bool :=
  match r.sms.lookup ranFunctionId with
  | some sm => sm.isRunning
  | none => false

/-- `clear()` stops and destroys every Service Model before it forgets them. -/
def clear (_ : SmRegistry) : SmRegistry := ⟨∅, ∅⟩

/-- `E3Interface::on_sm_lifecycle_change`, the callback the interface installs. -/
def onSmLifecycleChange (r : SmRegistry) (change : UInt32 × Bool) : SmRegistry :=
  if change.2 then (r.startSm change.1).2 else (r.stopSm change.1).2

/-! ## A registry in use -/

/-- What can happen to a registry: the calls that change it, and a Service Model that reports
something else from now on. -/
inductive Event
  | registerSm (sm : Option ServiceModel)
  | registerSmFactory (ranFunctionId : UInt32) (factory : Option (Option ServiceModel))
  | unregisterSm (ranFunctionId : UInt32)
  | getByRanFunction (ranFunctionId : UInt32)
  | onSmLifecycleChange (change : UInt32 × Bool)
  | clear
  | becomes (ranFunctionId : UInt32) (sm : ServiceModel)
  deriving DecidableEq, Repr

def step (r : SmRegistry) : Event → Option SmRegistry
  | .registerSm sm => some (r.registerSm sm).2
  | .registerSmFactory ranFunctionId factory => some (r.registerSmFactory ranFunctionId factory).2
  | .unregisterSm ranFunctionId => some (r.unregisterSm ranFunctionId).2
  | .getByRanFunction ranFunctionId => some (r.getByRanFunction ranFunctionId).2
  | .onSmLifecycleChange change => some (r.onSmLifecycleChange change)
  | .clear => some r.clear
  | .becomes ranFunctionId sm =>
    if ranFunctionId ∈ r.sms then some { r with sms := r.sms.insert ranFunctionId sm } else none

/-- An event, or a factory that makes something else from now on. -/
inductive Use
  | event (e : Event)
  | makes (ranFunctionId : UInt32) (made : Option ServiceModel)
  deriving DecidableEq, Repr

def use (r : SmRegistry) : Use → Option SmRegistry
  | .event e => r.step e
  | .makes ranFunctionId made =>
    if ranFunctionId ∈ r.factories then
      some { r with factories := r.factories.insert ranFunctionId made }
    else none

end SmRegistry

end LibE3
