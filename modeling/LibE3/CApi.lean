import LibE3.Ran

/-!
# Service Model handles of the C API

A caller in C creates a Service Model, gets a handle to it, and hands it to an agent or destroys it.
`e3_agent_register_sm` wraps the handle in a `unique_ptr` and passes that on by value, so whichever
function returns without having stored it destroys the object. A call that reads an object after its
destruction is a fault.
-/

namespace LibE3

/-- `E3Agent`, as far as a registration reads it. -/
structure E3Agent where
  config : E3Config
  initialized : Bool := false

namespace E3Agent

/-- `E3Agent::init` with the `init` of its interface. `encoder` and `connector` say whether creating
them succeeds. -/
def init (a : E3Agent) (encoder connector : Bool) : ErrorCode × E3Agent :=
  if a.initialized then (.alreadyInitialized, a)
  else if !encoder then (.internalError, a)
  else if !a.config.textsFit then (.invalidParam, a)
  else if !connector then (.internalError, a)
  else (.success, { a with initialized := true })

/-- What a function that took the object by value leaves: its result, the agent, the registry, and
whether the registry has the object now. -/
structure Registered where
  result : ErrorCode
  agent : E3Agent
  registry : SmRegistry
  stored : Bool

/-- `E3Agent::register_sm`, for an object that is there. -/
def registerSm (a : E3Agent) (registry : SmRegistry) (encoder connector : Bool)
    (sm : ServiceModel) : Registered :=
  if a.config.role ≠ .ran then ⟨.stateError, a, registry, false⟩
  else
    let (initResult, a) := if a.initialized then (.success, a) else a.init encoder connector
    if initResult ≠ .success then ⟨initResult, a, registry, false⟩
    else
      let (result, registry) := registry.registerSm (some sm)
      ⟨result, a, registry, result = .success⟩

end E3Agent

/-- What the caller knows of a handle: it has used it for nothing yet, a registration has failed, or
it must not use it any more. -/
inductive View
  | created | refused | done
  deriving DecidableEq, Repr

/-- The object behind a handle. `destroyed` counts how often its destructor ran, and `view` is what
its caller knows. -/
structure Object where
  sm : ServiceModel
  transferredToAgent : Bool := false
  inRegistry : Bool := false
  destroyed : ℕ := 0
  view : View := .created
  deriving DecidableEq, Repr

/-- The objects that C callers have created, the agents of the process and its registry. A handle is
a position in `objects`. -/
structure CApi where
  objects : List Object
  agents : List E3Agent
  registry : SmRegistry
  fault : Bool := false

namespace CApi

/-- `e3_service_model_create_from_c`; a null descriptor is `none`. -/
def createFromC (s : CApi) (desc : Option ServiceModel) (allocated : Bool) : Option ℕ × CApi :=
  match desc with
  | none => (none, s)
  | some sm =>
    if allocated then (some s.objects.length, { s with objects := s.objects ++ [{ sm := sm }] })
    else (none, s)

/-- The delete of an object. -/
def delete (s : CApi) (h : ℕ) : CApi :=
  { s with objects := s.objects.modify h fun o => { o with destroyed := o.destroyed + 1 } }

/-- `e3_service_model_destroy`; null is `none`. -/
def destroy (s : CApi) : Option ℕ → CApi
  | none => s
  | some h =>
    match s.objects[h]? with
    | none => s
    | some o =>
      if o.destroyed > 0 then { s with fault := true }
      else if o.transferredToAgent then s
      else s.delete h

/-- The second half of `e3_agent_register_sm`. `raised` is an exception on the way to the registry,
which the unwinding answers with the destruction of the object. -/
def transfer (s : CApi) (i h : ℕ) (a : E3Agent) (sm : ServiceModel)
    (encoder connector raised : Bool) : ErrorCode × CApi :=
  let s := { s with objects := s.objects.modify h fun o => { o with transferredToAgent := true } }
  if raised then (.internalError, s.delete h)
  else
    let out := a.registerSm s.registry encoder connector sm
    let s := { s with agents := s.agents.set i out.agent, registry := out.registry }
    if out.stored then
      (out.result,
        { s with objects := s.objects.modify h fun o => { o with inRegistry := true } })
    else (out.result, s.delete h)

/-- `e3_agent_register_sm`; null is `none`. -/
def registerSm (s : CApi) (agent handle : Option ℕ) (encoder connector raised : Bool) :
    ErrorCode × CApi :=
  match agent, handle with
  | some i, some h =>
    match s.agents[i]?, s.objects[h]? with
    | some a, some o =>
      if o.destroyed > 0 then (.internalError, { s with fault := true })
      else
        let rfdLen := o.sm.ranFunctionData.length
        if rfdLen = 0 ∨ rfdLen > maxProtocolDataSize then (.invalidParam, s)
        else s.transfer i h a o.sm encoder connector raised
    | _, _ => (.invalidParam, s)
  | _, _ => (.invalidParam, s)

/-- The registry is cleared, as it is when an agent stops: it destroys what it holds. -/
def clear (s : CApi) : CApi :=
  { s with
    registry := s.registry.clear
    objects := s.objects.map fun o =>
      if o.inRegistry then { o with inRegistry := false, destroyed := o.destroyed + 1 } else o }

/-! ## Callers -/

/-- A call, with the choices of the environment. -/
inductive Call
  | createFromC (desc : Option ServiceModel) (allocated : Bool)
  | registerSm (agent handle : Option ℕ) (encoder connector raised : Bool)
  | destroy (handle : Option ℕ)
  | clear
  deriving DecidableEq, Repr

/-- What the caller has learnt about a handle. -/
def sees (s : CApi) (handle : Option ℕ) (view : View) : CApi :=
  match handle with
  | none => s
  | some h => { s with objects := s.objects.modify h fun o => { o with view := view } }

def step (s : CApi) : Call → Option CApi
  | .createFromC desc allocated => some (s.createFromC desc allocated).2
  | .registerSm agent handle encoder connector raised =>
    let out := s.registerSm agent handle encoder connector raised
    some (out.2.sees handle (if out.1 = .success then .done else .refused))
  | .destroy handle => some ((s.destroy handle).sees handle .done)
  | .clear => some s.clear

/-- The caller may use the handle: it was created, and it was neither registered with success nor
destroyed. -/
def MayUse (s : CApi) (handle : Option ℕ) : Prop :=
  ∀ h ∈ handle, ∃ o ∈ s.objects[h]?, o.view ≠ .done

instance (s : CApi) (handle : Option ℕ) : Decidable (s.MayUse handle) :=
  inferInstanceAs (Decidable (∀ h ∈ handle, ∃ o ∈ s.objects[h]?, o.view ≠ .done))

/-- The documented rule: a call is made only on a handle that may still be used. -/
def Follows (s : CApi) : Call → Prop
  | .registerSm _ handle _ _ _ => s.MayUse handle
  | .destroy handle => s.MayUse handle
  | _ => True

instance (s : CApi) : ∀ c, Decidable (s.Follows c)
  | .registerSm .. | .destroy _ => inferInstanceAs (Decidable (s.MayUse _))
  | .createFromC .. | .clear => inferInstanceAs (Decidable True)

/-- The documented rule at the end: a handle whose registration failed has been destroyed. -/
def Settled (s : CApi) : Prop := ∀ o ∈ s.objects, o.view ≠ .refused

instance (s : CApi) : Decidable s.Settled := inferInstanceAs (Decidable (∀ o ∈ s.objects, _))

/-- No call has read a destroyed object, and no object was destroyed twice. -/
def Safe (s : CApi) : Prop := s.fault = false ∧ ∀ o ∈ s.objects, o.destroyed ≤ 1

instance (s : CApi) : Decidable s.Safe := inferInstanceAs (Decidable (_ ∧ _))

/-- A process with these agents and this registry, in which no handle was created yet. -/
def initial (agents : List E3Agent) (registry : SmRegistry) : CApi := ⟨[], agents, registry, false⟩

end CApi

end LibE3
