import LibE3.SubscriptionManager
import LibE3.SmRegistry
import Mathlib.Logic.Function.Basic

/-!
# The Service Model lifecycle

A call on the manager decides under the lock which RAN functions to check, and makes the checks
and the callbacks after the unlock. `History` runs each call to completion and records its
callbacks. `Threads` is the same code on two threads: the inbound thread, which handles the
messages of the dApps, and the expiry thread, which sweeps.
-/

namespace LibE3

open SubscriptionManager

/-- The callbacks of a call when nothing else runs before it returns. -/
def Locked.callbacks {ρ : Type} (r : Locked ρ) : List (UInt32 × Bool) :=
  r.checks.filterMap r.mgr.checkSmLifecycle

/-! ## Calls run to completion -/

/-- A manager whose callback is installed, and the callbacks it has made. -/
structure History where
  mgr : SubscriptionManager
  trace : List (UInt32 × Bool)

namespace History

def fresh : History := ⟨SubscriptionManager.fresh, []⟩

/-- A call other than `clear`, run to completion. -/
def step (h : History) (op : Operation) : Option History :=
  if op.Possible h.mgr ∧ op ≠ .clear then
    some ⟨(op.exec h.mgr).mgr, h.trace ++ (op.exec h.mgr).callbacks⟩
  else none

end History

/-- The callbacks of a trace for one RAN function: `true` is a start, `false` a stop. -/
def callbacksFor (f : UInt32) (trace : List (UInt32 × Bool)) : List Bool :=
  (trace.filter fun c => c.1 = f).map Prod.snd

/-! ## Two threads -/

inductive Thread
  | inbound | expiry
  deriving DecidableEq, Repr

def Thread.other : Thread → Thread
  | inbound => expiry
  | expiry => inbound

/-- What a thread still has to do after the unlock of its call: checks to make, and the callback
of the last check if it is not made yet. -/
structure Worker where
  checks : List (UInt32 × Bool)
  callback : Option (UInt32 × Bool)
  deriving DecidableEq, Repr

def Worker.idle : Worker := ⟨[], none⟩

structure Threads where
  mgr : SubscriptionManager
  registry : SmRegistry
  worker : Thread → Worker

namespace Threads

/-- The calls the inbound thread makes for the messages of the dApps. -/
def IsInbound : Operation → Bool
  | .addSubscription .. => true
  | .removeSubscriptionById .. => true
  | .unregisterDapp .. => true
  | _ => false

inductive Label
  /-- The setup thread registers a dApp. -/
  | setup
  /-- The inbound thread runs the locked section of a call. -/
  | inbound (op : Operation)
  /-- The expiry thread runs the locked section of a sweep. -/
  | expiry (now : TimePoint) (order : List UInt64)
  /-- The thread makes its next check: it looks at the subscribers as they are now. -/
  | recheck (t : Thread)
  /-- The thread makes the callback it decided on. -/
  | deliver (t : Thread)
  deriving DecidableEq, Repr

/-- A thread with nothing left to do runs the locked section of a call. -/
def call (s : Threads) (t : Thread) (op : Operation) : Option Threads :=
  if s.worker t = .idle ∧ op.Possible s.mgr then
    some { s with
      mgr := (op.exec s.mgr).mgr
      worker := Function.update s.worker t ⟨(op.exec s.mgr).checks, none⟩ }
  else none

def step (s : Threads) : Label → Option Threads
  | .setup => some { s with mgr := s.mgr.registerDapp.mgr }
  | .inbound op => if IsInbound op then s.call .inbound op else none
  | .expiry now order => s.call .expiry (.expireSubscriptions now order)
  | .recheck t =>
    match s.worker t with
    | ⟨c :: cs, none⟩ =>
      some { s with worker := Function.update s.worker t ⟨cs, s.mgr.checkSmLifecycle c⟩ }
    | _ => none
  | .deliver t =>
    match s.worker t with
    | ⟨cs, some change⟩ =>
      some { s with
        registry := s.registry.onSmLifecycleChange change
        worker := Function.update s.worker t ⟨cs, none⟩ }
    | _ => none

/-- No operation is in progress. -/
def Quiescent (s : Threads) : Prop := ∀ t, s.worker t = .idle

/-- A fresh manager over Service Models that are registered and not started. -/
def start (registry : SmRegistry) : Threads := ⟨.fresh, registry, fun _ => .idle⟩

end Threads

end LibE3
