import LibE3.Proofs.AgentCalls

/-!
# The handlers in force

The agent keeps every handler that is set, the empty one too, and passes on to its interface those
that are not empty. So the interface goes on with the old handler after it was cleared, and this is
the only way in which the two come apart.
-/

namespace LibE3.Agent

open Runs

variable {H : HandlerKind → Type}

/-- The handler that a call sets for a kind, if it is a setter of that kind. -/
def setTo (k : HandlerKind) : Call H → Option (Option (H k))
  | .setHandler k' h => if hk : k' = k then some (hk ▸ h) else none
  | _ => none

/-- The last handler that the calls set for a kind, `none` if it was empty or if there is none. -/
def lastSet (k : HandlerKind) (calls : List (Call H)) : Option (H k) :=
  (calls.filterMap (setTo k)).getLast?.getD none

namespace Process

/-- The interface, if there is one, has the handlers of the agent. -/
def HandlersAgree (p : Process H) : Prop :=
  ∀ i ∈ p.agent.interface, i.handlers = p.agent.handlers

/-- The call does not clear a handler that the interface has. -/
def ClearsNothing (p : Process H) : Call H → Prop
  | .setHandler k none => ∀ i ∈ p.agent.interface, i.handlers k = none
  | _ => True

theorem handlersAgree_of_leads {p q : Process H} (hp : p.HandlersAgree)
    (h : p.agent.Leads q.agent) : q.HandlersAgree := by
  intro j hj
  rw [h.handlers]
  rcases h.interface j hj with ⟨i, hi, hk⟩ | ⟨-, -, -, hhandlers⟩
  · rw [hk.handlers, hp i hi]
  · exact hhandlers

theorem setHandler_handlersAgree {p : Process H} (hp : p.HandlersAgree) {k : HandlerKind}
    {h : Option (H k)} :
    HandlersAgree { p with agent := p.agent.setHandler k h }
      ↔ p.ClearsNothing (.setHandler k h) := by
  unfold HandlersAgree Impl.setHandler
  rcases h with _ | f
  · -- the interface keeps the handler it has
    simp only [ClearsNothing]
    constructor
    · intro hagree i hi
      have hk := congrFun (hagree i hi) k
      rwa [Function.update_self] at hk
    · intro hnone i hi
      rw [← hp i hi]
      exact (Function.update_eq_self_iff.mpr (hnone i hi).symm).symm
  · refine iff_of_true ?_ trivial
    intro j hj
    obtain ⟨i, hi, rfl⟩ := Option.mem_map.mp hj
    simp only [Interface.setHandler, hp i hi]

theorem handlersAgree_step {p q : Process H} {c : Call H} (hp : p.HandlersAgree)
    (h : p.step c = some q) : q.HandlersAgree ↔ p.ClearsNothing c := by
  obtain ⟨r, hcall⟩ := call_of_step h
  by_cases hset : ∃ k f, c = .setHandler k f
  · obtain ⟨k, f, rfl⟩ := hset
    simp only [call, returns, Except.ok.injEq, Prod.mk.injEq] at hcall
    rw [← hcall.2]
    exact setHandler_handlersAgree hp
  · have hother : ∀ k f, c ≠ .setHandler k f := fun k f hc => hset ⟨k, f, hc⟩
    refine iff_of_true (handlersAgree_of_leads hp (leads_call hcall hother)) ?_
    unfold ClearsNothing
    split
    · exact absurd rfl (hother _ _)
    · trivial

theorem handlers_step {p q : Process H} {c : Call H} (h : p.step c = some q) (k : HandlerKind) :
    q.agent.handlers k = (setTo k c).getD (p.agent.handlers k) := by
  obtain ⟨r, hcall⟩ := call_of_step h
  by_cases hset : ∃ k f, c = .setHandler k f
  · obtain ⟨k', f, rfl⟩ := hset
    simp only [call, returns, Except.ok.injEq, Prod.mk.injEq] at hcall
    rw [← hcall.2]
    unfold Impl.setHandler setTo
    by_cases hk : k' = k
    · subst hk
      simp
    · simp [hk, Ne.symm hk]
  · have hother : ∀ k f, c ≠ .setHandler k f := fun k f hc => hset ⟨k, f, hc⟩
    have hnone : setTo k c = none := by
      unfold setTo
      split
      · exact absurd rfl (hother _ _)
      · rfl
    rw [hnone, (leads_call hcall hother).handlers]
    rfl

theorem handlers_run (k : HandlerKind) : ∀ {calls : List (Call H)} {p q : Process H},
    run step p calls = some q →
      q.agent.handlers k = (calls.filterMap (setTo k)).getLast?.getD (p.agent.handlers k)
  | [], p, q, h => by
    obtain rfl := Option.some.inj h
    rfl
  | c :: calls, p, q, h => by
    obtain ⟨p', hstep, hrun⟩ := run_cons.mp h
    rw [handlers_run k hrun, handlers_step hstep k, List.filterMap_cons]
    rcases setTo k c with _ | f
    · rfl
    · simp only [Option.getD_some, List.getLast?_cons]

/-- For every sequence of calls that runs through, the handler in force in the interface is at every
moment the last one set of each kind, and none if the last one set was empty, if and only if no call
clears a handler that the interface has. -/
theorem last_handler_in_force_iff {config : E3Config} {registry : SmRegistry}
    {calls : List (Call H)} {p : Process H}
    (h : run step (constructed config registry) calls = some p) :
    (∀ before after, calls = before ++ after →
        ∀ q ∈ run step (constructed config registry) before,
          ∀ i ∈ q.agent.interface, ∀ k, i.handlers k = lastSet k before)
      ↔ Meets step ClearsNothing (constructed config registry) calls := by
  have hstart : (constructed config registry : Process H).HandlersAgree := fun i hi => nomatch hi
  have hlast : ∀ before, ∀ q ∈ run step (constructed config registry : Process H) before,
      ∀ k, q.agent.handlers k = lastSet k before := fun _ _ hq k => handlers_run k hq
  rw [← always_iff_meets handlersAgree_step hstart h, always_iff_forall_append]
  refine forall₄_congr fun before after _ q => forall_congr' fun hq => ?_
  constructor
  · intro hforce i hi
    funext k
    rw [hforce i hi k, hlast before q hq k]
  · intro hagree i hi k
    rw [hagree i hi, hlast before q hq k]

abbrev Numbered : HandlerKind → Type := fun _ => ℕ

/-- A RAN that is initialized with one handler for reports and given another one. -/
def replaced : List (Call Numbered) :=
  [.setHandler .dappReport (some 1), .init true true, .setHandler .dappReport (some 2)]

theorem last_handler_in_force_replaced :
    (run step (constructed { encoding := .json } .empty) replaced).isSome
      ∧ ∀ before after, replaced = before ++ after →
        ∀ q ∈ run step (constructed { encoding := .json } .empty) before,
          ∀ i ∈ q.agent.interface, ∀ k, i.handlers k = lastSet k before := by
  have hmeets : Meets step ClearsNothing (constructed { encoding := .json } .empty) replaced :=
    ⟨trivial, fun _ _ => ⟨trivial, fun _ _ => ⟨trivial, fun _ _ => trivial⟩⟩⟩
  obtain ⟨p, hrun⟩ : ∃ p, run step (constructed { encoding := .json } .empty) replaced = some p :=
    ⟨_, rfl⟩
  exact ⟨rfl, (last_handler_in_force_iff hrun).mpr hmeets⟩

def cleared : List (Call Numbered) :=
  [.setHandler .dappReport (some 1), .init true true, .setHandler .dappReport none]

/-- The interface still has the handler that was cleared. -/
theorem cleared_handler_in_force :
    ∃ p, run step (constructed { encoding := .json } .empty) cleared = some p
      ∧ lastSet .dappReport cleared = none
      ∧ p.agent.interface.map (fun i => i.handlers .dappReport) = some (some 1) :=
  ⟨_, rfl, rfl, rfl⟩

end Process

end LibE3.Agent
