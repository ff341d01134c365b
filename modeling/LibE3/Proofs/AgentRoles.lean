import LibE3.Proofs.AgentCalls

/-!
# Calls and the role of an agent

The calls that read the manager of a RAN or the state of a dApp look at the role first, with three
exceptions: the queries of the details of a subscription look only whether there is an interface. So
a sequence of calls is answered throughout exactly if it does not ask a dApp that is initialized for
the details of a subscription.
-/

namespace LibE3.Agent

open Runs

variable {H : HandlerKind → Type}

/-- The role that a call belongs to, for the calls that belong to one. -/
def Call.role : Call H → Option E3Role
  | .registerSm .. | .sendIndication .. | .sendXappControl .. | .getRegisteredDapps ..
  | .getDappSubscriptions .. | .getRanFunctionSubscribers .. | .getActiveRanFunctions ..
  | .getSubscriptionPeriodicity .. | .getSubscriptionTelemetryIds ..
  | .getSubscriptionControlIds .. => some .ran
  | .dappId | .subscribedRanFunctions .. | .activeSubscriptionIds .. | .waitForSetup ..
  | .subscribe .. | .unsubscribe .. | .sendControl .. | .sendReport .. | .release .. => some .dapp
  | _ => none

/-- The three queries of the details of a subscription. -/
def Call.readsDetails : Call H → Bool
  | .getSubscriptionPeriodicity .. | .getSubscriptionTelemetryIds ..
  | .getSubscriptionControlIds .. => true
  | _ => false

def Result.IsRefusal : Result → Prop
  | .code rc => rc ≠ .success
  | .queued rc mid => rc ≠ .success ∧ mid = none
  | .ids l => l = []
  | .number n => n = 0
  | .id o => o = none
  | _ => False

namespace Process

/-- The interface, if there is one, has the state of the role of the agent, and of no other. -/
def OneRole (p : Process H) : Prop :=
  ∀ i ∈ p.agent.interface, i.OneRole ∧ i.config = p.agent.config

/-- The call does not ask an initialized dApp for the details of a subscription. -/
def Guarded (p : Process H) (c : Call H) : Prop :=
  c.readsDetails = true → p.agent.interface.isSome = true → p.agent.config.role = .ran

/-- The calls are answered one after the other: no call reads through a null pointer, a call of the
other role returns an empty result or an error, and in every state there is the state of one role at
most, which is that of the agent. -/
def Answered (p : Process H) : List (Call H) → Prop
  | [] => p.OneRole
  | c :: calls => p.OneRole ∧ ∃ r q, p.call c = .ok (r, q)
      ∧ (∀ role ∈ c.role, role ≠ p.agent.config.role → r.IsRefusal) ∧ q.Answered calls

theorem oneRole_of_leads {p q : Process H} (hp : p.OneRole) (h : p.agent.Leads q.agent) :
    q.OneRole := by
  intro j hj
  rw [h.config]
  rcases h.interface j hj with ⟨i, hi, hk⟩ | ⟨-, hrole, hconfig, -⟩
  · exact ⟨(hp i hi).1.of_keeps hk, hk.config.trans (hp i hi).2⟩
  · exact ⟨hrole, hconfig⟩

theorem oneRole_call {p q : Process H} {c : Call H} {r : Result} (hp : p.OneRole)
    (h : p.call c = .ok (r, q)) : q.OneRole := by
  by_cases hset : ∃ k f, c = .setHandler k f
  · obtain ⟨k, f, rfl⟩ := hset
    simp only [call, returns, Except.ok.injEq, Prod.mk.injEq] at h
    rw [← h.2]
    intro j hj
    rcases f with _ | f
    · exact hp j hj
    · obtain ⟨i, hi, rfl⟩ := Option.mem_map.mp hj
      exact ⟨⟨(hp i hi).1.manager, (hp i hi).1.dapp⟩, (hp i hi).2⟩
  · exact oneRole_of_leads hp (leads_call h fun k f hc => hset ⟨k, f, hc⟩)

variable {p : Process H}

theorem manager_of_ran (hp : p.OneRole) {i : Interface H} (hi : i ∈ p.agent.interface)
    (hrole : p.agent.config.role = .ran) : ∃ m, i.manager = .ok m := by
  obtain ⟨hone, hconfig⟩ := hp i hi
  obtain ⟨m, hm⟩ := Option.isSome_iff_exists.mp (hone.manager.mpr (hconfig ▸ hrole))
  exact ⟨m, by rw [Interface.manager, hm]⟩

theorem manager_of_dapp (hp : p.OneRole) {i : Interface H} (hi : i ∈ p.agent.interface)
    (hrole : p.agent.config.role ≠ .ran) :
    i.manager = .error .subscriptionManager := by
  obtain ⟨hone, hconfig⟩ := hp i hi
  rcases hone.exactly_one with ⟨hm, -⟩ | ⟨hnone, -⟩
  · exact absurd (hconfig ▸ hone.manager.mp hm) hrole
  · rw [Interface.manager, hnone]

theorem askManager_answered (hp : p.OneRole) (query : SubscriptionManager → List UInt32) :
    ∃ l, p.agent.askManager query = .ok l ∧ (p.agent.config.role ≠ .ran → l = []) := by
  unfold Impl.askManager
  rcases hi : p.agent.interface with _ | i
  · exact ⟨[], rfl, fun _ => rfl⟩
  · simp only
    split_ifs with hrole
    · exact ⟨[], rfl, fun _ => rfl⟩
    · rw [not_not] at hrole
      obtain ⟨m, hm⟩ := manager_of_ran hp hi hrole
      exact ⟨query m, by rw [hm]; rfl, fun h => absurd hrole h⟩

/-- A query of the details is answered if there is no interface or the agent is a RAN. -/
theorem askDetails_answered {ρ : Type} (hp : p.OneRole) (dappId rf : UInt32) (absent : ρ)
    (read : SubscriptionDetails → ρ)
    (hguard : p.agent.interface.isSome = true → p.agent.config.role = .ran) :
    ∃ v, p.agent.askDetails dappId rf absent read = .ok v
      ∧ (p.agent.config.role ≠ .ran → v = absent) := by
  unfold Impl.askDetails
  rcases hi : p.agent.interface with _ | i
  · exact ⟨absent, rfl, fun _ => rfl⟩
  · have hrole := hguard (by rw [hi]; rfl)
    obtain ⟨m, hm⟩ := manager_of_ran hp hi hrole
    simp only [hm, Except.map]
    exact ⟨_, rfl, fun h => absurd hrole h⟩

theorem askDetails_faults {ρ : Type} (hp : p.OneRole) (dappId rf : UInt32) (absent : ρ)
    (read : SubscriptionDetails → ρ) (hi : p.agent.interface.isSome = true)
    (hrole : p.agent.config.role ≠ .ran) :
    p.agent.askDetails dappId rf absent read = .error .subscriptionManager := by
  obtain ⟨i, hi⟩ := Option.isSome_iff_exists.mp hi
  unfold Impl.askDetails
  rw [hi]
  simp only
  rw [manager_of_dapp hp hi hrole]
  rfl

theorem dappCount_answered (hp : p.OneRole) : ∃ n, p.agent.dappCount = .ok n := by
  unfold Impl.dappCount
  rcases hi : p.agent.interface with _ | i
  · exact ⟨0, rfl⟩
  · simp only
    split_ifs with hrole
    · obtain ⟨m, hm⟩ := manager_of_ran hp hi hrole
      exact ⟨_, by rw [hm]; rfl⟩
    all_goals exact ⟨_, rfl⟩

theorem subscriptionCount_answered (hp : p.OneRole) (order : List UInt32) :
    ∃ n, p.agent.subscriptionCount order = .ok n := by
  unfold Impl.subscriptionCount
  rcases hi : p.agent.interface with _ | i
  · exact ⟨0, rfl⟩
  · simp only
    split_ifs with hrole
    · obtain ⟨m, hm⟩ := manager_of_ran hp hi hrole
      exact ⟨_, by rw [hm]; rfl⟩
    · exact ⟨_, rfl⟩

variable {a : Impl H}

theorem registerSm_refused {registry : SmRegistry} {sm : Option ServiceModel}
    {encoder created : Bool} (hrole : a.config.role ≠ .ran) :
    (a.registerSm registry sm encoder created).1 ≠ .success := by
  unfold Impl.registerSm
  simp only [hrole, ne_eq, not_false_eq_true, if_true]
  split_ifs <;> exact nofun

theorem sendIndication_refused {stamp : UInt64} {dappId rf : UInt32} {data : Bytes}
    (hrole : a.config.role ≠ .ran) : (a.sendIndication stamp dappId rf data).1 ≠ .success := by
  unfold Impl.sendIndication
  rw [if_pos hrole]
  exact nofun

theorem sendXappControl_refused {stamp : UInt64} {dappId rf : UInt32} {data : Bytes}
    {sequenceId : UInt32} (hrole : a.config.role ≠ .ran) :
    (a.sendXappControl stamp dappId rf data sequenceId).1 ≠ .success := by
  unfold Impl.sendXappControl
  rw [if_pos hrole]
  exact nofun

theorem dappId_refused (hrole : a.config.role ≠ .dapp) : a.dappId = none := by
  unfold Impl.dappId
  split
  · rfl
  · rw [if_pos hrole]

theorem subscribedRanFunctions_refused {order : List UInt32} (hrole : a.config.role ≠ .dapp) :
    a.subscribedRanFunctions order = [] := by
  unfold Impl.subscribedRanFunctions
  split
  · rfl
  · rw [if_pos hrole]

theorem activeSubscriptionIds_refused {order : List UInt32} (hrole : a.config.role ≠ .dapp) :
    a.activeSubscriptionIds order = [] := by
  unfold Impl.activeSubscriptionIds
  split
  · rfl
  · rw [if_pos hrole]

theorem waitForSetup_refused {complete succeeded : Bool} (hrole : a.config.role ≠ .dapp) :
    a.waitForSetup complete succeeded ≠ .success := by
  unfold Impl.waitForSetup
  rw [if_pos hrole]
  exact nofun

theorem queueAsDapp_refused {f : Interface H → ErrorCode × Option UInt32 × Interface H}
    (hrole : a.config.role ≠ .dapp) :
    (a.queueAsDapp f).1 ≠ .success ∧ (a.queueAsDapp f).2.1 = none := by
  unfold Impl.queueAsDapp
  rw [if_pos hrole]
  exact ⟨nofun, rfl⟩

theorem call_answered (hp : p.OneRole) {c : Call H} (hc : p.Guarded c) :
    ∃ r q, p.call c = .ok (r, q)
      ∧ (∀ role ∈ c.role, role ≠ p.agent.config.role → r.IsRefusal) := by
  -- a call of one role: the answer, and why it is a refusal in the other one
  have hother : ∀ {role : E3Role} {r : Result}, (p.agent.config.role ≠ role → r.IsRefusal) →
      ∀ role' ∈ some role, role' ≠ p.agent.config.role → r.IsRefusal := by
    rintro role r h role' hrole' hne
    obtain rfl := Option.mem_some_iff.mp hrole'
    exact h hne.symm
  have hnone : ∀ {r : Result}, ∀ role ∈ (none : Option E3Role),
      role ≠ p.agent.config.role → r.IsRefusal := by
    intro r role hrole
    cases hrole
  cases c with
  | init | start | stop | state | isRunning | config | getAvailableRanFunctions | setHandler
  | sendMessageAck | threads => exact ⟨_, _, rfl, hnone⟩
  | dappCount =>
    obtain ⟨n, hn⟩ := dappCount_answered hp
    exact ⟨.number n, p, by simp only [call, hn, Except.map], hnone⟩
  | subscriptionCount order =>
    obtain ⟨n, hn⟩ := subscriptionCount_answered hp order
    exact ⟨.number n, p, by simp only [call, hn, Except.map], hnone⟩
  | getRegisteredDapps | getDappSubscriptions | getRanFunctionSubscribers
  | getActiveRanFunctions =>
    obtain ⟨l, hl, hempty⟩ := askManager_answered hp _
    exact ⟨.ids l, p, Partial.map_eq_ok.mpr ⟨l, hl, rfl⟩, hother hempty⟩
  | getSubscriptionPeriodicity dappId ranFunctionId =>
    obtain ⟨n, hn, hzero⟩ := askDetails_answered hp dappId ranFunctionId 0
      SubscriptionDetails.periodicityUs (hc rfl)
    refine ⟨.number n.toNat, p, Partial.map_eq_ok.mpr ⟨n, hn, rfl⟩, hother fun hrole => ?_⟩
    rw [hzero hrole]
    rfl
  | getSubscriptionTelemetryIds dappId ranFunctionId =>
    obtain ⟨l, hl, hempty⟩ := askDetails_answered hp dappId ranFunctionId []
      SubscriptionDetails.telemetryIds (hc rfl)
    exact ⟨.ids l, p, Partial.map_eq_ok.mpr ⟨l, hl, rfl⟩, hother hempty⟩
  | getSubscriptionControlIds dappId ranFunctionId =>
    obtain ⟨l, hl, hempty⟩ := askDetails_answered hp dappId ranFunctionId []
      SubscriptionDetails.controlIds (hc rfl)
    exact ⟨.ids l, p, Partial.map_eq_ok.mpr ⟨l, hl, rfl⟩, hother hempty⟩
  | registerSm => exact ⟨_, _, rfl, hother registerSm_refused⟩
  | sendIndication => exact ⟨_, _, rfl, hother sendIndication_refused⟩
  | sendXappControl => exact ⟨_, _, rfl, hother sendXappControl_refused⟩
  | dappId => exact ⟨_, _, rfl, hother dappId_refused⟩
  | subscribedRanFunctions => exact ⟨_, _, rfl, hother subscribedRanFunctions_refused⟩
  | activeSubscriptionIds => exact ⟨_, _, rfl, hother activeSubscriptionIds_refused⟩
  | waitForSetup => exact ⟨_, _, rfl, hother waitForSetup_refused⟩
  | subscribe | sendControl | sendReport => exact ⟨_, _, rfl, hother queueAsDapp_refused⟩
  | unsubscribe | release =>
    exact ⟨_, _, rfl, hother fun hrole => (queueAsDapp_refused hrole).1⟩

theorem call_faults (hp : p.OneRole) {c : Call H} (hc : ¬ p.Guarded c) :
    p.call c = .error .subscriptionManager := by
  unfold Guarded at hc
  push Not at hc
  obtain ⟨hreads, hi, hrole⟩ := hc
  cases c with
  | getSubscriptionPeriodicity | getSubscriptionTelemetryIds | getSubscriptionControlIds =>
    exact Partial.map_eq_error.mpr (askDetails_faults hp _ _ _ _ hi hrole)
  | _ => exact absurd hreads (by simp [Call.readsDetails])

theorem answered_iff_meets : ∀ {calls : List (Call H)} {p : Process H}, p.OneRole →
    (p.Answered calls ↔ Meets step Guarded p calls)
  | [], p, hp => iff_of_true hp trivial
  | c :: calls, p, hp => by
    constructor
    · rintro ⟨-, r, q, hcall, -, hrest⟩
      refine ⟨?_, fun q' hq' => ?_⟩
      · by_contra hguard
        rw [call_faults hp hguard] at hcall
        exact absurd hcall nofun
      · obtain ⟨r', hcall'⟩ := call_of_step hq'
        rw [hcall] at hcall'
        obtain ⟨-, rfl⟩ := Prod.mk.inj (Except.ok.inj hcall')
        exact (answered_iff_meets (oneRole_call hp hcall)).mp hrest
    · rintro ⟨hguard, hrest⟩
      obtain ⟨r, q, hcall, hrefusal⟩ := call_answered hp hguard
      refine ⟨hp, r, q, hcall, hrefusal, ?_⟩
      refine (answered_iff_meets (oneRole_call hp hcall)).mpr (hrest q ?_)
      simp [step, hcall, Except.toOption]

/-- For every sequence of calls of an agent in either role, with any arguments and whatever its
threads do in between: every call is answered without a read through a null pointer, and a call of
the other role with an empty result or an error, while from `init()` on there is the state of the
agent's own role alone, if and only if no initialized dApp is asked for the details of a
subscription. -/
theorem calls_answered_iff (config : E3Config) (registry : SmRegistry) (calls : List (Call H)) :
    (constructed config registry).Answered calls
      ↔ Meets step Guarded (constructed config registry) calls :=
  answered_iff_meets fun _ hi => nomatch hi

/-- A dApp that is initialized and asked for the periodicity of a subscription. -/
theorem periodicity_of_dapp :
    ∃ p : Process fun _ => Unit,
      run step (constructed { role := .dapp, encoding := .json } .empty) [.init true true] = some p
        ∧ p.agent.interface.isSome = true
        ∧ p.call (.getSubscriptionPeriodicity 1 1) = .error .subscriptionManager :=
  ⟨_, rfl, rfl, rfl⟩

end Process

end LibE3.Agent
