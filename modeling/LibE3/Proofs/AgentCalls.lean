import LibE3.Agent
import LibE3.Lib.Partial

/-!
# What a call leaves of an agent

Every call but a setter leaves the agent with the handlers it had, and with the interface it had or
a new one, which has the state of its role and the handlers of the agent. So an interface has the
state of its role and no other, and a setter that clears a handler of the interface is the only call
after which the two disagree.
-/

namespace LibE3.Agent

open Runs

variable {H : HandlerKind → Type}

/-! ## What is kept of an interface -/

namespace Interface

/-- The interface has the state of its role, and of no other. -/
structure OneRole (i : Interface H) : Prop where
  manager : i.subscriptionManager.isSome = true ↔ i.config.role = .ran
  dapp : i.dappState.isSome = true ↔ i.config.role = .dapp

/-- The interface keeps its configuration, its handlers and which of its pointers are null. -/
structure Keeps (i j : Interface H) : Prop where
  config : j.config = i.config
  manager : j.subscriptionManager.isSome = i.subscriptionManager.isSome
  dapp : j.dappState.isSome = i.dappState.isSome
  handlers : j.handlers = i.handlers

theorem Keeps.refl (i : Interface H) : i.Keeps i := ⟨rfl, rfl, rfl, rfl⟩

theorem Keeps.trans {i j l : Interface H} (h : i.Keeps j) (h' : j.Keeps l) : i.Keeps l :=
  ⟨h'.config.trans h.config, h'.manager.trans h.manager, h'.dapp.trans h.dapp,
    h'.handlers.trans h.handlers⟩

theorem OneRole.of_keeps {i j : Interface H} (h : i.OneRole) (hk : i.Keeps j) : j.OneRole :=
  ⟨by rw [hk.manager, hk.config, h.manager], by rw [hk.dapp, hk.config, h.dapp]⟩

theorem OneRole.exactly_one {i : Interface H} (h : i.OneRole) :
    (i.subscriptionManager.isSome = true ∧ i.dappState = none) ∨
      (i.subscriptionManager = none ∧ i.dappState.isSome = true) := by
  rcases hrole : i.config.role with _ | _
  · refine .inl ⟨h.manager.mpr hrole, Option.not_isSome_iff_eq_none.mp fun hd => ?_⟩
    exact absurd (hrole.symm.trans (h.dapp.mp hd)) nofun
  · refine .inr ⟨Option.not_isSome_iff_eq_none.mp fun hm => ?_, h.dapp.mpr hrole⟩
    exact absurd (hrole.symm.trans (h.manager.mp hm)) nofun

theorem queueOutbound_config (e : E3Interface) (pdu : Pdu) :
    (e.queueOutbound pdu).2.config = e.config := by
  unfold E3Interface.queueOutbound
  split <;> rfl

theorem createConnector_config (e : E3Interface) (created : Bool) :
    (e.createConnectorFromConfig created).2.config = e.config := by
  unfold E3Interface.createConnectorFromConfig
  split_ifs <;> rfl

theorem renew_config (e : E3Interface) (created : Bool) :
    (e.renew created).2.config = e.config := by
  have hconn := createConnector_config e created
  unfold E3Interface.renew
  simp only
  split_ifs
  · exact hconn
  · exact hconn
  · rfl

theorem start_config (e : E3Interface) (created : Bool) (connResult : ErrorCode) :
    (e.start created connResult).2.config = e.config := by
  have hrenew := renew_config e created
  unfold E3Interface.start
  simp only
  split_ifs
  · rfl
  all_goals exact hrenew

theorem init_config (e : E3Interface) (encoder created : Bool) :
    (e.init encoder created).2.config = e.config := by
  unfold E3Interface.init
  simp only
  split_ifs
  any_goals rfl
  all_goals exact createConnector_config _ _

theorem stop_config (e : E3Interface) : e.stop.config = e.config := by
  unfold E3Interface.stop
  split_ifs <;> rfl

theorem keeps_resetSession (i : Interface H) : i.Keeps i.resetSession := by
  refine ⟨rfl, rfl, ?_, rfl⟩
  simp [resetSession]

theorem keeps_start (i : Interface H) (created : Bool) (connResult : ErrorCode) :
    i.Keeps (i.start created connResult).2 := by
  have hstarted : i.Keeps { i with toE3Interface := (i.toE3Interface.start created connResult).2 } :=
    ⟨start_config _ _ _, rfl, rfl, rfl⟩
  unfold start
  simp only
  split_ifs
  · exact .refl i
  · exact hstarted.trans (keeps_resetSession _)
  · exact hstarted

theorem keeps_stop (i : Interface H) (registry : SmRegistry) : i.Keeps (i.stop registry).1 := by
  unfold stop
  split_ifs
  · exact .refl i
  all_goals exact ⟨stop_config _, rfl, rfl, rfl⟩

theorem keeps_queueNumbered (i : Interface H) (stamp : UInt64) (choice : PduChoice) :
    i.Keeps (i.queueNumbered stamp choice).2 :=
  ⟨queueOutbound_config _ _, rfl, rfl, rfl⟩

theorem keeps_queueDapp (i : Interface H)
    (f : DApp → ErrorCode → ErrorCode × DApp × Option Pdu) : i.Keeps (i.queueDapp f).2.2 := by
  unfold queueDapp
  split
  · exact .refl i
  · rename_i s hs
    have hsome : true = i.dappState.isSome := by rw [hs]; rfl
    split
    · exact ⟨rfl, rfl, hsome, rfl⟩
    · exact ⟨queueOutbound_config _ _, rfl, hsome, rfl⟩

theorem keeps_queueDappReport (i : Interface H) (stamp : UInt64) (ranFunctionId : UInt32)
    (reportData : Bytes) (sequenceId : UInt32) :
    i.Keeps (i.queueDappReport stamp ranFunctionId reportData sequenceId).2.2 := by
  unfold queueDappReport
  split_ifs
  · exact .refl i
  · exact i.keeps_queueDapp _

theorem keeps_written (i : Interface H) (w : ThreadWrites) : i.Keeps (i.written w) := by
  refine ⟨rfl, ?_, ?_, rfl⟩
  · simp [written]
  · simp [written]

theorem oneRole_init {config : E3Config} {encoder created : Bool}
    (h : ((constructed config : Interface H).init encoder created).1 = .success) :
    ((constructed config : Interface H).init encoder created).2.OneRole
      ∧ ((constructed config : Interface H).init encoder created).2.config = config := by
  unfold init at h ⊢
  split_ifs at h ⊢ with hstate hencoder htexts
  simp only
  have hconfig : (allocateRoleState (constructed config : Interface H)).toE3Interface
      = .constructed config := by
    unfold allocateRoleState
    split_ifs <;> rfl
  rw [hconfig]
  refine ⟨⟨?_, ?_⟩, init_config _ _ _⟩
  · rw [init_config]
    unfold allocateRoleState
    split_ifs with hrole
    · exact iff_of_true rfl hrole
    · exact iff_of_false (by simp [constructed]) hrole
  · rw [init_config]
    unfold allocateRoleState
    split_ifs with hrole
    · exact iff_of_false (by simp [constructed]) fun hd => absurd (hrole.symm.trans hd) nofun
    · refine iff_of_true rfl ?_
      rcases hr : config.role with _ | _
      · exact absurd hr hrole
      · exact hr

end Interface

/-! ## What is kept of an agent -/

namespace Impl

/-- The agent keeps its configuration and handlers. Its interface is the one it had, as far as
`Keeps` says, or a new one that has the state of its role and the handlers of the agent. -/
structure Leads (a b : Impl H) : Prop where
  config : b.config = a.config
  handlers : b.handlers = a.handlers
  interface : ∀ j ∈ b.interface, (∃ i ∈ a.interface, i.Keeps j) ∨
    (a.interface = none ∧ j.OneRole ∧ j.config = a.config ∧ j.handlers = a.handlers)

theorem Leads.refl (a : Impl H) : a.Leads a := ⟨rfl, rfl, fun j hj => .inl ⟨j, hj, .refl j⟩⟩

theorem Leads.of_keeps {a : Impl H} {i j : Interface H} (hi : i ∈ a.interface) (h : i.Keeps j) :
    a.Leads { a with interface := some j } :=
  ⟨rfl, rfl, fun _ hl => .inl ⟨i, hi, Option.mem_some_iff.mp hl ▸ h⟩⟩

theorem Leads.then_keeps {a b : Impl H} (h : a.Leads b) {i j : Interface H} (hi : i ∈ b.interface)
    (hk : i.Keeps j) : a.Leads { b with interface := some j } := by
  refine ⟨h.config, h.handlers, fun l hl => ?_⟩
  obtain rfl := Option.mem_some_iff.mp hl
  rcases h.interface i hi with ⟨i', hi', hk'⟩ | ⟨hnone, hrole, hconfig, hhandlers⟩
  · exact .inl ⟨i', hi', hk'.trans hk⟩
  · exact .inr ⟨hnone, hrole.of_keeps hk, hk.config.trans hconfig, hk.handlers.trans hhandlers⟩

theorem mem_of_running {a : Impl H} {i : Interface H} (h : a.running = some i) :
    i ∈ a.interface :=
  (Option.filter_eq_some_iff.mp h).1

theorem forwardOne_handlers (a : Impl H) (i : Interface H) (k k' : HandlerKind) :
    (a.forwardOne i k').handlers k =
      if k = k' then (a.handlers k).or (i.handlers k) else i.handlers k := by
  unfold forwardOne
  by_cases hk : k = k'
  · subst hk
    rcases hh : a.handlers k with _ | f
    · simp
    · simp [Interface.setHandler]
  · rcases hh : a.handlers k' with _ | f
    · simp [hk]
    · simp [Interface.setHandler, hk]

theorem forward_handlers (a : Impl H) (k : HandlerKind) :
    ∀ (kinds : List HandlerKind) (i : Interface H), (a.forward i kinds).handlers k =
      if k ∈ kinds then (a.handlers k).or (i.handlers k) else i.handlers k
  | [], i => by simp [forward]
  | k' :: kinds, i => by
    have hrest := forward_handlers a k kinds (a.forwardOne i k')
    rw [forwardOne_handlers] at hrest
    refine hrest.trans ?_
    by_cases hk : k = k'
    · rcases hh : a.handlers k with _ | f
      · simp [hk]
      · simp [hk]
    · simp [hk]

theorem forward_fields (a : Impl H) : ∀ (kinds : List HandlerKind) (i : Interface H),
    (a.forward i kinds).config = i.config
      ∧ (a.forward i kinds).subscriptionManager = i.subscriptionManager
      ∧ (a.forward i kinds).dappState = i.dappState
  | [], i => ⟨rfl, rfl, rfl⟩
  | k :: kinds, i => by
    obtain ⟨hconfig, hmanager, hdapp⟩ := forward_fields a kinds (a.forwardOne i k)
    have hone : (a.forwardOne i k).config = i.config
        ∧ (a.forwardOne i k).subscriptionManager = i.subscriptionManager
        ∧ (a.forwardOne i k).dappState = i.dappState := by
      unfold forwardOne
      split
      · exact ⟨rfl, rfl, rfl⟩
      · exact ⟨rfl, rfl, rfl⟩
    exact ⟨hconfig.trans hone.1, hmanager.trans hone.2.1, hdapp.trans hone.2.2⟩

theorem mem_all (k : HandlerKind) : k ∈ HandlerKind.all := by
  cases k <;> simp [HandlerKind.all]

theorem constructed_init_handlers (config : E3Config) (encoder created : Bool) :
    ((Interface.constructed config : Interface H).init encoder created).2.handlers
      = fun _ => none := by
  unfold Interface.init Interface.allocateRoleState
  simp only
  split_ifs <;> rfl

theorem leads_init (a : Impl H) (encoder created : Bool) :
    a.Leads (a.init encoder created).2 := by
  unfold init
  rcases ha : a.interface with _ | i
  · simp only
    split_ifs with hresult
    · exact .refl a
    · rw [not_not] at hresult
      obtain ⟨hrole, hconfig⟩ := Interface.oneRole_init hresult
      refine ⟨rfl, rfl, fun j hj => .inr ⟨ha, ?_⟩⟩
      obtain rfl := Option.mem_some_iff.mp hj
      obtain ⟨hconfig', hmanager', hdapp'⟩ := forward_fields a HandlerKind.all
        ((Interface.constructed a.config).init encoder created).2
      refine ⟨⟨?_, ?_⟩, hconfig'.trans hconfig, ?_⟩
      · rw [hmanager', hconfig', hrole.manager]
      · rw [hdapp', hconfig', hrole.dapp]
      · funext k
        rw [forward_handlers, if_pos (mem_all k), constructed_init_handlers, Option.or_none]
  · exact .refl a

theorem leads_ensureInit (a : Impl H) (encoder created : Bool) :
    a.Leads (a.ensureInit encoder created).2 := by
  unfold ensureInit
  split_ifs
  · exact .refl a
  · exact leads_init a encoder created

theorem leads_start (a : Impl H) (encoder created : Bool) (connResult : ErrorCode) :
    a.Leads (a.start encoder created connResult).2 := by
  have hinit := leads_ensureInit a encoder created
  unfold start
  simp only
  rcases hb : (a.ensureInit encoder created).2.interface with _ | i
  · exact hinit
  · exact hinit.then_keeps hb (i.keeps_start created connResult)

theorem leads_stop (a : Impl H) (registry : SmRegistry) : a.Leads (a.stop registry).1 := by
  unfold stop
  rcases ha : a.interface with _ | i
  · exact .refl a
  · exact .of_keeps ha (i.keeps_stop registry)

theorem leads_registerSm (a : Impl H) (registry : SmRegistry) (sm : Option ServiceModel)
    (encoder created : Bool) : a.Leads (a.registerSm registry sm encoder created).2.1 := by
  unfold registerSm
  simp only
  split_ifs
  · exact .refl a
  · exact .refl a
  · exact leads_ensureInit a encoder created
  · exact leads_ensureInit a encoder created

theorem leads_sendNumbered (a : Impl H) (stamp : UInt64) (choice : PduChoice) :
    a.Leads (a.sendNumbered stamp choice).2 := by
  unfold sendNumbered
  rcases hr : a.running with _ | i
  · exact .refl a
  · exact .of_keeps (mem_of_running hr) (i.keeps_queueNumbered stamp choice)

theorem leads_sendIndication (a : Impl H) (stamp : UInt64) (dappId ranFunctionId : UInt32)
    (data : Bytes) : a.Leads (a.sendIndication stamp dappId ranFunctionId data).2 := by
  unfold sendIndication
  split_ifs
  · exact .refl a
  · exact leads_sendNumbered a _ _

theorem leads_sendXappControl (a : Impl H) (stamp : UInt64) (dappId ranFunctionId : UInt32)
    (controlData : Bytes) (sequenceId : UInt32) :
    a.Leads (a.sendXappControl stamp dappId ranFunctionId controlData sequenceId).2 := by
  unfold sendXappControl
  split_ifs
  · exact .refl a
  · exact leads_sendNumbered a _ _

theorem leads_queueAsDapp {a : Impl H} {f : Interface H → ErrorCode × Option UInt32 × Interface H}
    (h : ∀ i : Interface H, i.Keeps (f i).2.2) : a.Leads (a.queueAsDapp f).2.2 := by
  unfold queueAsDapp
  split_ifs
  · exact .refl a
  · rcases hr : a.running with _ | i
    · exact .refl a
    · exact .of_keeps (mem_of_running hr) (h i)

end Impl

/-! ## What a call leaves -/

namespace Process

theorem leads_call {p q : Process H} {c : Call H} {r : Result} (h : p.call c = .ok (r, q))
    (hc : ∀ k f, c ≠ .setHandler k f) : p.agent.Leads q.agent := by
  -- most calls only read
  have hread : ∀ {ρ : Type} {x : Except NullPointer ρ} {g : ρ → Result},
      (x.map fun v => (g v, p)) = .ok (r, q) → p.agent.Leads q.agent := by
    intro ρ x g hx
    obtain ⟨v, -, hv⟩ := Partial.map_eq_ok.mp hx
    rw [← (Prod.mk.inj hv).2]
    exact .refl _
  cases c with
  | setHandler k f => exact absurd rfl (hc k f)
  | getRegisteredDapps | getDappSubscriptions | getRanFunctionSubscribers | getActiveRanFunctions
  | getSubscriptionPeriodicity | getSubscriptionTelemetryIds | getSubscriptionControlIds
  | dappCount | subscriptionCount => exact hread h
  | state | isRunning | config | getAvailableRanFunctions | dappId | subscribedRanFunctions
  | activeSubscriptionIds | waitForSetup =>
    simp only [call, Except.ok.injEq, Prod.mk.injEq] at h
    rw [← h.2]
    exact .refl _
  | init encoder created =>
    simp only [call, returns, Except.ok.injEq, Prod.mk.injEq] at h
    rw [← h.2]
    exact Impl.leads_init _ encoder created
  | start encoder created connResult =>
    simp only [call, returns, Except.ok.injEq, Prod.mk.injEq] at h
    rw [← h.2]
    exact Impl.leads_start _ encoder created connResult
  | stop =>
    simp only [call, Except.ok.injEq, Prod.mk.injEq] at h
    rw [← h.2]
    exact Impl.leads_stop _ _
  | registerSm sm encoder created =>
    simp only [call, Except.ok.injEq, Prod.mk.injEq] at h
    rw [← h.2]
    exact Impl.leads_registerSm _ _ sm encoder created
  | sendIndication =>
    simp only [call, returns, Except.ok.injEq, Prod.mk.injEq] at h
    rw [← h.2]
    exact Impl.leads_sendIndication _ _ _ _ _
  | sendXappControl =>
    simp only [call, returns, Except.ok.injEq, Prod.mk.injEq] at h
    rw [← h.2]
    exact Impl.leads_sendXappControl _ _ _ _ _ _
  | sendMessageAck =>
    simp only [call, returns, Except.ok.injEq, Prod.mk.injEq] at h
    rw [← h.2]
    exact Impl.leads_sendNumbered _ _ _
  | subscribe | unsubscribe | sendControl | release =>
    simp only [call, returns, Except.ok.injEq, Prod.mk.injEq] at h
    rw [← h.2]
    refine Impl.leads_queueAsDapp fun i => ?_
    exact i.keeps_queueDapp _
  | sendReport =>
    simp only [call, returns, Except.ok.injEq, Prod.mk.injEq] at h
    rw [← h.2]
    exact Impl.leads_queueAsDapp fun i => i.keeps_queueDappReport _ _ _ _
  | threads writes registry =>
    simp only [call, Except.ok.injEq, Prod.mk.injEq] at h
    rw [← h.2]
    refine ⟨rfl, rfl, fun j hj => ?_⟩
    obtain ⟨i, hi, rfl⟩ := Option.mem_map.mp hj
    exact .inl ⟨i, hi, i.keeps_written writes⟩

theorem call_of_step {p q : Process H} {c : Call H} (h : p.step c = some q) :
    ∃ r, p.call c = .ok (r, q) := by
  unfold step at h
  rcases hc : p.call c with e | ⟨r, q'⟩
  · simp [hc, Except.toOption] at h
  · refine ⟨r, ?_⟩
    simp only [hc, Except.toOption, Option.map_some, Option.some_inj] at h
    rw [h]

end Process

end LibE3.Agent
