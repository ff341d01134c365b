import LibE3.DAppThreads
import LibE3.Proofs.DAppSpec

/-!
# The end of a dApp session

`on_ran_gone` takes the session back in steps: the identifier and the subscriptions, the remembered
requests, the result of the setup, and last the call of the handler. The setup thread writes the
same state and does not look at `ran_gone_`, so what it writes after the step that takes it back
stays until the next `start()`. The call of the handler depends on `release_sent_` in the same way.
-/

namespace LibE3

open Runs

/-- What `on_ran_gone` does next, if the inbound thread is inside of it. -/
def InboundThread.stage : InboundThread → Option GoneStage
  | .gone _ next => some next
  | _ => none

/-- The inbound thread is at work on a subscription response. -/
def InboundThread.responding : InboundThread → Bool
  | .attributing _ => true
  | .recording _ _ => true
  | _ => false

@[simp] theorem InboundThread.stage_after (reason : DisconnectReason) :
    (InboundThread.after reason).stage = none := by
  cases reason <;> rfl

@[simp] theorem InboundThread.responding_after (reason : DisconnectReason) :
    (InboundThread.after reason).responding = false := by
  cases reason <;> rfl

theorem InboundThread.stage_of_responding {t : InboundThread} (h : t.responding = true) :
    t.stage = none := by
  cases t with
  | gone => exact absurd h nofun
  | _ => rfl

/-- No identifier and no subscription. -/
structure DAppSubscriptionState.Empty (s : DAppSubscriptionState) : Prop where
  id : s.assignedDappId = none
  byFunction : s.ranFunctionToSubscriptionId = ∅
  byId : s.subscriptionIdToRanFunction = ∅

theorem DAppSubscriptionState.Empty.expireStep {s : DAppSubscriptionState} (h : s.Empty)
    (now : TimePoint) (rfId : UInt32) : (expireStep now s rfId).Empty := by
  unfold DAppSubscriptionState.expireStep
  rw [h.byFunction]
  split
  · exact h
  · split_ifs
    · exact h
    · exact ⟨h.id, h.byFunction, h.byId⟩

theorem DAppSubscriptionState.Empty.expire {now : TimePoint} :
    ∀ (order : List UInt32) {s : DAppSubscriptionState}, s.Empty →
      (s.expireSubscriptions now order).Empty
  | [], _, h => h
  | rfId :: order, _, h => Empty.expire order (h.expireStep now rfId)

namespace DAppThreads

variable {s t : DAppThreads} {e : Event}

/-! ## The law and its condition -/

/-- What should hold from the end of a session up to the next `start()`. -/
structure Over (s : DAppThreads) : Prop where
  noId : s.dappId = none
  noSubscription : s.app.state.ranFunctionToSubscriptionId = ∅
    ∧ s.app.state.subscriptionIdToRanFunction = ∅
  refused : ∀ request, ∃ err, s.begin request = .error err
  notSetUp : s.waitForSetup ≠ .success

/-- A session that has ended, `on_ran_gone` having completed, is over, and the handler was called
once at most and not after a release. -/
structure EndsCleanly (s : DAppThreads) : Prop where
  ended : s.app.ranGone = true → s.inbound.stage = none → s.Over
  once : s.disconnects.length ≤ 1
  unreleased : ∀ d ∈ s.disconnects, d.2 = false

def Cleared (s : DAppThreads) : Prop :=
  s.app.ranGone = true ∧ s.inbound.stage ≠ some .clearSession

def Reset (s : DAppThreads) : Prop :=
  s.Cleared ∧ s.inbound.stage ≠ some .clearPending ∧ s.inbound.stage ≠ some .resetSetup

instance : Decidable s.Cleared := inferInstanceAs (Decidable (_ ∧ _))
instance : Decidable s.Reset := inferInstanceAs (Decidable (_ ∧ _))

/-- The step does not come too late for `on_ran_gone`. The setup thread stores nothing that
`on_ran_gone` has already taken back, `release_sent_` is set when it is tested after a release, and
no release is queued between that test and the call of the handler. -/
def InTime (s : DAppThreads) : Event → Prop
  | .setupResponds resp => resp.responseCode = .positive → ¬ s.Cleared
  | .setupFinishes => s.setup = .finishing true → ¬ s.Reset
  | .inbound _ => s.inbound.stage = some .testRelease → s.handler = true → s.released = true →
    s.app.releaseSent = true
  | .advance i queued => s.calls[i]? = some .pushRelease → queued = .success →
    s.inbound.stage ≠ some .callHandler
  | _ => True

instance (s : DAppThreads) : ∀ e, Decidable (s.InTime e)
  | .setupResponds resp =>
    inferInstanceAs (Decidable (resp.responseCode = .positive → ¬ s.Cleared))
  | .setupFinishes => inferInstanceAs (Decidable (s.setup = .finishing true → ¬ s.Reset))
  | .inbound _ => inferInstanceAs (Decidable (s.inbound.stage = some .testRelease →
    s.handler = true → s.released = true → s.app.releaseSent = true))
  | .advance i queued => inferInstanceAs (Decidable (s.calls[i]? = some .pushRelease →
    queued = .success → s.inbound.stage ≠ some .callHandler))
  | .running | .stop | .stopped | .setupGivesUp | .connected _ | .subscriptionResponse _
  | .release _ | .lost | .inboundStops | .expire _ _ | .call _ =>
    inferInstanceAs (Decidable True)

/-! ## What a step does -/

/-- What an event can do. `moves` is every step of the inbound thread outside of `on_ran_gone` that
changes nothing else; such a step is never late. -/
inductive Turn (s : DAppThreads) : Event → DAppThreads → Prop
  | same {e : Event} (htime : s.InTime e) : Turn s e s
  | running : Turn s .running { s with running := true }
  | stop : Turn s .stop { s with running := false, shouldStop := true }
  | stopped (h : s.setup = .done) : Turn s .stopped { s with setupComplete := true }
  | setupResponds {resp : SetupResponse} (h : s.setup = .requesting) :
    Turn s (.setupResponds resp)
      { s with app := s.app.handleSetupResponse resp, setup := .finishing true }
  | setupGivesUp (h : s.setup = .requesting) :
    Turn s .setupGivesUp { s with setup := .finishing false }
  | setupFinishes {gotResponse : Bool} (h : s.setup = .finishing gotResponse) :
    Turn s .setupFinishes
      { s with setupComplete := true, setupSucceeded := gotResponse, setup := .done }
  | moves {e : Event} {y : InboundThread} (htime : s.InTime e) (hfrom : s.inbound.stage = none)
    (hto : y.stage = none) (hresp : y.responding = true → s.dappId ≠ none) :
    Turn s e { s with inbound := y }
  | attributes {now : TimePoint} {resp : SubscriptionResponse} (h : s.inbound = .attributing resp) :
    Turn s (.inbound now)
      { s with
        app := { s.app with
          pendingSubscriptions := s.app.pendingSubscriptions.erase resp.requestId }
        inbound := .recording resp (s.app.pendingSubscriptions.lookup resp.requestId) }
  | records {now : TimePoint} {resp : SubscriptionResponse} {pending : Option PendingSubscriptionOp}
    (h : s.inbound = .recording resp pending) :
    Turn s (.inbound now)
      { s with
        app := { s.app with state := DApp.applyResponse s.app.state now pending resp }
        inbound := .receiving }
  | leaves {now : TimePoint} {reason : DisconnectReason} (h : s.inbound = .leaving reason)
    (hgone : s.app.ranGone = false) :
    Turn s (.inbound now)
      { s with app := { s.app with ranGone := true }, inbound := .gone reason .clearSession }
  | gone {now : TimePoint} {reason : DisconnectReason} {next : GoneStage}
    (h : s.inbound = .gone reason next) : Turn s (.inbound now) (s.goneStep reason next)
  | expire {now : TimePoint} {order : List UInt32} :
    Turn s (.expire now order)
      { s with app := { s.app with state := s.app.state.expireSubscriptions now order } }
  | call {request : Request} {call : AppCall} :
    Turn s (.call request) { s with calls := s.calls ++ [call] }
  | advance {i : ℕ} {queued : ErrorCode} {call : AppCall} (h : s.calls[i]? = some call) :
    Turn s (.advance i queued)
      { (s.advance call queued).1 with calls := s.calls.set i (s.advance call queued).2 }

theorem dappId_of_isForUs {id : UInt32} (h : s.app.isForUs id = true) : s.dappId ≠ none := by
  have hid : s.app.state.assignedDappId = some id := of_decide_eq_true h
  rw [dappId, hid]
  exact nofun

theorem turn_of_inboundStep {now : TimePoint} (h : s.inboundStep now = some t) :
    Turn s (.inbound now) t := by
  unfold inboundStep at h
  split at h
  · obtain rfl := Option.some.inj h
    exact .attributes ‹_›
  · obtain rfl := Option.some.inj h
    exact .records ‹_›
  · rename_i reason hin
    obtain rfl := Option.some.inj h
    split_ifs with hgone
    · exact .moves (fun hs => absurd hs (by rw [hin]; exact nofun)) (by rw [hin]; rfl)
        (InboundThread.stage_after reason) (by simp)
    · exact .leaves hin (by simpa using hgone)
  · obtain rfl := Option.some.inj h
    exact .gone ‹_›
  · exact absurd h nofun

theorem turn_of_step (h : s.step e = some t) : Turn s e t := by
  cases e with
  | running =>
    obtain rfl := Option.some.inj h
    exact .running
  | stop =>
    obtain rfl := Option.some.inj h
    exact .stop
  | stopped =>
    simp only [step] at h
    split at h
    · obtain rfl := Option.some.inj h
      exact .stopped ‹_›
    · exact absurd h nofun
  | setupResponds resp =>
    simp only [step] at h
    split at h
    · obtain rfl := Option.some.inj h
      exact .setupResponds ‹_›
    · exact absurd h nofun
  | setupGivesUp =>
    simp only [step] at h
    split at h
    · obtain rfl := Option.some.inj h
      exact .setupGivesUp ‹_›
    · exact absurd h nofun
  | setupFinishes =>
    simp only [step] at h
    split at h
    · obtain rfl := Option.some.inj h
      exact .setupFinishes ‹_›
    · exact absurd h nofun
  | connected succeeded =>
    simp only [step] at h
    split at h
    · rename_i hin
      obtain rfl := Option.some.inj h
      refine .moves trivial (by rw [hin]; rfl) ?_ ?_
      · cases succeeded <;> rfl
      · cases succeeded <;> exact nofun
    · exact absurd h nofun
  | subscriptionResponse resp =>
    simp only [step] at h
    split at h
    · rename_i hin
      obtain rfl := Option.some.inj h
      split_ifs with hus
      · exact .moves trivial (by rw [hin]; rfl) rfl fun _ => dappId_of_isForUs hus
      · exact .same trivial
    · exact absurd h nofun
  | release release =>
    simp only [step] at h
    split at h
    · rename_i hin
      obtain rfl := Option.some.inj h
      split_ifs
      · exact .moves trivial (by rw [hin]; rfl) rfl nofun
      · exact .same trivial
    · exact absurd h nofun
  | lost =>
    simp only [step] at h
    split at h
    · rename_i hin
      obtain rfl := Option.some.inj h
      refine .moves trivial (by rw [hin]; rfl) ?_ ?_
      · split_ifs <;> rfl
      · split_ifs <;> exact nofun
    · exact absurd h nofun
  | inboundStops =>
    simp only [step] at h
    split at h
    · rename_i hin
      split_ifs at h
      obtain rfl := Option.some.inj h
      exact .moves trivial (by rw [hin]; rfl) rfl nofun
    · exact absurd h nofun
  | inbound now => exact turn_of_inboundStep h
  | expire now order =>
    obtain rfl := Option.some.inj h
    exact .expire
  | call request =>
    simp only [step] at h
    split at h
    · obtain rfl := Option.some.inj h
      exact .same trivial
    · obtain rfl := Option.some.inj h
      exact .call
  | advance i queued =>
    simp only [step] at h
    split at h
    · exact absurd h nofun
    · obtain rfl := Option.some.inj h
      exact .advance ‹_›

/-- What a step of a call leaves alone. -/
structure Untouched (s t : DAppThreads) : Prop where
  state : t.app.state = s.app.state
  ranGone : t.app.ranGone = s.app.ranGone
  handler : t.handler = s.handler
  inbound : t.inbound = s.inbound
  setup : t.setup = s.setup
  complete : t.setupComplete = s.setupComplete
  succeeded : t.setupSucceeded = s.setupSucceeded
  disconnects : t.disconnects = s.disconnects

theorem untouched_advance (s : DAppThreads) (call : AppCall) (queued : ErrorCode) :
    s.Untouched (s.advance call queued).1 := by
  unfold advance
  split <;> (try split) <;> exact ⟨rfl, rfl, rfl, rfl, rfl, rfl, rfl, rfl⟩

theorem released_advance (s : DAppThreads) (call : AppCall) (queued : ErrorCode) :
    (s.advance call queued).1.released = s.released
      ∨ call = .pushRelease ∧ queued = .success ∧ (s.advance call queued).1.released = true := by
  cases call with
  | pushRelease =>
    by_cases hq : queued = .success
    · exact .inr ⟨rfl, hq, by simp only [advance, if_pos hq]⟩
    · exact .inl (by simp only [advance, if_neg hq])
  | lookup rf =>
    left
    simp only [advance]
    split <;> rfl
  | push mid =>
    left
    simp only [advance]
    split_ifs <;> rfl
  | remember _ | forget _ | send | storeRelease | undoRelease | returned => exact .inl rfl

/-! ## Steps in time -/

/-- What holds as long as every step comes in time. -/
structure Calm (s : DAppThreads) : Prop where
  begun : s.inbound.stage ≠ none → s.app.ranGone = true
  cleared : s.Cleared → s.app.state.Empty ∧ s.inbound.responding = false
  reset : s.Reset → s.setupSucceeded = false
  calling : s.inbound.stage = some .callHandler → s.released = false
  told : s.disconnects ≠ [] → s.app.ranGone = true ∧ s.inbound.stage = none
  once : s.disconnects.length ≤ 1
  unreleased : ∀ d ∈ s.disconnects, d.2 = false

namespace Calm

/-- A step of the inbound thread outside of `on_ran_gone`. -/
theorem moves {y : InboundThread} (h : s.Calm) (hfrom : s.inbound.stage = none)
    (hto : y.stage = none) (hresp : y.responding = true → s.dappId ≠ none) :
    Calm { s with inbound := y } := by
  have hcleared : Cleared { s with inbound := y } → s.Cleared := by
    rintro ⟨hgone, -⟩
    exact ⟨hgone, by rw [hfrom]; exact nofun⟩
  refine ⟨fun hne => absurd hto hne, ?_, ?_, ?_, ?_, h.once, h.unreleased⟩
  · intro hc
    have hempty := (h.cleared (hcleared hc)).1
    refine ⟨hempty, ?_⟩
    cases hy : y.responding with
    | false => rfl
    | true => exact absurd hempty.id (hresp hy)
  · rintro ⟨hc, -⟩
    refine h.reset ⟨hcleared hc, ?_⟩
    rw [hfrom]
    exact ⟨nofun, nofun⟩
  · intro hcall
    exact absurd (hto.symm.trans hcall) nofun
  · intro hne
    exact ⟨(h.told hne).1, hto⟩

theorem of_not_gone (h : s.Calm) (hgone : s.app.ranGone = false) (hsame : t.app.ranGone = false)
    (hstage : t.inbound.stage = none) (htold : t.disconnects = s.disconnects) : t.Calm := by
  have hnot : ¬ (t.app.ranGone = true) := by
    rw [hsame]
    exact nofun
  refine ⟨fun hne => absurd hstage hne, fun hc => absurd hc.1 hnot, fun hr => absurd hr.1.1 hnot,
    fun hcall => absurd (hstage.symm.trans hcall) nofun, ?_, ?_, ?_⟩
  · rw [htold]
    exact fun hne => absurd ((h.told hne).1.symm.trans hgone) nofun
  · rw [htold]
    exact h.once
  · rw [htold]
    exact h.unreleased

theorem ranGone_of_responding (h : s.Calm) (hresp : s.inbound.responding = true) :
    s.app.ranGone = false := by
  cases hgone : s.app.ranGone with
  | false => rfl
  | true =>
    have hstage := InboundThread.stage_of_responding hresp
    have hcleared : s.Cleared := ⟨hgone, by rw [hstage]; exact nofun⟩
    exact absurd ((h.cleared hcleared).2.symm.trans hresp) nofun

theorem congr (h : s.Calm) (hu : s.Untouched t)
    (hr : t.released = true → s.released = true ∨ s.inbound.stage ≠ some .callHandler) :
    t.Calm := by
  refine ⟨?_, ?_, ?_, ?_, ?_, ?_, ?_⟩
  · rw [hu.inbound, hu.ranGone]
    exact h.begun
  · rw [Cleared, hu.inbound, hu.ranGone, hu.state]
    exact h.cleared
  · rw [Reset, Cleared, hu.inbound, hu.ranGone, hu.succeeded]
    exact h.reset
  · intro hcall
    rw [hu.inbound] at hcall
    cases ht : t.released with
    | false => rfl
    | true =>
      rcases hr ht with hs | hne
      · exact absurd (hs.symm.trans (h.calling hcall)) nofun
      · exact absurd hcall hne
  · rw [hu.disconnects, hu.ranGone, hu.inbound]
    exact h.told
  · rw [hu.disconnects]
    exact h.once
  · rw [hu.disconnects]
    exact h.unreleased

/-- `on_ran_gone` returns. -/
theorem returns {reason : DisconnectReason} {told : List (DisconnectReason × Bool)} (h : s.Calm)
    (hreset : s.Reset) (honce : told.length ≤ 1) (hunreleased : ∀ d ∈ told, d.2 = false) :
    Calm { s with disconnects := told, inbound := .after reason } := by
  have hstage := InboundThread.stage_after reason
  refine ⟨fun hne => absurd hstage hne, ?_, fun _ => h.reset hreset, ?_, ?_, honce, hunreleased⟩
  · exact fun _ => ⟨(h.cleared hreset.1).1, InboundThread.responding_after reason⟩
  · exact fun hcall => absurd (hstage.symm.trans hcall) nofun
  · exact fun _ => ⟨hreset.1.1, hstage⟩

theorem goneStep {reason : DisconnectReason} {next : GoneStage} (h : s.Calm)
    (hin : s.inbound = .gone reason next)
    (htime : next = .testRelease → s.handler = true → s.released = true →
      s.app.releaseSent = true) :
    (s.goneStep reason next).Calm := by
  have hstage : s.inbound.stage = some next := by rw [hin]; rfl
  have hgone : s.app.ranGone = true := h.begun (by rw [hstage]; exact nofun)
  have hnone : s.disconnects = [] := by
    by_contra hne
    exact absurd (hstage.symm.trans (h.told hne).2) nofun
  have hresp : s.inbound.responding = false := by rw [hin]; rfl
  cases next with
  | clearSession =>
    refine ⟨fun _ => hgone, fun _ => ⟨⟨rfl, rfl, rfl⟩, rfl⟩, ?_, nofun, ?_, h.once, h.unreleased⟩
    · rintro ⟨-, hne, -⟩
      exact absurd rfl hne
    · exact fun hne => absurd hnone hne
  | clearPending =>
    have hcleared : s.Cleared := ⟨hgone, by rw [hstage]; exact nofun⟩
    refine ⟨fun _ => hgone, fun _ => ⟨(h.cleared hcleared).1, rfl⟩, ?_, nofun, ?_, h.once,
      h.unreleased⟩
    · rintro ⟨-, -, hne⟩
      exact absurd rfl hne
    · exact fun hne => absurd hnone hne
  | resetSetup =>
    have hcleared : s.Cleared := ⟨hgone, by rw [hstage]; exact nofun⟩
    exact ⟨fun _ => hgone, fun _ => ⟨(h.cleared hcleared).1, rfl⟩, fun _ => rfl, nofun,
      fun hne => absurd hnone hne, h.once, h.unreleased⟩
  | testRelease =>
    have hcleared : s.Cleared := ⟨hgone, by rw [hstage]; exact nofun⟩
    have hreset : s.Reset := ⟨hcleared, by rw [hstage]; exact ⟨nofun, nofun⟩⟩
    have honce := h.once
    have hunreleased := h.unreleased
    simp only [DAppThreads.goneStep]
    split_ifs with hsent hhandler
    · exact h.returns hreset honce hunreleased
    · have hreleased : s.released = false := by
        cases hr : s.released with
        | false => rfl
        | true => exact absurd (htime rfl hhandler hr) hsent
      refine ⟨fun _ => hgone, fun _ => ⟨(h.cleared hcleared).1, rfl⟩, fun _ => h.reset hreset,
        fun _ => hreleased, fun hne => absurd hnone hne, honce, hunreleased⟩
    · exact h.returns hreset honce hunreleased
  | callHandler =>
    have hcleared : s.Cleared := ⟨hgone, by rw [hstage]; exact nofun⟩
    have hreset : s.Reset := ⟨hcleared, by rw [hstage]; exact ⟨nofun, nofun⟩⟩
    have hreleased := h.calling hstage
    refine h.returns hreset ?_ ?_
    · rw [hnone]
      exact Nat.le_refl 1
    · intro d hd
      rw [hnone, List.nil_append, List.mem_singleton] at hd
      rw [hd]
      exact hreleased

end Calm

theorem calm_step (h : s.Calm) (htime : s.InTime e) (hstep : s.step e = some t) : t.Calm := by
  cases turn_of_step hstep with
  | same => exact h
  | running | stop | stopped | setupGivesUp | call =>
    exact ⟨h.begun, h.cleared, h.reset, h.calling, h.told, h.once, h.unreleased⟩
  | @setupResponds resp hsetup =>
    unfold DApp.handleSetupResponse
    split_ifs with hpos
    · -- A positive response is recorded before the session is cleared.
      refine ⟨h.begun, fun hc => absurd hc (htime hpos), h.reset, h.calling, h.told, h.once,
        h.unreleased⟩
    · exact ⟨h.begun, h.cleared, h.reset, h.calling, h.told, h.once, h.unreleased⟩
  | @setupFinishes gotResponse hsetup =>
    refine ⟨h.begun, h.cleared, ?_, h.calling, h.told, h.once, h.unreleased⟩
    intro hreset
    cases gotResponse with
    | false => rfl
    | true => exact absurd hreset (htime hsetup)
  | moves _ hfrom hto hresp => exact h.moves hfrom hto hresp
  | attributes hin =>
    have hgone := h.ranGone_of_responding (by rw [hin]; rfl)
    exact h.of_not_gone hgone hgone rfl rfl
  | records hin =>
    have hgone := h.ranGone_of_responding (by rw [hin]; rfl)
    exact h.of_not_gone hgone hgone rfl rfl
  | leaves hin hgone =>
    refine ⟨fun _ => rfl, fun hc => absurd rfl hc.2, fun hr => absurd rfl hr.1.2, nofun, ?_,
      h.once, h.unreleased⟩
    exact fun hne => absurd ((h.told hne).1.symm.trans hgone) nofun
  | @gone now reason next hin =>
    refine h.goneStep hin ?_
    rintro rfl
    exact htime (by rw [hin]; rfl)
  | expire =>
    exact ⟨h.begun, fun hc => ⟨(h.cleared hc).1.expire _, (h.cleared hc).2⟩, h.reset, h.calling,
      h.told, h.once, h.unreleased⟩
  | @advance i queued call hcall =>
    have hu := untouched_advance s call queued
    refine h.congr ⟨hu.state, hu.ranGone, hu.handler, hu.inbound, hu.setup, hu.complete,
      hu.succeeded, hu.disconnects⟩ ?_
    intro hr
    rcases released_advance s call queued with hsame | ⟨rfl, hq, -⟩
    · exact .inl (hsame.symm.trans hr)
    · exact .inr (htime hcall hq)

theorem calm_started (a : DApp) (handler : Bool) : (started a handler).Calm :=
  ⟨nofun, fun hc => absurd hc.1 nofun, fun hr => absurd hr.1.1 nofun, nofun, nofun, Nat.zero_le 1,
    nofun⟩

theorem begin_of_no_id (h : s.dappId = none) (request : Request) :
    ∃ err, s.begin request = .error err := by
  unfold begin
  split_ifs
  · exact ⟨_, rfl⟩
  · exact ⟨_, rfl⟩
  · rw [h]
    exact ⟨_, rfl⟩

theorem Calm.endsCleanly (h : s.Calm) : s.EndsCleanly := by
  refine ⟨?_, h.once, h.unreleased⟩
  intro hgone hstage
  have hcleared : s.Cleared := ⟨hgone, by rw [hstage]; exact nofun⟩
  have hreset : s.Reset := ⟨hcleared, by rw [hstage]; exact ⟨nofun, nofun⟩⟩
  have hempty := (h.cleared hcleared).1
  refine ⟨hempty.id, ⟨hempty.byFunction, hempty.byId⟩, begin_of_no_id hempty.id, ?_⟩
  intro hwait
  simp only [waitForSetup, h.reset hreset, Bool.false_eq_true, if_false] at hwait
  split_ifs at hwait

/-! ## A step that comes too late -/

/-- The trace of a step that came too late, which lasts up to the next `start()`. -/
inductive Doomed (s : DAppThreads) : Prop
  | hasId : s.Cleared → s.dappId ≠ none → Doomed s
  | setUp : s.Reset → s.setup = .done → s.setupComplete = true → s.setupSucceeded = true → Doomed s
  | calling : s.inbound.stage = some .callHandler → s.released = true → Doomed s
  | told {d : DisconnectReason × Bool} : d ∈ s.disconnects → d.2 = true → Doomed s

theorem doomed_of_late (hlate : ¬ s.InTime e) (hstep : s.step e = some t) :
    t.Doomed := by
  cases turn_of_step hstep with
  | same htime => exact absurd htime hlate
  | running | stop | stopped | setupGivesUp | call | expire => exact absurd trivial hlate
  | @setupResponds resp hsetup =>
    simp only [InTime, Classical.not_imp, not_not] at hlate
    obtain ⟨hpos, hcleared⟩ := hlate
    simp only [DApp.handleSetupResponse, if_pos hpos]
    exact .hasId hcleared nofun
  | @setupFinishes gotResponse hsetup =>
    simp only [InTime, Classical.not_imp, not_not] at hlate
    obtain ⟨htrue, hreset⟩ := hlate
    have hgot : gotResponse = true := SetupThread.finishing.inj (hsetup.symm.trans htrue)
    exact .setUp hreset rfl rfl hgot
  | moves htime _ _ _ => exact absurd htime hlate
  | attributes hin => exact absurd (fun hs => absurd hs (by rw [hin]; exact nofun)) hlate
  | records hin => exact absurd (fun hs => absurd hs (by rw [hin]; exact nofun)) hlate
  | leaves hin _ => exact absurd (fun hs => absurd hs (by rw [hin]; exact nofun)) hlate
  | @gone now reason next hin =>
    simp only [InTime, Classical.not_imp] at hlate
    obtain ⟨hstage, hhandler, hreleased, hsent⟩ := hlate
    rw [hin] at hstage
    obtain rfl : next = .testRelease := Option.some.inj hstage
    simp only [goneStep, if_neg hsent, if_pos hhandler]
    exact .calling rfl hreleased
  | @advance i queued call hcall =>
    simp only [InTime, Classical.not_imp, not_not] at hlate
    obtain ⟨hpush, hq, hstage⟩ := hlate
    obtain rfl : call = .pushRelease := Option.some.inj (hcall.symm.trans hpush)
    refine .calling ?_ ?_
    · exact (congrArg InboundThread.stage (untouched_advance s .pushRelease queued).inbound).trans
        hstage
    · simp only [DAppThreads.advance, if_pos hq]

def nextStage (s : DAppThreads) : GoneStage → Option GoneStage
  | .clearSession => some .clearPending
  | .clearPending => some .resetSetup
  | .resetSetup => some .testRelease
  | .testRelease => if s.app.releaseSent = false ∧ s.handler = true then some .callHandler else none
  | .callHandler => none

theorem stage_goneStep (s : DAppThreads) (reason : DisconnectReason) (next : GoneStage) :
    (s.goneStep reason next).inbound.stage = s.nextStage next := by
  cases next with
  | clearSession | clearPending | resetSetup => rfl
  | testRelease =>
    simp only [goneStep, nextStage]
    cases s.app.releaseSent <;> cases s.handler <;>
      first
        | exact InboundThread.stage_after reason
        | rfl
  | callHandler => exact InboundThread.stage_after reason

theorem ranGone_goneStep (s : DAppThreads) (reason : DisconnectReason) (next : GoneStage) :
    (s.goneStep reason next).app.ranGone = s.app.ranGone := by
  cases next with
  | clearSession | clearPending | resetSetup | callHandler => rfl
  | testRelease =>
    simp only [goneStep]
    split_ifs <;> rfl

theorem cleared_goneStep (hgone : s.app.ranGone = true) (reason : DisconnectReason)
    (next : GoneStage) : (s.goneStep reason next).Cleared := by
  refine ⟨(ranGone_goneStep s reason next).trans hgone, ?_⟩
  rw [stage_goneStep]
  cases next <;> simp only [nextStage] <;> (try split_ifs) <;> exact nofun

theorem reset_goneStep {reason : DisconnectReason} {next : GoneStage} (hreset : s.Reset)
    (hstage : s.inbound.stage = some next) : (s.goneStep reason next).Reset := by
  refine ⟨cleared_goneStep hreset.1.1 reason next, ?_⟩
  rw [stage_goneStep]
  cases next with
  | clearSession => exact absurd hstage hreset.1.2
  | clearPending => exact absurd hstage hreset.2.1
  | resetSetup => exact absurd hstage hreset.2.2
  | testRelease =>
    simp only [nextStage]
    split_ifs <;> exact ⟨nofun, nofun⟩
  | callHandler => exact ⟨nofun, nofun⟩

theorem Doomed.hasId_step (hcleared : s.Cleared) (hid : s.dappId ≠ none)
    (hstep : s.step e = some t) : t.Doomed := by
  cases turn_of_step hstep with
  | same | running | stop | stopped | setupGivesUp | setupFinishes | call =>
    exact .hasId hcleared hid
  | setupResponds _ =>
    unfold DApp.handleSetupResponse
    split_ifs
    · exact .hasId hcleared nofun
    · exact .hasId hcleared hid
  | moves _ hfrom hto _ => exact .hasId ⟨hcleared.1, by rw [hto]; exact nofun⟩ hid
  | attributes _ => exact .hasId ⟨hcleared.1, nofun⟩ hid
  | @records now resp pending hin =>
    refine .hasId ⟨hcleared.1, nofun⟩ ?_
    show (DApp.applyResponse s.app.state now pending resp).assignedDappId ≠ none
    rw [applyResponse_eq, recordEffect_assigned]
    exact hid
  | leaves _ hgone => exact absurd (hcleared.1.symm.trans hgone) nofun
  | @gone now reason next hin =>
    refine .hasId (cleared_goneStep hcleared.1 reason next) ?_
    cases next with
    | clearSession => exact absurd (by rw [hin]; rfl) hcleared.2
    | clearPending | resetSetup | callHandler => exact hid
    | testRelease =>
      simp only [goneStep]
      split_ifs <;> exact hid
  | @expire now order =>
    refine .hasId hcleared ?_
    show (s.app.state.expireSubscriptions now order).assignedDappId ≠ none
    rw [expireSubscriptions_assigned]
    exact hid
  | @advance i queued call hcall =>
    have hu := untouched_advance s call queued
    refine .hasId ⟨hu.ranGone.trans hcleared.1, ?_⟩ ?_
    · show (s.advance call queued).1.inbound.stage ≠ _
      rw [hu.inbound]
      exact hcleared.2
    · show (s.advance call queued).1.app.state.assignedDappId ≠ none
      rw [hu.state]
      exact hid

theorem Doomed.setUp_step (hreset : s.Reset) (hdone : s.setup = .done)
    (hcomplete : s.setupComplete = true) (hsucceeded : s.setupSucceeded = true)
    (hstep : s.step e = some t) : t.Doomed := by
  cases turn_of_step hstep with
  | same | running | stop | call | expire => exact .setUp hreset hdone hcomplete hsucceeded
  | stopped => exact .setUp hreset hdone rfl hsucceeded
  | setupResponds hsetup => exact absurd (hdone.symm.trans hsetup) nofun
  | setupGivesUp hsetup => exact absurd (hdone.symm.trans hsetup) nofun
  | setupFinishes hsetup => exact absurd (hdone.symm.trans hsetup) nofun
  | moves _ hfrom hto _ =>
    refine .setUp ⟨⟨hreset.1.1, ?_⟩, ?_, ?_⟩ hdone hcomplete hsucceeded <;>
      · rw [hto]
        exact nofun
  | attributes _ => exact .setUp ⟨⟨hreset.1.1, nofun⟩, nofun, nofun⟩ hdone hcomplete hsucceeded
  | records _ => exact .setUp ⟨⟨hreset.1.1, nofun⟩, nofun, nofun⟩ hdone hcomplete hsucceeded
  | leaves _ hgone => exact absurd (hreset.1.1.symm.trans hgone) nofun
  | @gone now reason next hin =>
    have hstage : s.inbound.stage = some next := by rw [hin]; rfl
    have hreset' : (s.goneStep reason next).Reset := reset_goneStep hreset hstage
    cases next with
    | resetSetup => exact absurd hstage hreset.2.2
    | clearSession | clearPending | callHandler =>
      exact .setUp hreset' hdone hcomplete hsucceeded
    | testRelease =>
      simp only [goneStep] at hreset' ⊢
      split_ifs at hreset' ⊢ <;> exact .setUp hreset' hdone hcomplete hsucceeded
  | @advance i queued call hcall =>
    have hu := untouched_advance s call queued
    refine .setUp ?_ (hu.setup.trans hdone) (hu.complete.trans hcomplete)
      (hu.succeeded.trans hsucceeded)
    show (_ ∧ _) ∧ _
    simp only [hu.ranGone, hu.inbound]
    exact hreset

theorem Doomed.calling_step (hstage : s.inbound.stage = some .callHandler)
    (hreleased : s.released = true) (hstep : s.step e = some t) : t.Doomed := by
  cases turn_of_step hstep with
  | same | running | stop | stopped | setupResponds | setupGivesUp | setupFinishes | call | expire =>
    exact .calling hstage hreleased
  | moves _ hfrom _ _ => exact absurd (hfrom.symm.trans hstage) nofun
  | attributes hin => exact absurd hstage (by rw [hin]; exact nofun)
  | records hin => exact absurd hstage (by rw [hin]; exact nofun)
  | leaves hin _ => exact absurd hstage (by rw [hin]; exact nofun)
  | @gone now reason next hin =>
    rw [hin] at hstage
    obtain rfl : next = .callHandler := Option.some.inj hstage
    exact .told (List.mem_append_right _ List.mem_cons_self) hreleased
  | @advance i queued call hcall =>
    have hu := untouched_advance s call queued
    refine .calling ((congrArg InboundThread.stage hu.inbound).trans hstage) ?_
    rcases released_advance s call queued with hsame | ⟨-, -, htrue⟩
    · exact hsame.trans hreleased
    · exact htrue

theorem disconnects_step (hstep : s.step e = some t) : s.disconnects ⊆ t.disconnects := by
  cases turn_of_step hstep with
  | @gone now reason next hin =>
    cases next with
    | clearSession | clearPending | resetSetup => exact fun _ hd => hd
    | testRelease =>
      simp only [goneStep]
      split_ifs <;> exact fun _ hd => hd
    | callHandler => exact List.subset_append_left _ _
  | @advance i queued call hcall =>
    show s.disconnects ⊆ (s.advance call queued).1.disconnects
    rw [(untouched_advance s call queued).disconnects]
    exact fun _ hd => hd
  | _ => exact fun _ hd => hd

theorem doomed_step (h : s.Doomed) (hstep : s.step e = some t) : t.Doomed := by
  cases h with
  | hasId hcleared hid => exact Doomed.hasId_step hcleared hid hstep
  | setUp hreset hdone hcomplete hsucceeded =>
    exact Doomed.setUp_step hreset hdone hcomplete hsucceeded hstep
  | calling hstage hreleased => exact Doomed.calling_step hstage hreleased hstep
  | told hd hreleased => exact .told (disconnects_step hstep hd) hreleased

theorem Doomed.not_endsCleanly (h : s.Doomed) (hsettled : s.inbound.stage = none) :
    ¬ s.EndsCleanly := by
  intro hclean
  cases h with
  | hasId hcleared hid => exact hid (hclean.ended hcleared.1 hsettled).noId
  | setUp hreset hdone hcomplete hsucceeded =>
    refine (hclean.ended hreset.1.1 hsettled).notSetUp ?_
    simp only [waitForSetup, hcomplete, hsucceeded, Bool.not_true, Bool.false_eq_true, if_false,
      if_true]
  | calling hstage _ => exact absurd (hsettled.symm.trans hstage) nofun
  | told hd hreleased => exact absurd ((hclean.unreleased _ hd).symm.trans hreleased) nofun

/-- Whenever `on_ran_gone` is not under way, the session has ended as it should if and only if no
step of the session came too late for `on_ran_gone`. -/
theorem session_ends_cleanly_iff {a : DApp} {handler : Bool} {es : List Event}
    (hrun : run step (started a handler) es = some s) (hsettled : s.inbound.stage = none) :
    s.EndsCleanly ↔ Meets step InTime (started a handler) es := by
  constructor
  · intro hclean
    rcases meets_or_lasting (I := Calm) (B := Doomed) (fun _ => doomed_of_late) calm_step
      doomed_step (calm_started a handler) hrun with hmeets | hdoomed
    · exact hmeets
    · exact absurd hclean (hdoomed.not_endsCleanly hsettled)
  · intro hmeets
    have hcalm : s.Calm := inv_of_meets calm_step (calm_started a handler) hmeets hrun
    exact hcalm.endsCleanly

def assigned : SetupResponse where
  requestId := 1
  responseCode := .positive
  ranIdentifier := []
  dappIdentifier := some 5

/-- The connection is lost and `on_ran_gone` runs to its end. -/
def lostLink : List Event :=
  [.lost, .inbound 0, .inbound 0, .inbound 0, .inbound 0, .inbound 0, .inbound 0]

def setUpThenLost : List Event :=
  [.running, .connected true, .setupResponds assigned, .setupFinishes] ++ lostLink

theorem session_ends_cleanly_set_up :
    ∃ s, run step (started .fresh true) setUpThenLost = some s ∧ s.app.ranGone = true
      ∧ s.disconnects = [(.connectionLost, false)] ∧ s.EndsCleanly := by
  refine ⟨_, rfl, rfl, rfl, ?_⟩
  exact (session_ends_cleanly_iff
    (show run step (started .fresh true) setUpThenLost = some _ from rfl) rfl).mpr (by decide)

/-- The connection is lost before the response to the setup request is there. -/
def lostThenSetUp : List Event :=
  [.running, .connected true] ++ lostLink ++ [.setupResponds assigned, .setupFinishes]

/-- A dApp that has been told that its session ended is set up behind that. -/
theorem set_up_after_the_end :
    ∃ s, run step (started .fresh true) lostThenSetUp = some s ∧ s.app.ranGone = true
      ∧ s.inbound.stage = none ∧ s.disconnects = [(.connectionLost, false)]
      ∧ s.dappId = some 5 ∧ s.waitForSetup = .success
      ∧ s.begin (.subscribe 1 none) = .ok (.remember ⟨1, false, none⟩) ∧ ¬ s.EndsCleanly := by
  refine ⟨_, rfl, rfl, rfl, rfl, rfl, rfl, rfl, ?_⟩
  intro hclean
  exact absurd (hclean.ended rfl rfl).noId nofun

end DAppThreads

end LibE3
