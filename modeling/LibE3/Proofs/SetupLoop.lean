import LibE3.Proofs.SessionEnd
import LibE3.SetupLoop

/-!
# What `wait_for_setup` says

The setup thread stores that it got a response, not that the response was positive. So
`wait_for_setup` reports a setup that the RAN has refused as a success; in every other exchange, and
on every order of the steps of the threads, it says what happened.
-/

namespace LibE3

open Runs

namespace SetupChannel

variable {decode : Bytes → Option Pdu} {ch : SetupChannel} {resp : SetupResponse}

/-- The response is a reply to one of the attempts. -/
def Replied (decode : Bytes → Option Pdu) (ch : SetupChannel) (resp : SetupResponse) : Prop :=
  ∃ retries attempt buffer, retries < maxRetries ∧ attempt < maxReceives ∧
    ch.send retries = .success ∧ ch.recv retries attempt = .bytes buffer ∧
    responseOf decode buffer = some resp

/-- An attempt is answered with a response: the request is sent, and before a stop the first look
for a reply that is not silence has this response. -/
def Answers (decode : Bytes → Option Pdu) (ch : SetupChannel) (retries : ℕ)
    (resp : SetupResponse) : Prop :=
  ch.send retries = .success ∧ ∃ attempt < maxReceives,
    (∀ k ≤ attempt, ch.stopWithin retries k = false) ∧
    (∀ k < attempt, ch.recv retries k = .silence) ∧
    ∃ buffer, ch.recv retries attempt = .bytes buffer ∧ responseOf decode buffer = some resp

/-- The exchange ends with a response: before a stop, it is that of the first attempt with one. -/
def EndsWith (decode : Bytes → Option Pdu) (ch : SetupChannel) (encoded : Bool)
    (resp : SetupResponse) : Prop :=
  encoded = true ∧ ∃ retries < maxRetries, (∀ k ≤ retries, ch.stopBefore k = false) ∧
    (∀ k < retries, ∀ r, ¬Answers decode ch k r) ∧ Answers decode ch retries resp

theorem receiveLoop_eq_some_iff (retries : ℕ) : ∀ left attempt : ℕ,
    receiveLoop decode ch retries left attempt = some resp ↔ ∃ j < left,
      (∀ k ≤ j, ch.stopWithin retries (attempt + k) = false) ∧
      (∀ k < j, ch.recv retries (attempt + k) = .silence) ∧
      ∃ buffer, ch.recv retries (attempt + j) = .bytes buffer ∧
        responseOf decode buffer = some resp
  | 0, _ => by simp [receiveLoop]
  | left + 1, attempt => by
    -- this look, or a later one
    rw [receiveLoop, Nat.exists_lt_succ_left]
    simp only [← Nat.lt_succ_iff, Nat.forall_lt_succ_left, Nat.add_zero, Nat.not_lt_zero,
      false_implies, implies_true, true_and, and_true]
    have ih := receiveLoop_eq_some_iff retries left (attempt + 1)
    simp only [← Nat.lt_succ_iff, Nat.forall_lt_succ_left, Nat.add_assoc, Nat.add_comm 1] at ih
    cases ch.stopWithin retries attempt with
    | true => simp
    | false => cases ch.recv retries attempt <;> simp [ih]

theorem answers_iff (retries : ℕ) : Answers decode ch retries resp ↔
    ch.send retries = .success ∧ receiveLoop decode ch retries maxReceives 0 = some resp := by
  rw [receiveLoop_eq_some_iff]
  simp only [Nat.zero_add, Answers]

theorem sendLoop_eq_some_iff : ∀ left retries : ℕ,
    sendLoop decode ch left retries = some resp ↔ ∃ j < left,
      (∀ k ≤ j, ch.stopBefore (retries + k) = false) ∧
      (∀ k < j, ∀ r, ¬Answers decode ch (retries + k) r) ∧ Answers decode ch (retries + j) resp
  | 0, _ => by simp [sendLoop]
  | left + 1, retries => by
    rw [sendLoop, Nat.exists_lt_succ_left]
    simp only [← Nat.lt_succ_iff, Nat.forall_lt_succ_left, Nat.add_zero, Nat.not_lt_zero,
      false_implies, implies_true, true_and, and_true]
    have ih := sendLoop_eq_some_iff left (retries + 1)
    simp only [← Nat.lt_succ_iff, Nat.forall_lt_succ_left, Nat.add_assoc, Nat.add_comm 1] at ih
    cases ch.stopBefore retries with
    | true => simp
    | false =>
      by_cases hsend : ch.send retries = .success
      · cases hloop : receiveLoop decode ch retries maxReceives 0 <;>
          simp [answers_iff retries, hsend, hloop, ih]
      · simp [answers_iff retries, hsend, ih]

theorem setupLoopDapp_eq_some_iff {encoded : Bool} :
    setupLoopDapp decode ch encoded = some resp ↔ EndsWith decode ch encoded resp := by
  cases encoded with
  | false => simp [setupLoopDapp, EndsWith]
  | true => simp [setupLoopDapp, EndsWith, sendLoop_eq_some_iff]

theorem EndsWith.replied {encoded : Bool} (h : EndsWith decode ch encoded resp) :
    Replied decode ch resp := by
  obtain ⟨-, retries, hretries, -, -, hsend, attempt, hattempt, -, -, buffer, hrecv, hresp⟩ := h
  exact ⟨retries, attempt, buffer, hretries, hattempt, hsend, hrecv, hresp⟩

end SetupChannel

namespace DAppThreads

variable {s t : DAppThreads} {e : Event} {outcome : Option SetupResponse}

/-- What the flags say about the loop. A session that is lost may take its success back. -/
structure Flagged (outcome : Option SetupResponse) (s : DAppThreads) : Prop where
  complete : s.setupComplete = true ↔ s.setup = .done
  finishing : ∀ gotResponse, s.setup = .finishing gotResponse → gotResponse = outcome.isSome
  succeeded : s.setupSucceeded = true → s.setup = .done ∧ outcome.isSome

theorem flagged_started (outcome : Option SetupResponse) (a : DApp) (handler : Bool) :
    Flagged outcome (started a handler) :=
  ⟨iff_of_false nofun nofun, nofun, nofun⟩

theorem Flagged.of_same (hs : Flagged outcome s) (hsetup : t.setup = s.setup)
    (hcomplete : t.setupComplete = s.setupComplete)
    (hsucceeded : t.setupSucceeded = true → s.setupSucceeded = true) : Flagged outcome t := by
  refine ⟨?_, ?_, fun ht => ?_⟩
  · rw [hcomplete, hsetup]
    exact hs.complete
  · rw [hsetup]
    exact hs.finishing
  · rw [hsetup]
    exact hs.succeeded (hsucceeded ht)

theorem Flagged.goneStep (hs : Flagged outcome s) (reason : DisconnectReason) (next : GoneStage) :
    Flagged outcome (s.goneStep reason next) := by
  cases next with
  | clearSession | clearPending | callHandler => exact hs.of_same rfl rfl id
  | resetSetup => exact hs.of_same rfl rfl nofun
  | testRelease =>
    simp only [DAppThreads.goneStep]
    split_ifs <;> exact hs.of_same rfl rfl id

theorem Flagged.step (hs : Flagged outcome s) (he : e.OfLoop outcome) (h : s.step e = some t) :
    Flagged outcome t := by
  cases turn_of_step h with
  | same => exact hs
  | running | stop | moves | attributes | records | leaves | expire | call =>
    exact hs.of_same rfl rfl id
  | stopped hdone => exact ⟨iff_of_true rfl hdone, hs.finishing, hs.succeeded⟩
  | setupResponds hsetup =>
    have hnot : s.setup ≠ .done := by rw [hsetup]; exact nofun
    refine ⟨iff_of_false (mt hs.complete.mp hnot) nofun, fun gotResponse hg => ?_,
      fun hok => absurd (hs.succeeded hok).1 hnot⟩
    cases hg
    rw [show outcome = some _ from he]
    rfl
  | setupGivesUp hsetup =>
    have hnot : s.setup ≠ .done := by rw [hsetup]; exact nofun
    refine ⟨iff_of_false (mt hs.complete.mp hnot) nofun, fun gotResponse hg => ?_,
      fun hok => absurd (hs.succeeded hok).1 hnot⟩
    cases hg
    rw [show outcome = none from he]
    rfl
  | setupFinishes hsetup =>
    exact ⟨iff_of_true rfl rfl, nofun, fun hok => ⟨rfl, hs.finishing _ hsetup ▸ hok⟩⟩
  | gone => exact hs.goneStep _ _
  | @advance _ queued call =>
    have hfix := untouched_advance s call queued
    exact hs.of_same hfix.setup hfix.complete (by rw [← hfix.succeeded]; exact id)

theorem goneStep_setup (s : DAppThreads) (reason : DisconnectReason) (next : GoneStage) :
    (s.goneStep reason next).setup = s.setup := by
  cases next with
  | clearSession | clearPending | resetSetup | callHandler => rfl
  | testRelease =>
    simp only [DAppThreads.goneStep]
    split_ifs <;> rfl

theorem requesting_step {resp : SetupResponse} (hs : s.setup = .requesting)
    (he : e.OfLoop (some resp) ∧ e ≠ .setupResponds resp) (h : s.step e = some t) :
    t.setup = .requesting := by
  cases turn_of_step h with
  | same | running | stop | moves | attributes | records | leaves | expire | call | stopped =>
    exact hs
  | setupResponds => exact absurd (congrArg Event.setupResponds (Option.some.inj he.1).symm) he.2
  | setupGivesUp => cases he.1
  | setupFinishes hsetup =>
    rw [hs] at hsetup
    cases hsetup
  | gone => exact (goneStep_setup s _ _).trans hs
  | @advance _ queued call => exact (untouched_advance s call queued).setup.trans hs

theorem setupResponds_mem {resp : SetupResponse} {a : DApp} {handler : Bool} {events : List Event}
    (h : run step (started a handler) events = some s)
    (hloop : ∀ e ∈ events, e.OfLoop (some resp)) (hs : s.setup ≠ .requesting) :
    .setupResponds resp ∈ events := by
  by_contra hmem
  have hquiet : ∀ e ∈ events, e.OfLoop (some resp) ∧ e ≠ .setupResponds resp :=
    fun e he => ⟨hloop e he, fun heq => hmem (heq ▸ he)⟩
  exact hs (inv_of_mem (I := fun s => s.setup = .requesting) requesting_step rfl hquiet h)

/-- What `wait_for_setup` is asked to say: success only after a positive response, and a failure
once the exchange has ended without one. -/
structure Truthful (decode : Bytes → Option Pdu) (ch : SetupChannel) (events : List Event)
    (s : DAppThreads) : Prop where
  success : s.waitForSetup = .success →
    ∃ resp, .setupResponds resp ∈ events ∧ ch.Replied decode resp ∧ resp.responseCode = .positive
  failure : s.setup = .done →
    (∀ resp, .setupResponds resp ∈ events → resp.responseCode = .negative) →
    s.waitForSetup = .connectionFailed

theorem waitForSetup_eq_success (h : s.waitForSetup = .success) : s.setupSucceeded = true := by
  unfold waitForSetup at h
  split_ifs at h with hcomplete hok
  exact hok

theorem Flagged.waitForSetup_of_done (hs : Flagged outcome s) (hdone : s.setup = .done) :
    s.waitForSetup = if s.setupSucceeded then .success else .connectionFailed := by
  simp [waitForSetup, hs.complete.mpr hdone]

/-- `wait_for_setup` tells the truth in every state of every session with an exchange, exactly if
the answers on the channel do not make the exchange end with a negative response. -/
theorem waitForSetup_truthful_iff (decode : Bytes → Option Pdu) (ch : SetupChannel)
    (encoded : Bool) (a : DApp) (handler : Bool) :
    (∀ events s, run step (started a handler) events = some s →
      (∀ e ∈ events, e.OfLoop (ch.setupLoopDapp decode encoded)) → Truthful decode ch events s) ↔
    ∀ resp, ch.EndsWith decode encoded resp → resp.responseCode = .positive := by
  simp only [← SetupChannel.setupLoopDapp_eq_some_iff]
  constructor
  · intro htrue resp hresp
    -- the shortest session: the response is handled and the loop ends
    have htold := htrue [.setupResponds resp, .setupFinishes] _ rfl (by simpa [Event.OfLoop])
    obtain ⟨resp', hmem, -, hpos⟩ := htold.success rfl
    obtain rfl : resp' = resp := by simpa using hmem
    exact hpos
  · intro hpos events s h hloop
    have hflags := inv_of_mem (I := Flagged _) Flagged.step (flagged_started _ a handler) hloop h
    cases houtcome : ch.setupLoopDapp decode encoded with
    | none =>
      rw [houtcome] at hflags
      have hfailed : s.setupSucceeded ≠ true := fun hok => nomatch (hflags.succeeded hok).2
      refine ⟨fun hok => absurd (waitForSetup_eq_success hok) hfailed, fun hdone _ => ?_⟩
      rw [hflags.waitForSetup_of_done hdone, if_neg hfailed]
    | some resp =>
      rw [houtcome] at hloop
      have hresp := hpos resp houtcome
      have hmem := setupResponds_mem h hloop
      refine ⟨fun hok => ?_, fun hdone hneg => ?_⟩
      · have hdone := (hflags.succeeded (waitForSetup_eq_success hok)).1
        refine ⟨resp, hmem ?_, (SetupChannel.setupLoopDapp_eq_some_iff.mp houtcome).replied, hresp⟩
        rw [hdone]
        exact nofun
      · have hneg := hneg resp (hmem (by rw [hdone]; exact nofun))
        rw [hresp] at hneg
        cases hneg

def grant : SetupResponse := { responseCode := .positive, dappIdentifier := some 1 }

def grants (_ : Bytes) : Option Pdu :=
  some { type := .setupResponse, choice := .setupResponse grant }

def answering : SetupChannel where
  stopBefore _ := false
  send _ := .success
  stopWithin _ _ := false
  recv _ _ := .bytes []

theorem granted_setup_truthful :
    answering.setupLoopDapp grants true = some grant ∧
      ∀ events s, run step (started .fresh false) events = some s →
        (∀ e ∈ events, e.OfLoop (some grant)) → Truthful grants answering events s := by
  refine ⟨rfl, (waitForSetup_truthful_iff grants answering true .fresh false).mpr fun resp h => ?_⟩
  obtain rfl : grant = resp := Option.some.inj (SetupChannel.setupLoopDapp_eq_some_iff.mpr h)
  rfl

def refusal : SetupResponse := { responseCode := .negative, cause := some .duplicate }

def refuses (_ : Bytes) : Option Pdu :=
  some { type := .setupResponse, choice := .setupResponse refusal }

/-- The setup is refused, and the application is told that it has succeeded. -/
theorem refused_setup_succeeds :
    answering.setupLoopDapp refuses true = some refusal ∧ refusal.responseCode = .negative ∧
      ∃ s, run step (started .fresh false) [.setupResponds refusal, .setupFinishes] = some s ∧
        s.setup = .done ∧ s.waitForSetup = .success ∧ s.dappId = none :=
  ⟨rfl, rfl, _, rfl, rfl, rfl, rfl⟩

end DAppThreads

end LibE3
