import LibE3.Proofs.Decision
import LibE3.Proofs.Equivalence
import Mathlib.Data.Nat.Digits.Defs
import Mathlib.Data.String.Basic

/-!
# The answers of the RAN fit the grammar

Each field of an answer has its own origin: the request, the identifiers of the manager, the message
counter, or a text that is put together on the spot. All of them are within the bounds that the
grammar sets.
-/

namespace LibE3

open Runs

/-! ## The length of the texts -/

theorem length_text (s : String) : (text s).length = s.utf8ByteSize := by
  rw [text_eq]
  exact String.size_toByteArray

theorem utf8Len_le : ∀ cs : List Char, String.utf8Len cs ≤ 4 * cs.length
  | [] => le_rfl
  | c :: cs => by
    have hc := c.utf8Size_le_four
    have ih := utf8Len_le cs
    rw [String.utf8Len_cons, List.length_cons]
    omega

/-- An identifier has at most ten digits; the bound is that of ten characters of any kind. -/
theorem utf8ByteSize_toString (n : UInt32) : (toString n).utf8ByteSize ≤ 40 := by
  have hlen : (toString n).length ≤ 10 :=
    Nat.repr_length n.toNat 10 (by decide) (by have := n.toNat_lt; omega)
  have hsize := utf8Len_le (toString n).toList
  rw [← String.utf8ByteSize_ofList, String.ofList_toList, String.length_toList] at hsize
  omega

theorem isText_literal {s : String} (h : s.utf8ByteSize ≤ 512) : IsText (text s) :=
  ⟨Nat.zero_le _, by rw [length_text]; exact h⟩

theorem isText_before_id {before : String} (n : UInt32) (h : before.utf8ByteSize ≤ 472) :
    IsText (text (before ++ toString n)) := by
  have hn := utf8ByteSize_toString n
  apply isText_literal
  rw [String.utf8ByteSize_append]
  omega

theorem isText_around_id {before after : String} (n : UInt32)
    (h : before.utf8ByteSize + after.utf8ByteSize ≤ 472) :
    IsText (text (before ++ toString n ++ after)) := by
  have hn := utf8ByteSize_toString n
  apply isText_literal
  rw [String.utf8ByteSize_append, String.utf8ByteSize_append]
  omega

theorem isText_errorCode (e : ErrorCode) : IsText (text (errorCodeToString e)) :=
  isText_literal (by cases e <;> decide)

theorem isText_refusalForSubscription {registry : SmRegistry} {request : SubscriptionRequest}
    {refusal : Refusal} (h : (refusalForSubscription registry request).1 = some refusal) :
    IsText refusal.detail := by
  simp only [refusalForSubscription] at h
  split at h
  · obtain rfl := Option.some.inj h
    exact isText_around_id _ (by decide)
  · split_ifs at h
    · obtain rfl := Option.some.inj h
      exact isText_literal (by decide)
    · split at h
      · obtain rfl := Option.some.inj h
        exact isText_before_id _ (by decide)
      · split at h
        · obtain rfl := Option.some.inj h
          exact isText_before_id _ (by decide)
        · cases h

namespace Ran

variable {r : Ran}

theorem isText_decideControl {action : DAppControlAction} {refusal : Refusal}
    (h : (r.decideControl action).1 = .inl refusal) : IsText refusal.detail := by
  simp only [decideControl] at h
  split_ifs at h
  · obtain rfl := Sum.inl.inj h
    exact isText_literal (by decide)
  · split at h
    · obtain rfl := Sum.inl.inj h
      exact isText_around_id _ (by decide)
    · split_ifs at h
      · obtain rfl := Sum.inl.inj h
        exact isText_before_id _ (by decide)
      · obtain rfl := Sum.inl.inj h
        exact isText_literal (by decide)

theorem isText_subscriptionOutcome {ret : ErrorCode × UInt32} {refusal : Refusal}
    (h : subscriptionOutcome ret = .inr refusal) : IsText refusal.detail := by
  simp only [subscriptionOutcome] at h
  split_ifs at h
  · obtain rfl := Sum.inr.inj h
    exact isText_literal (by decide)
  · obtain rfl := Sum.inr.inj h
    exact isText_errorCode ret.1

/-! ## The subscription identifiers -/

theorem inIdRange_of_added {T T' : Table} {now : TimePoint} {d f id : UInt32}
    {details : SubscriptionDetails} {ret : ErrorCode × UInt32}
    (h : T.Added now d f details ret T') (hid : subscriptionOutcome ret = .inl id) :
    InIdRange id := by
  cases h with
  | unregistered | full => cases hid
  | held he =>
    obtain rfl := Sum.inl.inj hid
    exact T.id_range he
  | renewed he =>
    obtain rfl := Sum.inl.inj hid
    exact T.id_range he
  | new hn hfree =>
    obtain rfl := Sum.inl.inj hid
    exact hfree.range

/-- What the RAN decides about a request: an identifier in range, or a text that fits. -/
theorem decideSubscription_fits {T : Table} (h : Represents r.mgr T) (now : TimePoint)
    (request : SubscriptionRequest) :
    (∃ id, (r.decideSubscription now request).2 = .inl id ∧ InIdRange id) ∨
      ∃ refusal, (r.decideSubscription now request).2 = .inr refusal ∧ IsText refusal.detail := by
  simp only [decideSubscription]
  split_ifs
  · exact .inr ⟨_, rfl, isText_literal (by decide)⟩
  · cases href : (refusalForSubscription r.registry request).1 with
    | some refusal => exact .inr ⟨refusal, rfl, isText_refusalForSubscription href⟩
    | none =>
      obtain ⟨T', hadded, -⟩ := addSubscription_spec h now request.dappIdentifier
        request.ranFunctionIdentifier request.telemetryIdentifierList
        request.controlIdentifierList (request.periodicity.getD 0)
        (request.subscriptionTime.getD 0)
      cases hout : subscriptionOutcome _ with
      | inl id => exact .inl ⟨id, rfl, inIdRange_of_added hadded hout⟩
      | inr refusal => exact .inr ⟨refusal, rfl, isText_subscriptionOutcome hout⟩

end Ran

/-! ## The answers -/

/-- The answers to requests fit the buffer of the encoder: their bounds are far below it. -/
def AperCodec.AnswersFit (aper : AperCodec) : Prop :=
  ∀ p : E3Pdu, p.Valid →
    (∃ m, p.msg = .subscriptionResponse m) ∨ (∃ m, p.msg = .messageAck m) →
    (aper.encoding p).length ≤ bufferSize

/-- A subscription response or an acknowledgment that `outbound_loop_ran` can send. -/
structure Pdu.Sendable (pdu : Pdu) : Prop where
  kind : pdu.type = .subscriptionResponse ∨ pdu.type = .messageAck
  messageId : pdu.messageId ≠ 0
  grammar : pdu.choice.InGrammar
  valid : ∃ p, pduToAsn1 pdu = some p ∧ p.Valid
  encodes : ∀ aper : AperCodec, aper.AnswersFit → ∃ buffer, asn1Encode aper pdu = some buffer

theorem Pdu.sendable_of_inGrammar {pdu : Pdu} (htype : pdu.type = pdu.choice.type)
    (hkind : pdu.type = .subscriptionResponse ∨ pdu.type = .messageAck)
    (hmid : pdu.messageId ≠ 0) (hgrammar : pdu.choice.InGrammar) : pdu.Sendable := by
  obtain ⟨msg, hmsg, hvalid⟩ := hgrammar.valid
  have hpdu : pduToAsn1 pdu =
      some ⟨setId pdu.messageId, setTimestamp pdu.timestamp, msg⟩ := by
    rw [pduToAsn1, htype, hmsg]
    rfl
  have hp : (⟨setId pdu.messageId, setTimestamp pdu.timestamp, msg⟩ : E3Pdu).Valid :=
    ⟨isMessageId_setId.mpr hmid, hvalid⟩
  refine ⟨hkind, hmid, hgrammar, ⟨_, hpdu, hp⟩, fun aper hfit => ?_⟩
  have hanswer : (∃ m, msg = .subscriptionResponse m) ∨ ∃ m, msg = .messageAck m := by
    cases hchoice : pdu.choice with
    | subscriptionResponse resp =>
      rw [hchoice] at hmsg
      exact .inl ⟨_, (Option.some.inj hmsg).symm⟩
    | messageAck ack =>
      rw [hchoice] at hmsg
      exact .inr ⟨_, (Option.some.inj hmsg).symm⟩
    | _ =>
      rw [htype, hchoice] at hkind
      rcases hkind with hkind | hkind <;> cases hkind
  have hbuffer := AperCodec.encodeToBuffer_eq_some.mpr ⟨hp, hfit _ hp hanswer, rfl⟩
  exact ⟨_, Option.bind_eq_some_iff.mpr ⟨_, hpdu, hbuffer⟩⟩

theorem sendable_subscriptionResponse {r : Ran} {T : Table} (h : Represents r.mgr T)
    (now : TimePoint) (stamp : UInt64) {request : SubscriptionRequest} {mid : UInt32}
    (hmid : mid ≠ 0) (hreq : (PduChoice.subscriptionRequest request).InGrammar) :
    (r.handleSubscriptionRequest now stamp request mid).2.Sendable := by
  obtain ⟨hdapp, hfunc, htel, hctl, -, hper⟩ := hreq
  rcases Ran.decideSubscription_fits h now request with ⟨id, hid, hrange⟩ | ⟨refusal, href, htext⟩
  · have hchoice := handleSubscriptionRequest_granted hid stamp mid
    refine Pdu.sendable_of_inGrammar (by rw [hchoice]; rfl) (.inl rfl)
      (generateMessageId_ne_zero _) ?_
    rw [hchoice]
    refine ⟨hmid, hdapp, ?_, ?_, ?_, ?_, hper, nofun⟩
    · rintro _ ⟨⟩
      exact hrange
    · rintro _ ⟨⟩
      exact htel
    · rintro _ ⟨⟩
      exact hctl
    · rintro _ ⟨⟩
      exact hfunc
  · have hchoice := handleSubscriptionRequest_refused href stamp mid
    refine Pdu.sendable_of_inGrammar (by rw [hchoice]; rfl) (.inl rfl)
      (generateMessageId_ne_zero _) ?_
    rw [hchoice]
    refine ⟨hmid, hdapp, nofun, nofun, nofun, nofun, nofun, ?_⟩
    rintro _ ⟨⟩
    exact htext

theorem sendable_deleteResponse (r : Ran) (stamp : UInt64) {del : SubscriptionDelete}
    {mid : UInt32} (hmid : mid ≠ 0) (hdel : (PduChoice.subscriptionDelete del).InGrammar) :
    (r.handleSubscriptionDelete stamp del mid).2.Sendable := by
  refine Pdu.sendable_of_inGrammar rfl (.inl rfl) (generateMessageId_ne_zero _) ?_
  simp only [Ran.handleSubscriptionDelete]
  by_cases hok : (r.mgr.removeSubscriptionById del.dappIdentifier del.subscriptionId).ret = .success
  · rw [if_pos hok]
    refine ⟨hmid, hdel.1, ?_, ?_, ?_, ?_, ?_, ?_⟩ <;> rintro _ ⟨⟩
    exact hdel.2
  · rw [if_neg hok]
    refine ⟨hmid, hdel.1, ?_, ?_, ?_, ?_, ?_, ?_⟩ <;> rintro _ ⟨⟩
    apply isText_literal
    split <;> decide

theorem sendable_controlAck (r : Ran) (stamp : UInt64) {action : DAppControlAction} {mid : UInt32}
    (hmid : mid ≠ 0) :
    ∀ pdu ∈ (r.handleControlAction stamp action mid).2.outbound, pdu.Sendable := by
  intro pdu hpdu
  simp only [Ran.handleControlAction] at hpdu
  split at hpdu
  · rename_i refusal href
    obtain rfl := List.mem_singleton.mp hpdu
    refine Pdu.sendable_of_inGrammar rfl (.inr rfl) (generateMessageId_ne_zero _) ⟨?_, ?_⟩
    · simp only [sanitizeRequestMessageId, if_pos hmid]
      exact hmid
    · rintro _ ⟨⟩
      exact Ran.isText_decideControl href
  · cases hpdu

/-- After any history and with any Service Models and factories, what the RAN queues in answer to a
subscription request, a delete or a control of the grammar can be sent over ASN.1. -/
theorem answers_sendable {config : E3Config} {labels : List Ran.Label} {r₀ : Ran}
    (hrun : run Ran.step (.initialized config) labels = some r₀) (registry : SmRegistry)
    (stamp : UInt64) {mid : UInt32} (hmid : mid ≠ 0) :
    let r := { r₀ with registry := registry }
    (∀ now request, (PduChoice.subscriptionRequest request).InGrammar →
        (r.handleSubscriptionRequest now stamp request mid).2.Sendable) ∧
      (∀ del, (PduChoice.subscriptionDelete del).InGrammar →
        (r.handleSubscriptionDelete stamp del mid).2.Sendable) ∧
      ∀ action, (PduChoice.dappControlAction action).InGrammar →
        ∀ pdu ∈ (r.handleControlAction stamp action mid).2.outbound, pdu.Sendable := by
  intro r
  obtain ⟨T, h⟩ := Ran.run_represents hrun
  have hrep : Represents r.mgr T := h
  refine ⟨fun now request hreq => ?_, fun del hdel => ?_, fun action _ => ?_⟩
  · exact sendable_subscriptionResponse hrep now stamp hmid hreq
  · exact sendable_deleteResponse _ stamp hmid hdel
  · exact sendable_controlAck _ stamp hmid

/-- A request that is granted, and a delete and a control that are refused. -/
theorem answers_sendable_first :
    ∃ r, run Ran.step (.initialized {}) [.registerSm (some model7), .start .success .success,
        .setupRequest 0 5] = some r ∧
      (r.handleSubscriptionRequest 0 0 ⟨1, 7, [1], [], none, none⟩ 6).2.Sendable ∧
      (r.handleSubscriptionDelete 0 ⟨1, 1⟩ 6).2.Sendable ∧
      ∀ pdu ∈ (r.handleControlAction 0 ⟨1, 7, 2, [0], 0⟩ 6).2.outbound, pdu.Sendable := by
  obtain ⟨r, hrun⟩ := Option.isSome_iff_exists.mp (show (run Ran.step (.initialized {})
    [.registerSm (some model7), .start .success .success, .setupRequest 0 5]).isSome by
      decide +kernel)
  obtain ⟨hrequest, hdelete, hcontrol⟩ :=
    answers_sendable hrun r.registry 0 (show (6 : UInt32) ≠ 0 by decide)
  have hids : IdListInGrammar [1] ∧ IdListInGrammar [] := by
    simp [IdListInGrammar, InIdRange, minId, maxId, maxIdentifierListSize]
  refine ⟨r, hrun, hrequest 0 _ ⟨by decide, by decide, hids.1, hids.2, nofun, nofun⟩,
    hdelete _ ⟨by decide, by decide⟩, hcontrol _ ⟨by decide, by decide, by decide, by decide⟩⟩

end LibE3
