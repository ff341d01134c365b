import LibE3.Proofs.SetupAnswer

/-!
# Malformed messages on the setup channel

Over ASN.1 a message that carries no setup request gets one negative response, and leaves the RAN
as it is but for the next message identifier. Later messages are then handled the same, up to the
identifiers their answers carry.
-/

namespace LibE3

/-- A setup response without RAN functions fits the buffer: its texts have bounds far below it. -/
def AperCodec.BareResponsesFit (aper : AperCodec) : Prop :=
  ∀ p m, p.msg = .setupResponse m → m.ranFunctionList = none → p.Valid →
    (aper.encoding p).length ≤ bufferSize

def IsSetupRequest (aper : AperCodec) (buffer : Bytes) : Prop :=
  ∃ p m, aper.decode buffer = some p ∧ p.msg = .setupRequest m

/-- The message identifier that the message carries; 0 if it does not decode. -/
def receivedId (aper : AperCodec) (buffer : Bytes) : UInt32 :=
  match aper.decode buffer with
  | none => 0
  | some p => getId p.id

namespace SmRegistry

theorem getAvailableRanFunctions_getByRanFunction (r : SmRegistry) (f : UInt32) :
    (r.getByRanFunction f).2.getAvailableRanFunctions = r.getAvailableRanFunctions := by
  unfold getByRanFunction
  cases hs : r.sms.lookup f with
  | some sm => rfl
  | none =>
    rcases hf : r.factories.lookup f with _ | _ | sm
    · rfl
    · rfl
    · simp only
      split_ifs
      · have hnot : f ∉ r.sms.keys := fun h =>
          Finmap.lookup_eq_none.mp hs (Finmap.mem_keys.mp h)
        have hmem : f ∈ r.factories.keys :=
          Finmap.mem_keys.mpr (Finmap.mem_of_lookup_eq_some hf)
        simp only [getAvailableRanFunctions, Finmap.keys_insert, Finmap.keys_erase]
        congr 1
        rw [Finset.insert_val_of_notMem hnot, Finset.erase_val, Multiset.cons_add,
          ← Multiset.add_cons, Multiset.cons_erase hmem]
      · rfl

theorem offers_getByRanFunction (r : SmRegistry) (f : UInt32) :
    (r.getByRanFunction f).2.offers = r.offers := by
  have hlisting : (r.getByRanFunction f).2.listing = r.listing :=
    funext (r.listing_getByRanFunction f)
  rw [offers, getAvailableRanFunctions_getByRanFunction, hlisting, offers]

end SmRegistry

namespace Ran

theorem offers_foldl_advertise : ∀ (fs : List UInt32) (st : List RanFunctionDef × SmRegistry),
    (fs.foldl advertise st).2.offers = st.2.offers
  | [], _ => rfl
  | f :: fs, st => by
    rw [List.foldl_cons, offers_foldl_advertise fs, advertise_snd,
      SmRegistry.offers_getByRanFunction]

/-- A RAN over ASN.1 whose configuration `init()` accepted. -/
structure Accepted (r : Ran) : Prop where
  role : r.config.role = .ran
  asn1 : r.config.encoding = .asn1
  texts : r.config.textsFit = true
  size : r.registry.size ≤ maxRanFunctions

/-- Whatever its identifiers, a setup response of the RAN is in the grammar and fits the buffer. -/
structure FitsSetups (aper : AperCodec) (r : Ran) : Prop where
  ids : ∀ func ∈ r.registry.offers, func.IdsInRange
  size : ∀ stamp mid resp, resp.ranFunctionList = r.registry.offers →
    (setupResponseToAsn1 stamp mid resp).Valid →
    (aper.encoding (setupResponseToAsn1 stamp mid resp)).length ≤ AperCodec.bufferSize

/-- The RAN can handle the message: it has bytes, an alternative of the grammar if it decodes,
and if it carries a setup request, then the RAN can encode the response. -/
structure Handles (aper : AperCodec) (r : Ran) (buffer : Bytes) : Prop where
  nonempty : buffer ≠ []
  known : ∀ p, aper.decode buffer = some p → p.msg ≠ .other
  setup : IsSetupRequest aper buffer → r.FitsSetups aper

/-- The response to a message that carries no setup request. -/
def rejection (r : Ran) (requestId : UInt32) : SetupResponse where
  requestId := requestId
  responseCode := .negative
  e3apProtocolVersion := some r.config.e3apVersion
  dappIdentifier := none
  ranIdentifier := nameOrUnknown r.config.ranIdentifier
  ranFunctionList := []
  cause := some .protocolError
  detail := some (text "not a decodable setup request")

variable {aper : AperCodec} {r : Ran} {buffer : Bytes}

theorem sized_rejection (h : r.Accepted) {requestId : UInt32} (hid : requestId ≠ 0) :
    (r.rejection requestId).Sized := by
  obtain ⟨hversion, hname⟩ := texts_of_textsFit h.role h.asn1 h.texts
  refine ⟨hid, hname, ?_, ?_, Nat.zero_le _, ?_⟩
  · rintro v ⟨⟩
    exact hversion
  · exact fun d hd => nomatch hd
  · exact fun func hf => nomatch hf

def withCounter (r : Ran) (n : UInt32) : Ran := { r with nextMessageId := n }

theorem Accepted.withCounter (h : r.Accepted) (n : UInt32) : (r.withCounter n).Accepted :=
  ⟨h.role, h.asn1, h.texts, h.size⟩

/-- The rejection as it is sent, and the counter after it. -/
def rejectionPdu (r : Ran) (stamp : UInt64) (received : UInt32) : E3Pdu :=
  setupResponseToAsn1 stamp (generateMessageId r.nextMessageId).1 (r.rejection
    (sanitizeRequestMessageId (generateMessageId r.nextMessageId).2 received).1)

def rejectionCounter (r : Ran) (received : UInt32) : UInt32 :=
  (sanitizeRequestMessageId (generateMessageId r.nextMessageId).2 received).2

theorem valid_rejectionPdu (h : r.Accepted) (stamp : UInt64) (received : UInt32) :
    (r.rejectionPdu stamp received).Valid := by
  refine ⟨isMessageId_setId.mpr (generateMessageId_ne_zero _), ?_⟩
  exact (valid_setSetupResponse (sized_rejection h (sanitizeRequestMessageId_ne_zero _ _))).mpr
    fun func hf => nomatch hf

theorem sendNegativeSetupReply_eq (hbare : aper.BareResponsesFit) (h : r.Accepted)
    (stamp : UInt64) (received : UInt32) :
    r.sendNegativeSetupReply (asn1Encode aper) stamp received =
      (r.withCounter (r.rejectionCounter received),
        [aper.encoding (r.rejectionPdu stamp received)]) := by
  have hsized := sized_rejection h
    (sanitizeRequestMessageId_ne_zero (generateMessageId r.nextMessageId).2 received)
  have henc : asn1Encode aper (r.negativeSetupReply stamp received).2 =
      some (aper.encoding (r.rejectionPdu stamp received)) := by
    refine (asn1Encode_setupResponse aper (generateMessageId_ne_zero _) hsized).mpr
      ⟨?_, ?_, rfl⟩
    · exact fun func hf => nomatch hf
    · exact hbare _ _ rfl rfl (valid_rejectionPdu h stamp received)
  simp only [sendNegativeSetupReply, henc]
  rfl

theorem choiceOfAsn1_setupRequest {msg : E3PduMsg} (h : (choiceOfAsn1 msg).1 = .setupRequest) :
    msg = .other ∨ ∃ m, msg = .setupRequest m := by
  cases msg with
  | setupRequest m => exact .inr ⟨m, rfl⟩
  | other => exact .inl rfl
  | _ => exact nomatch h

theorem asn1Decode_of_ne (hne : buffer ≠ []) :
    asn1Decode aper buffer = (aper.decode buffer).map asn1ToPdu :=
  if_neg hne

theorem setupTurn_of_malformed (h : r.Handles aper buffer) (hbad : ¬ IsSetupRequest aper buffer)
    (stamp : UInt64) :
    r.setupTurn (asn1E3Encoder aper) stamp buffer =
      some (r.sendNegativeSetupReply (asn1Encode aper) stamp (receivedId aper buffer)) := by
  have hlen : ¬ buffer.length ≤ 0 := Nat.not_le.mpr (List.length_pos_iff.mpr h.nonempty)
  simp only [setupTurn, if_neg hlen, asn1E3Encoder, asn1Decode_of_ne h.nonempty]
  cases hdec : aper.decode buffer with
  | none => simp only [Option.map_none, receivedId, hdec]
  | some p =>
    have htype : (asn1ToPdu p).type ≠ .setupRequest := by
      intro ht
      rcases choiceOfAsn1_setupRequest ht with hother | ⟨m, hm⟩
      · exact h.known p hdec hother
      · exact hbad ⟨p, m, hdec, hm⟩
    simp only [Option.map_some, if_pos htype, receivedId, hdec]
    rfl

theorem setupTurn_of_setupRequest (hne : buffer ≠ []) (hreq : IsSetupRequest aper buffer)
    (stamp : UInt64) :
    r.setupTurn (asn1E3Encoder aper) stamp buffer =
      r.handleSetupRequest (asn1Encode aper) stamp (receivedId aper buffer) := by
  obtain ⟨p, m, hdec, hm⟩ := hreq
  have hlen : ¬ buffer.length ≤ 0 := Nat.not_le.mpr (List.length_pos_iff.mpr hne)
  have htype : ¬ (asn1ToPdu p).type ≠ .setupRequest := by
    rw [asn1ToPdu, hm]
    exact not_not.mpr rfl
  simp only [setupTurn, if_neg hlen, asn1E3Encoder, asn1Decode_of_ne hne, hdec, Option.map_some,
    if_neg htype, receivedId]
  simp only [asn1ToPdu, hm, choiceOfAsn1]

theorem handleSetupRequest_eq (h : r.Accepted) (hfits : r.FitsSetups aper) (stamp : UInt64)
    (mid : UInt32) :
    r.handleSetupRequest (asn1Encode aper) stamp mid =
      some ((r.answerSetup stamp mid).1,
        [aper.encoding
          (setupResponseToAsn1 stamp (r.owedMessageId mid) (r.owedResponse mid))]) := by
  have hmid : r.owedMessageId mid ≠ 0 := generateMessageId_ne_zero _
  have hsized := sized_owedResponse h.role h.asn1 h.texts h.size mid
  have hvalid : (setupResponseToAsn1 stamp (r.owedMessageId mid) (r.owedResponse mid)).Valid :=
    ⟨isMessageId_setId.mpr hmid, (valid_setSetupResponse hsized).mpr hfits.ids⟩
  have henc := (asn1Encode_setupResponse aper hmid hsized).mpr
    ⟨hfits.ids, hfits.size stamp _ _ rfl hvalid, rfl⟩
  simp only [handleSetupRequest, answerSetup_pdu h.size, henc]

theorem FitsSetups.congr {r' : Ran} (h : r.FitsSetups aper)
    (hoffers : r'.registry.offers = r.registry.offers) : r'.FitsSetups aper :=
  ⟨fun func hf => h.ids func (hoffers ▸ hf),
    fun stamp mid resp hl => h.size stamp mid resp (hl.trans hoffers)⟩

theorem Handles.congr {r' : Ran} (h : r.Handles aper buffer)
    (hoffers : r'.registry.offers = r.registry.offers) : r'.Handles aper buffer :=
  ⟨h.nonempty, h.known, fun hreq => (h.setup hreq).congr hoffers⟩

theorem offers_answerSetup (r : Ran) (stamp : UInt64) (mid : UInt32) :
    (r.answerSetup stamp mid).1.registry.offers = r.registry.offers := by
  have hlocked : (r.locked r.mgr.registerDapp).registry = r.registry := by
    unfold SubscriptionManager.registerDapp
    simp only
    split_ifs <;> rfl
  refine (offers_foldl_advertise _ _).trans ?_
  rw [hlocked]

theorem accepted_answerSetup (h : r.Accepted) (stamp : UInt64) (mid : UInt32) :
    (r.answerSetup stamp mid).1.Accepted := by
  refine ⟨h.role, h.asn1, h.texts, (size_foldl_advertise_le _ _).trans ?_⟩
  rw [size_locked]
  exact h.size

/-- What the RAN sends for a message, and what it would send for it with another counter: the
same response, but for its message identifier and, if the message brought no identifier, for the
request identifier. -/
def SameButIds (aper : AperCodec) (a : Arrival) (sent sent' : List Bytes) : Prop :=
  ∃ mid mid' resp requestId',
    sent = [aper.encoding (setupResponseToAsn1 a.stamp mid resp)] ∧
      sent' = [aper.encoding (setupResponseToAsn1 a.stamp mid'
        { resp with requestId := requestId' })] ∧
      (receivedId aper a.buffer ≠ 0 → requestId' = resp.requestId)

theorem sanitizeRequestMessageId_of_ne {mid : UInt32} (h : mid ≠ 0) (n : UInt32) :
    (sanitizeRequestMessageId n mid).1 = mid := by
  rw [sanitizeRequestMessageId, if_pos h]

theorem answerSetup_withCounter (r : Ran) (n : UInt32) (stamp : UInt64) (mid : UInt32) :
    ((r.withCounter n).answerSetup stamp mid).1 =
      (r.answerSetup stamp mid).1.withCounter
        (generateMessageId (sanitizeRequestMessageId n mid).2).2 :=
  rfl

theorem owedResponse_withCounter (r : Ran) (n mid : UInt32) :
    (r.withCounter n).owedResponse mid =
      { r.owedResponse mid with requestId := (sanitizeRequestMessageId n mid).1 } :=
  rfl

theorem setupTurn_setupRequest (h : r.Accepted) {a : Arrival} (hne : a.buffer ≠ [])
    (hreq : IsSetupRequest aper a.buffer) (hfits : r.FitsSetups aper) :
    ∃ sent, r.setupTurn (asn1E3Encoder aper) a.stamp a.buffer =
        some ((r.answerSetup a.stamp (receivedId aper a.buffer)).1, sent) ∧
      ∀ n, ∃ n' sent', (r.withCounter n).setupTurn (asn1E3Encoder aper) a.stamp a.buffer =
          some ((r.answerSetup a.stamp (receivedId aper a.buffer)).1.withCounter n', sent') ∧
        SameButIds aper a sent sent' := by
  have hturn := (setupTurn_of_setupRequest hne hreq a.stamp).trans
    (handleSetupRequest_eq h hfits a.stamp (receivedId aper a.buffer))
  refine ⟨_, hturn, fun n => ?_⟩
  have hturn' := (setupTurn_of_setupRequest hne hreq a.stamp).trans
    (handleSetupRequest_eq (h.withCounter n) (hfits.congr rfl) a.stamp (receivedId aper a.buffer))
  rw [answerSetup_withCounter, owedResponse_withCounter] at hturn'
  refine ⟨_, _, hturn', _, _, _, _, rfl, rfl, fun hid => ?_⟩
  exact (sanitizeRequestMessageId_of_ne hid _).trans (sanitizeRequestMessageId_of_ne hid _).symm

theorem setupTurn_malformed (hbare : aper.BareResponsesFit) (h : r.Accepted) {a : Arrival}
    (hh : r.Handles aper a.buffer) (hbad : ¬ IsSetupRequest aper a.buffer) :
    ∃ n₁ sent, r.setupTurn (asn1E3Encoder aper) a.stamp a.buffer =
        some (r.withCounter n₁, sent) ∧
      ∀ n, ∃ n' sent', (r.withCounter n).setupTurn (asn1E3Encoder aper) a.stamp a.buffer =
          some ((r.withCounter n₁).withCounter n', sent') ∧
        SameButIds aper a sent sent' := by
  have hturn := setupTurn_of_malformed hh hbad a.stamp
  rw [sendNegativeSetupReply_eq hbare h] at hturn
  refine ⟨_, _, hturn, fun n => ?_⟩
  have hturn' := setupTurn_of_malformed (r := r.withCounter n) (hh.congr rfl) hbad a.stamp
  rw [sendNegativeSetupReply_eq hbare (h.withCounter n)] at hturn'
  refine ⟨_, _, hturn', _, _, _, _, rfl, rfl, fun hid => ?_⟩
  exact (sanitizeRequestMessageId_of_ne hid _).trans (sanitizeRequestMessageId_of_ne hid _).symm

/-- One message: the RAN answers it, stays accepted with the same offers, and would do the same
with another counter. -/
theorem setupTurn_spec (hbare : aper.BareResponsesFit) (h : r.Accepted) {a : Arrival}
    (hh : r.Handles aper a.buffer) :
    ∃ r' sent, r.setupTurn (asn1E3Encoder aper) a.stamp a.buffer = some (r', sent) ∧
      r'.Accepted ∧ r'.registry.offers = r.registry.offers ∧
      ∀ n, ∃ n' sent', (r.withCounter n).setupTurn (asn1E3Encoder aper) a.stamp a.buffer =
          some (r'.withCounter n', sent') ∧
        SameButIds aper a sent sent' := by
  by_cases hreq : IsSetupRequest aper a.buffer
  · obtain ⟨sent, hturn, hsame⟩ :=
      setupTurn_setupRequest h hh.nonempty hreq (hh.setup hreq)
    exact ⟨_, sent, hturn, accepted_answerSetup h _ _, offers_answerSetup r _ _, hsame⟩
  · obtain ⟨n₁, sent, hturn, hsame⟩ := setupTurn_malformed hbare h hh hreq
    exact ⟨_, sent, hturn, h.withCounter n₁, rfl, hsame⟩

/-- `SameButIds` for each message of a list and what was sent for it. -/
def SameReplies (aper : AperCodec) : List Arrival → List (List Bytes) → List (List Bytes) → Prop
  | [], [], [] => True
  | a :: arrivals, sent :: rest, sent' :: rest' =>
    SameButIds aper a sent sent' ∧ SameReplies aper arrivals rest rest'
  | _, _, _ => False

theorem setupLoopRan_spec (hbare : aper.BareResponsesFit) :
    ∀ {arrivals : List Arrival} {r : Ran}, r.Accepted →
      (∀ a ∈ arrivals, r.Handles aper a.buffer) →
      ∃ r' sent, setupLoopRan (asn1E3Encoder aper) r arrivals = some (r', sent) ∧
        r'.Accepted ∧ r'.registry.offers = r.registry.offers ∧
        ∀ n, ∃ n' sent', setupLoopRan (asn1E3Encoder aper) (r.withCounter n) arrivals =
            some (r'.withCounter n', sent') ∧
          SameReplies aper arrivals sent sent'
  | [], r, h, _ => ⟨r, [], rfl, h, rfl, fun n => ⟨n, [], rfl, trivial⟩⟩
  | a :: arrivals, r, h, hall => by
    obtain ⟨r₁, sent, hturn, h₁, hoffers₁, hsame₁⟩ :=
      setupTurn_spec hbare h (hall a List.mem_cons_self)
    have hall₁ : ∀ b ∈ arrivals, r₁.Handles aper b.buffer := fun b hb =>
      (hall b (List.mem_cons_of_mem a hb)).congr hoffers₁
    obtain ⟨r₂, rest, hloop, h₂, hoffers₂, hsame₂⟩ := setupLoopRan_spec hbare h₁ hall₁
    refine ⟨r₂, sent :: rest, ?_, h₂, hoffers₂.trans hoffers₁, fun n => ?_⟩
    · simp only [setupLoopRan, hturn, Option.bind_some, hloop, Option.map_some]
    · obtain ⟨n₁, sent', hturn', hs⟩ := hsame₁ n
      obtain ⟨n₂, rest', hloop', hr⟩ := hsame₂ n₁
      refine ⟨n₂, sent' :: rest', ?_, hs, hr⟩
      simp only [setupLoopRan, hturn', Option.bind_some, hloop', Option.map_some]

/-- A negative setup response that satisfies every constraint of the grammar, assigns no dApp
identifier, lists no RAN functions and answers the identifier received, unless that is 0. -/
structure NegativeReply (received : UInt32) (p : E3Pdu) (m : E3SetupResponse) : Prop where
  msg : p.msg = .setupResponse m
  id : IsMessageId p.id
  valid : m.Valid
  negative : m.responseCode = 1
  noDapp : m.dAppIdentifier = none
  noRanFunctions : m.ranFunctionList = none
  requestId : received ≠ 0 → m.requestId = setId received

theorem negativeReply_rejectionPdu (h : r.Accepted) (stamp : UInt64) (received : UInt32) :
    ∃ m, NegativeReply received (r.rejectionPdu stamp received) m := by
  have hvalid := valid_rejectionPdu h stamp received
  refine ⟨_, rfl, hvalid.1, hvalid.2, rfl, rfl, rfl, fun hid => ?_⟩
  exact congrArg setId (sanitizeRequestMessageId_of_ne hid _)

/-- Over ASN.1, wherever in a sequence of messages that the RAN can handle a message without a
setup request arrives: the RAN sends one negative response for it that satisfies the grammar,
leaves the manager as it is, and handles all later messages as if this one had not arrived, up to
the identifiers. -/
theorem malformed_setup_answered (hbare : aper.BareResponsesFit) (h : r.Accepted)
    {before after : List Arrival} {a : Arrival}
    (hall : ∀ b ∈ before ++ a :: after, r.Handles aper b.buffer)
    (hbad : ¬ IsSetupRequest aper a.buffer) :
    ∃ r₁ sent r₂ p m, setupLoopRan (asn1E3Encoder aper) r before = some (r₁, sent) ∧
      r₁.setupTurn (asn1E3Encoder aper) a.stamp a.buffer = some (r₂, [aper.encoding p]) ∧
      NegativeReply (receivedId aper a.buffer) p m ∧
      r₂.mgr = r₁.mgr ∧
      ∃ r₃ n rest rest', setupLoopRan (asn1E3Encoder aper) r₁ after = some (r₃, rest) ∧
        setupLoopRan (asn1E3Encoder aper) r₂ after = some (r₃.withCounter n, rest') ∧
        SameReplies aper after rest rest' := by
  obtain ⟨r₁, sent, hbefore, h₁, hoffers, -⟩ := setupLoopRan_spec hbare h
    fun b hb => hall b (List.mem_append_left _ hb)
  have ha : r₁.Handles aper a.buffer :=
    (hall a (List.mem_append_right _ List.mem_cons_self)).congr hoffers
  have hafter : ∀ b ∈ after, r₁.Handles aper b.buffer := fun b hb =>
    (hall b (List.mem_append_right _ (List.mem_cons_of_mem a hb))).congr hoffers
  have hturn := setupTurn_of_malformed ha hbad a.stamp
  rw [sendNegativeSetupReply_eq hbare h₁] at hturn
  obtain ⟨m, hreply⟩ := negativeReply_rejectionPdu h₁ a.stamp (receivedId aper a.buffer)
  obtain ⟨r₃, rest, hloop, -, -, hsame⟩ := setupLoopRan_spec hbare h₁ hafter
  obtain ⟨n, rest', hloop', hreplies⟩ := hsame (r₁.rejectionCounter (receivedId aper a.buffer))
  exact ⟨r₁, sent, _, _, m, hbefore, hturn, hreply, rfl, r₃, n, rest, rest', hloop, hloop',
    hreplies⟩

/-- The aligned PER encoding of a rejection by a RAN without an identifier. Its message and request
identifiers are one more than the arguments. -/
def rejectionBytes (id requestId : UInt8) : Bytes :=
  [0x00, id, 0x0E, 0x00, requestId, 0x8C] ++ text "unknown" ++ [0x20] ++ text "1.0.0" ++
    [0x03, 0x80, 0x01, 0x08, 0x1F, 0x00, 0x1D] ++ text "not a decodable setup request"

/-- The aligned PER encoding of a release by dApp 1, with message identifier 9. -/
def releaseBytes : Bytes := [0x00, 0x08, 0x48, 0x00, 0x00]

/-- A codec that writes these rejections and reads this release. -/
def rejectionAper : AperCodec where
  encoding p :=
    match p.msg with
    | .setupResponse m =>
      rejectionBytes (UInt8.ofNat (p.id - 1).toNat) (UInt8.ofNat (m.requestId - 1).toNat)
    | _ => []
  decode buffer := if buffer = releaseBytes then some ⟨9, none, .releaseMessage ⟨1⟩⟩ else none

theorem bareResponsesFit_rejectionAper : rejectionAper.BareResponsesFit := by
  have hname : (text "unknown").length = 7 := by decide +kernel
  have hversion : (text "1.0.0").length = 5 := by decide +kernel
  have hdetail : (text "not a decodable setup request").length = 29 := by decide +kernel
  intro p m hm _ _
  simp [rejectionAper, hm, rejectionBytes, hname, hversion, hdetail, AperCodec.bufferSize]

theorem accepted_initialized : (initialized {}).Accepted :=
  ⟨rfl, rfl, by decide +kernel, by decide⟩

theorem not_isSetupRequest_rejectionAper (buffer : Bytes) :
    ¬ IsSetupRequest rejectionAper buffer := by
  rintro ⟨p, m, hdec, hm⟩
  obtain ⟨-, rfl⟩ := Partial.of_check hdec
  exact nomatch hm

theorem handles_rejectionAper {buffer : Bytes} (hne : buffer ≠ []) :
    (initialized {}).Handles rejectionAper buffer := by
  refine ⟨hne, fun p hdec => ?_, fun hreq => absurd hreq (not_isSetupRequest_rejectionAper _)⟩
  obtain ⟨-, rfl⟩ := Partial.of_check hdec
  simp

/-- A release on the setup channel, with garbage after it, is refused with its identifier. -/
theorem malformed_setup_answered_release :
    ∃ r₂ p m, (initialized {}).setupTurn (asn1E3Encoder rejectionAper) 0 releaseBytes =
        some (r₂, [rejectionAper.encoding p]) ∧
      NegativeReply 9 p m ∧ m.requestId = 9 := by
  have hall : ∀ b ∈ [] ++ (⟨0, releaseBytes⟩ : Arrival) :: [⟨0, [0xFF]⟩],
      (initialized {}).Handles rejectionAper b.buffer := by
    simp only [List.nil_append, List.forall_mem_cons, List.not_mem_nil, false_implies,
      implies_true, and_true]
    exact ⟨handles_rejectionAper (by decide), handles_rejectionAper (by decide)⟩
  obtain ⟨r₁, sent, r₂, p, m, hloop, hturn, hreply, -⟩ := malformed_setup_answered
    bareResponsesFit_rejectionAper accepted_initialized hall (not_isSetupRequest_rejectionAper _)
  obtain rfl := (Prod.mk.inj (Option.some.inj hloop)).1
  exact ⟨r₂, p, m, hturn, hreply, hreply.requestId (by decide)⟩

/-- A message without bytes does not decode, and the RAN sends nothing for it. -/
theorem empty_setup_message_unanswered :
    (initialized {}).Accepted ∧ rejectionAper.BareResponsesFit ∧
      ¬ IsSetupRequest rejectionAper [] ∧ asn1Decode rejectionAper [] = none ∧
      (initialized {}).setupTurn (asn1E3Encoder rejectionAper) 0 [] =
        some (initialized {}, []) :=
  ⟨accepted_initialized, bareResponsesFit_rejectionAper, not_isSetupRequest_rejectionAper [], rfl,
    rfl⟩

end Ran

end LibE3
