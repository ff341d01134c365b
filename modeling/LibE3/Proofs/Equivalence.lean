import LibE3.Proofs.Asn1RoundTrip
import LibE3.Proofs.JsonRoundTrip

/-!
# The three encodings

A message that the grammar allows, with texts that are UTF-8 and payloads that are compact JSON, is
returned as it was by all three encodings, unless it has a detail without any text: ASN.1 does not
send that one, and it is read back as absent.
-/

namespace LibE3

/-! ## What all three encoders take -/

structure RanFunctionDef.InGrammar (func : RanFunctionDef) : Prop where
  ids : func.IdsInRange
  telemetry : func.telemetryIdentifierList.length ≤ maxIdentifierListSize
  control : func.controlIdentifierList.length ≤ maxIdentifierListSize
  data : SizeIn 1 262144 func.ranFunctionData

/-- `SEQUENCE (SIZE (0..256)) OF INTEGER (1..65535)`. -/
def IdListInGrammar (ids : List UInt32) : Prop :=
  ids.length ≤ maxIdentifierListSize ∧ ∀ id ∈ ids, InIdRange id

/-- The constraints of the grammar on the fields of a message. -/
def PduChoice.InGrammar : PduChoice → Prop
  | .setupRequest m =>
    IsVersion m.e3apProtocolVersion ∧ IsName m.dappName ∧ IsVersion m.dappVersion ∧ IsName m.vendor
  | .setupResponse m =>
    m.requestId ≠ 0 ∧ IsName m.ranIdentifier ∧ (∀ v ∈ m.e3apProtocolVersion, IsVersion v) ∧
      (∀ d ∈ m.dappIdentifier, InIdRange d) ∧ m.ranFunctionList.length ≤ maxRanFunctions ∧
      (∀ func ∈ m.ranFunctionList, func.InGrammar) ∧ ∀ t ∈ m.detail, IsText t
  | .subscriptionRequest m =>
    InIdRange m.dappIdentifier ∧ InIdRange m.ranFunctionIdentifier ∧
      IdListInGrammar m.telemetryIdentifierList ∧ IdListInGrammar m.controlIdentifierList ∧
      (∀ t ∈ m.subscriptionTime, t ≤ 86400) ∧ ∀ p ∈ m.periodicity, p ≤ 60000000
  | .subscriptionDelete m => InIdRange m.dappIdentifier ∧ InIdRange m.subscriptionId
  | .subscriptionResponse m =>
    m.requestId ≠ 0 ∧ InIdRange m.dappIdentifier ∧ (∀ s ∈ m.subscriptionId, InIdRange s) ∧
      (∀ l ∈ m.telemetryIdentifierList, IdListInGrammar l) ∧
      (∀ l ∈ m.controlIdentifierList, IdListInGrammar l) ∧
      (∀ f ∈ m.ranFunctionIdentifier, InIdRange f) ∧ (∀ p ∈ m.periodicity, p ≤ 60000000) ∧
      ∀ t ∈ m.detail, IsText t
  | .indicationMessage m =>
    InIdRange m.dappIdentifier ∧ InIdRange m.ranFunctionIdentifier ∧ IsPayload m.protocolData
  | .dappControlAction m =>
    InIdRange m.dappIdentifier ∧ InIdRange m.ranFunctionIdentifier ∧
      InIdRange m.controlIdentifier ∧ IsPayload m.actionData
  | .dappReport m =>
    InIdRange m.dappIdentifier ∧ InIdRange m.ranFunctionIdentifier ∧ m.sequenceId ≠ 0 ∧
      IsPayload m.reportData
  | .xappControlAction m =>
    InIdRange m.dappIdentifier ∧ InIdRange m.ranFunctionIdentifier ∧ m.sequenceId ≠ 0 ∧
      IsPayload m.xappControlData
  | .releaseMessage m => InIdRange m.dappIdentifier
  | .messageAck m => m.requestId ≠ 0 ∧ ∀ t ∈ m.detail, IsText t

def PduChoice.texts : PduChoice → List Bytes
  | .setupRequest m => [m.e3apProtocolVersion, m.dappName, m.dappVersion, m.vendor]
  | .setupResponse m => m.e3apProtocolVersion.toList ++ m.ranIdentifier :: m.detail.toList
  | .subscriptionResponse m => m.detail.toList
  | .messageAck m => m.detail.toList
  | _ => []

/-- The opaque data of a message: its payload, and the data of its RAN functions. -/
def PduChoice.opaqueData : PduChoice → List Bytes
  | .setupResponse m => m.ranFunctionList.map RanFunctionDef.ranFunctionData
  | choice => choice.payload.toList

/-- An object or an array in the form the library writes. -/
def IsCompact (lib : Json.Library) (fmt : Json.FloatFormat) (raw : Bytes) : Prop :=
  ∃ j, JsonE3Encoder.IsContainer j ∧ Json.Held fmt j ∧ raw = lib.text j

/-- A message that all three encodings are meant to carry. -/
structure Pdu.Portable (lib : Json.Library) (fmt : Json.FloatFormat) (pdu : Pdu) : Prop where
  type : pdu.type = pdu.choice.type
  messageId : pdu.messageId ≠ 0
  grammar : pdu.choice.InGrammar
  texts : ∀ t ∈ pdu.choice.texts, Json.validUtf8 t = true
  compact : ∀ raw ∈ pdu.choice.opaqueData, IsCompact lib fmt raw

/-! ## ASN.1 -/

theorem IdListInGrammar.isIdList {ids : List UInt32} (h : IdListInGrammar ids) :
    IsIdList (setIdList ids) :=
  (isIdList_setIdList h.1).mpr h.2

theorem RanFunctionDef.InGrammar.valid {func : RanFunctionDef} (h : func.InGrammar) :
    (setRanFunction func).Valid :=
  ⟨isId_setId.mpr h.ids.ranFunction, (isIdList_setIdList h.telemetry).mpr h.ids.telemetry,
    (isIdList_setIdList h.control).mpr h.ids.control, h.data⟩

theorem forall_mem_map_setId {P : ℤ → Prop} {v : Option UInt32} :
    (∀ x ∈ v.map setId, P x) ↔ ∀ x ∈ v, P (setId x) := by
  cases v <;> simp

theorem inRange_setId {v hi : UInt32} (h : v ≤ hi) : InRange 0 (setId hi) (setId v) :=
  ⟨Int.natCast_nonneg _, Int.ofNat_le.mpr (UInt32.le_iff_toNat_le.mp h)⟩

theorem isCause_map (cause : Option Cause) : ∀ x ∈ cause.map Cause.value, IsCause x := by
  intro x hx
  obtain ⟨c, -, rfl⟩ := Option.mem_map.mp hx
  exact isCause_value c

variable {choice : PduChoice}

theorem PduChoice.InGrammar.valid (h : choice.InGrammar) :
    ∃ msg, choiceToAsn1 choice.type choice = some msg ∧ msg.Valid := by
  cases choice with
  | setupRequest m => exact ⟨_, rfl, h⟩
  | setupResponse m =>
    obtain ⟨hid, hname, hversion, hdapp, hsize, hfuncs, -⟩ := h
    refine ⟨_, rfl, isMessageId_setId.mpr hid, isResponseCode_setResponseCode _, hname, hversion,
      ?_, ?_, isCause_map m.cause, fun t ht => isText_setDetail ht⟩
    · exact forall_mem_map_setId.mpr fun d hd => isId_setId.mpr (hdapp d hd)
    · intro l hl
      simp only [setSetupResponse] at hl
      split_ifs at hl
      · cases hl
      · obtain rfl := Option.some.inj hl
        refine ⟨⟨Nat.zero_le _, by rw [List.length_map]; exact hsize⟩, ?_⟩
        exact List.forall_mem_map.mpr fun func hf => (hfuncs func hf).valid
  | subscriptionRequest m =>
    obtain ⟨hdapp, hfunc, htel, hctl, htime, hper⟩ := h
    refine ⟨_, rfl, isId_setId.mpr hdapp, isId_setId.mpr hfunc, htel.isIdList, hctl.isIdList,
      ?_, ?_⟩
    · exact forall_mem_map_setId.mpr fun t ht => inRange_setId (htime t ht)
    · exact forall_mem_map_setId.mpr fun p hp => inRange_setId (hper p hp)
  | subscriptionDelete m => exact ⟨_, rfl, isId_setId.mpr h.1, isId_setId.mpr h.2⟩
  | subscriptionResponse m =>
    obtain ⟨hid, hdapp, hsub, htel, hctl, hfunc, hper, -⟩ := h
    refine ⟨_, rfl, isMessageId_setId.mpr hid, isId_setId.mpr hdapp,
      isResponseCode_setResponseCode _, ?_, ?_, ?_, isCause_map m.cause,
      fun t ht => isText_setDetail ht, ?_, ?_⟩
    · exact forall_mem_map_setId.mpr fun s hs => isId_setId.mpr (hsub s hs)
    · intro l hl
      obtain ⟨ids, hids, rfl⟩ := Option.mem_map.mp hl
      exact (htel ids hids).isIdList
    · intro l hl
      obtain ⟨ids, hids, rfl⟩ := Option.mem_map.mp hl
      exact (hctl ids hids).isIdList
    · exact forall_mem_map_setId.mpr fun f hf => isId_setId.mpr (hfunc f hf)
    · exact forall_mem_map_setId.mpr fun p hp => inRange_setId (hper p hp)
  | indicationMessage m => exact ⟨_, rfl, isId_setId.mpr h.1, isId_setId.mpr h.2.1, h.2.2⟩
  | dappControlAction m =>
    obtain ⟨hdapp, hfunc, hctl, hdata⟩ := h
    refine ⟨_, rfl, isId_setId.mpr hdapp, isId_setId.mpr hfunc, isId_setId.mpr hctl, ?_, hdata⟩
    intro s hs
    split_ifs at hs with hne
    · obtain rfl := Option.some.inj hs
      exact isMessageId_setId.mpr hne
    · cases hs
  | dappReport m =>
    exact ⟨_, rfl, isId_setId.mpr h.1, isId_setId.mpr h.2.1, isMessageId_setId.mpr h.2.2.1, h.2.2.2⟩
  | xappControlAction m =>
    exact ⟨_, rfl, isId_setId.mpr h.1, isId_setId.mpr h.2.1, isMessageId_setId.mpr h.2.2.1, h.2.2.2⟩
  | releaseMessage m => exact ⟨_, rfl, isId_setId.mpr h⟩
  | messageAck m =>
    exact ⟨_, rfl, isMessageId_setId.mpr h.1, isResponseCode_setResponseCode _,
      isCause_map m.cause, fun t ht => isText_setDetail ht⟩

theorem detail_asn1ToPdu (a : E3Pdu) : (asn1ToPdu a).choice.detail ≠ some [] := by
  have hget : ∀ detail, getDetail detail ≠ some [] := fun detail h => by
    rw [getDetail, Option.filter_eq_some_iff] at h
    simp at h
  obtain ⟨id, timestamp, msg⟩ := a
  cases msg with
  | setupResponse m => exact hget m.detail
  | subscriptionResponse m => exact hget m.detail
  | messageAck m => exact hget m.detail
  | _ => rintro ⟨⟩

/-! ## JSON -/

namespace JsonE3Encoder

variable {lib : Json.Library} {fmt : Json.FloatFormat}

variable (fmt) in
theorem IsContainer.write {j : Json} (h : IsContainer j) :
    ∃ b t, Json.write fmt j = b :: t ∧ (b = 0x7B ∨ b = 0x5B) := by
  rcases h with ⟨members, rfl⟩ | ⟨elems, rfl⟩
  · exact ⟨0x7B, _, by rw [Json.write], .inl rfl⟩
  · exact ⟨0x5B, _, by rw [Json.write], .inr rfl⟩

variable {raw : Bytes}

theorem isJsonContainer_compact (hlib : lib.Follows fmt) (h : IsCompact lib fmt raw) :
    isJsonContainer lib raw = true := by
  obtain ⟨j, hj, hheld, rfl⟩ := h
  have haccept : lib.accept (lib.text j) = true := by
    rw [Json.Library.accept, hlib.parse_text hheld]
    rfl
  obtain ⟨b, t, hwrite, hb⟩ := hj.write fmt
  rw [hlib.text_eq, hwrite] at haccept ⊢
  have hdrop : (b :: t).dropWhile isJsonWs = b :: t := by
    rcases hb with rfl | rfl <;> rfl
  unfold isJsonContainer
  rw [hdrop]
  simp [haccept, hb]

/-- What `encode` can write: the payload of an indication is JSON, other opaque data are objects or
arrays, and the texts are UTF-8. -/
structure Writable (lib : Json.Library) (choice : PduChoice) : Prop where
  data : ∀ raw ∈ choice.opaqueData,
    (if choice.type = .indicationMessage then lib.accept raw else isJsonContainer lib raw) = true
  texts : ∀ t ∈ choice.texts, Json.validUtf8 t = true

theorem visit_isSome : (visit lib choice).isSome = true ↔ ∀ raw ∈ choice.opaqueData,
    (if choice.type = .indicationMessage then lib.accept raw else isJsonContainer lib raw)
      = true := by
  cases choice with
  | setupResponse resp =>
    rcases mapM_encodeRanFunction lib resp.ranFunctionList with ⟨ranFuncs, hl, -, hall⟩ | ⟨hl, hnot⟩
    · simpa [visit, encodeSetupResponse, hl, PduChoice.opaqueData, PduChoice.type] using hall
    · simpa [visit, encodeSetupResponse, hl, PduChoice.opaqueData, PduChoice.type] using hnot
  | indicationMessage msg =>
    simp [visit, encodeIndicationMessage, PduChoice.opaqueData, PduChoice.payload, PduChoice.type]
  | dappControlAction action =>
    simp [visit, withPayload, PduChoice.opaqueData, PduChoice.payload, PduChoice.type]
  | dappReport report =>
    simp [visit, withPayload, PduChoice.opaqueData, PduChoice.payload, PduChoice.type]
  | xappControlAction action =>
    simp [visit, withPayload, PduChoice.opaqueData, PduChoice.payload, PduChoice.type]
  | _ => simp [visit, PduChoice.opaqueData, PduChoice.payload]

/-- The fields of a message have different keys, and they are UTF-8 if its texts are. -/
theorem fields_visit {v : Visited} (hv : visit lib choice = some v) :
    (v.fields.map Prod.fst).Nodup ∧
      ((∀ f ∈ v.fields, f.2.utf8 = true) ↔ ∀ t ∈ choice.texts, Json.validUtf8 t = true) := by
  cases choice with
  | setupRequest req =>
    obtain rfl := Option.some.inj hv
    simp [encodeSetupRequest, Json.utf8_str, PduChoice.texts]
  | setupResponse resp =>
    rcases mapM_encodeRanFunction lib resp.ranFunctionList with ⟨ranFuncs, hl, hutf8, -⟩ | ⟨hl, -⟩
    · simp only [visit, encodeSetupResponse, hl, Option.map_some, Option.some.injEq] at hv
      obtain rfl := hv
      refine ⟨(keys_setupResponseFields_sublist resp ranFuncs).nodup (by decide), ?_⟩
      rw [utf8_setupResponseFields hutf8]
      simp [PduChoice.texts, or_imp, forall_and]
    · simp [visit, encodeSetupResponse, hl] at hv
  | subscriptionRequest req =>
    obtain rfl := Option.some.inj hv
    simp only [encodeSubscriptionRequest, List.map_append, List.forall_mem_append,
      List.forall_mem_cons, forall_optional, utf8_number, utf8_idList, List.not_mem_nil,
      false_implies, implies_true, and_self, PduChoice.texts, and_true]
    refine ((List.Sublist.refl _).append (keys_optional_sublist ..)
      |>.append (keys_optional_sublist ..)).nodup ?_
    simp
  | subscriptionResponse resp =>
    obtain rfl := Option.some.inj hv
    simp only [encodeSubscriptionResponse, writeReason, List.map_append, List.forall_mem_append,
      List.forall_mem_cons, forall_optional, utf8_number, utf8_idList, utf8_responseCodeField,
      validUtf8_text, Json.utf8_str, List.not_mem_nil, false_implies, implies_true,
      true_and]
    refine ⟨((List.Sublist.refl _).append (keys_optional_sublist ..)
      |>.append (keys_optional_sublist ..) |>.append (keys_optional_sublist ..)
      |>.append (keys_optional_sublist ..) |>.append (keys_optional_sublist ..)
      |>.append (.append (keys_optional_sublist ..) (keys_optional_sublist ..))).nodup ?_, ?_⟩
    · simp [responseCodeField]
    · simp [PduChoice.texts]
  | messageAck ack =>
    obtain rfl := Option.some.inj hv
    simp only [encodeMessageAck, writeReason, List.map_append, List.forall_mem_append,
      List.forall_mem_cons, forall_optional, utf8_number, utf8_responseCodeField,
      validUtf8_text, Json.utf8_str, List.not_mem_nil, false_implies, implies_true,
      true_and]
    refine ⟨((List.Sublist.refl _).append
      (.append (keys_optional_sublist ..) (keys_optional_sublist ..))).nodup ?_, ?_⟩
    · simp [responseCodeField]
    · simp [PduChoice.texts]
  | subscriptionDelete del =>
    obtain rfl := Option.some.inj hv
    simp [encodeSubscriptionDelete, PduChoice.texts]
  | indicationMessage msg =>
    obtain ⟨fields, hfields, rfl⟩ := Option.map_eq_some_iff.mp hv
    obtain ⟨-, rfl⟩ := Partial.of_check hfields
    simp [PduChoice.texts]
  | dappControlAction action =>
    obtain ⟨-, rfl⟩ := Partial.of_check hv
    by_cases hseq : action.sequenceId = 0
    · simp [encodeDappControlAction, hseq, PduChoice.texts]
    · simp [encodeDappControlAction, hseq, PduChoice.texts]
  | dappReport report =>
    obtain ⟨-, rfl⟩ := Partial.of_check hv
    simp [encodeDappReport, PduChoice.texts]
  | xappControlAction action =>
    obtain ⟨-, rfl⟩ := Partial.of_check hv
    simp [encodeXappControlAction, PduChoice.texts]
  | releaseMessage msg =>
    obtain rfl := Option.some.inj hv
    simp [encodeReleaseMessage, PduChoice.texts]

/-- Only the alternative decides whether a PDU is encoded. -/
theorem encode_isSome_iff (hlib : lib.Follows fmt) (pdu : Pdu) :
    (encode lib pdu).isSome ↔ Writable lib pdu.choice := by
  have hutf8 {v : Visited} (hv : visit lib pdu.choice = some v) :
      (Json.obj (envelope pdu v.fields)).utf8 = true ↔
        ∀ t ∈ pdu.choice.texts, Json.validUtf8 t = true :=
    (Json.utf8_update (utf8_rootFields pdu) (fields_visit hv).1).trans (fields_visit hv).2
  constructor
  · intro h
    obtain ⟨bytes, hbytes⟩ := Option.isSome_iff_exists.mp h
    obtain ⟨v, json, hv, hwritten, -⟩ := encode_some hbytes
    exact ⟨visit_isSome.mp (Option.isSome_of_eq_some hv), (hutf8 hv).mp hwritten⟩
  · intro h
    obtain ⟨v, hv⟩ := Option.isSome_iff_exists.mp (visit_isSome.mpr h.data)
    obtain ⟨json, hjson⟩ := spliceProtocolData_visit hlib hv
    have hdump : lib.dump (.obj (Json.update (rootFields pdu) v.fields))
        = some (lib.text (.obj (envelope pdu v.fields))) := if_pos ((hutf8 hv).mpr h.texts)
    rw [encode, hv, Option.bind_some, hdump, Option.bind_some, hjson]
    rfl

theorem encode_portable (hlib : lib.Follows fmt) {pdu : Pdu} (h : pdu.Portable lib fmt) :
    ∃ bytes, encode lib pdu = some bytes := by
  refine Option.isSome_iff_exists.mp ((encode_isSome_iff hlib pdu).mpr ⟨fun raw hraw => ?_, h.texts⟩)
  have hcontainer := isJsonContainer_compact hlib (h.compact raw hraw)
  obtain ⟨j, hj⟩ := isJsonContainer_accept hcontainer
  simp [Json.Library.accept, hj, hcontainer]

/-! ### Compact data -/

theorem stripWs_compact (hlib : lib.Follows fmt) (h : IsCompact lib fmt raw) :
    stripWs raw = raw := by
  obtain ⟨j, -, hheld, rfl⟩ := h
  have hspells := Json.spells_write j hheld
  rw [hlib.text_eq]
  simpa using stripWs_spells Json.ws_nil hspells Json.ws_nil

theorem compacted_compact (hlib : lib.Follows fmt) (h : IsCompact lib fmt raw) :
    compacted lib raw = raw := by
  obtain ⟨j, -, hheld, rfl⟩ := h
  rw [compacted, hlib.parse_text hheld]
  rfl

theorem readBack_compact (hlib : lib.Follows fmt)
    (h : ∀ raw ∈ choice.opaqueData, IsCompact lib fmt raw) : readBack lib choice = choice := by
  cases choice with
  | setupResponse resp =>
    have hlist : resp.ranFunctionList.map (compactedFunction lib) = resp.ranFunctionList := by
      calc resp.ranFunctionList.map (compactedFunction lib)
          = resp.ranFunctionList.map id := List.map_congr_left fun func hfunc => by
            rw [compactedFunction, compacted_compact hlib (h _ (List.mem_map_of_mem hfunc)), id]
        _ = resp.ranFunctionList := List.map_id _
    simp [readBack, compactedResponse, hlist]
  | indicationMessage msg =>
    simp [readBack, stripWs_compact hlib (h msg.protocolData List.mem_cons_self)]
  | dappControlAction action =>
    simp [readBack, stripWs_compact hlib (h action.actionData List.mem_cons_self)]
  | dappReport report =>
    simp [readBack, stripWs_compact hlib (h report.reportData List.mem_cons_self)]
  | xappControlAction action =>
    simp [readBack, stripWs_compact hlib (h action.xappControlData List.mem_cons_self)]
  | _ => rfl

theorem plain_compact (hlib : lib.Follows fmt) (h : IsCompact lib fmt raw) :
    0 ∉ raw ∧ ¬Json.bom <+: raw := by
  obtain ⟨j, hj, hheld, rfl⟩ := h
  rw [hlib.text_eq]
  refine ⟨(Json.spells_write j hheld).zero_notMem, ?_⟩
  rintro ⟨r, hr⟩
  obtain ⟨b, t, hwrite, hb⟩ := hj.write fmt
  rw [hwrite] at hr
  obtain rfl : 0xEF = b := (List.cons.inj hr).1
  rcases hb with hb | hb
  · exact absurd hb (by decide)
  · exact absurd hb (by decide)

theorem mem_opaqueData (h : raw ∈ choice.payload) :
    raw ∈ choice.opaqueData := by
  cases choice with
  | setupResponse resp => cases h
  | _ => exact Option.mem_toList.mpr h

theorem isPayload_of_payload (h : choice.InGrammar) (hraw : raw ∈ choice.payload) :
    IsPayload raw := by
  cases choice with
  | indicationMessage msg => exact Option.some.inj hraw ▸ h.2.2
  | dappControlAction action => exact Option.some.inj hraw ▸ h.2.2.2
  | dappReport report => exact Option.some.inj hraw ▸ h.2.2.2
  | xappControlAction action => exact Option.some.inj hraw ▸ h.2.2.2
  | _ => cases hraw

theorem decode_portable (hlib : lib.Follows fmt) {truncate : UInt64 → ℤ} {pdu : Pdu}
    {bytes : Bytes} (h : pdu.Portable lib fmt) (hbytes : encode lib pdu = some bytes) :
    decode lib truncate bytes = .ok pdu := by
  have hplain : ∀ raw ∈ pdu.choice.payload, Plain raw := fun raw hraw => by
    obtain ⟨hzero, hbom⟩ := plain_compact hlib (h.compact raw (mem_opaqueData hraw))
    have hlen := (isPayload_of_payload h.grammar hraw).2
    refine ⟨hzero, hbom, fun hdeep => absurd hdeep.lt_length ?_⟩
    rw [not_lt]
    exact hlen.trans (by decide)
  rw [decode_of_plain hlib h.type hbytes hplain, readBack_compact hlib h.compact]

end JsonE3Encoder

/-! ## Protocol Buffers -/

namespace Protobuf

@[simp] theorem fromPbResponseCode_toPbResponseCode (rc : ResponseCode) :
    fromPbResponseCode (toPbResponseCode rc) = rc := by
  cases rc <;> rfl

@[simp] theorem fromPbCause_comp_toPbCause : fromPbCause ∘ toPbCause = id :=
  funext causeFromValue_value

@[simp] theorem fromPbRanFunction_comp_toPbRanFunction :
    fromPbRanFunction ∘ toPbRanFunction = id :=
  rfl

theorem choiceOfProto_choiceToProto (choice : PduChoice) :
    ∃ msg, choiceToProto choice.type choice = some msg
      ∧ choiceOfProto msg = (choice.type, choice) := by
  cases choice with
  | _ => exact ⟨_, rfl, by simp [choiceOfProto, PduChoice.type]⟩

theorem decode_encode {codec : Codec} {parse : Bytes → Option E3Pdu} {pdu : Pdu}
    (htype : pdu.type = pdu.choice.type)
    (h : ∀ proto ∈ pduToProto pdu, parse (codec.serialize proto) = some proto) :
    ∃ bytes, encode codec pdu = some bytes ∧ decode parse bytes = some pdu := by
  obtain ⟨msg, hmsg, hback⟩ := choiceOfProto_choiceToProto pdu.choice
  have hproto : pduToProto pdu = some ⟨pdu.messageId, pdu.timestamp, some msg⟩ := by
    rw [pduToProto, htype, hmsg, Option.map_some]
  refine ⟨_, by rw [encode, hproto, Option.map_some], ?_⟩
  rw [decode, h _ hproto, Option.bind_some, Option.map_some, protoToPdu, hback]
  simp [← htype]

end Protobuf

/-! ## The encodings together -/

/-- The generated codecs carry the values they are handed for this message, and its APER encoding
fits the buffer. -/
structure Codecs.Carry (codecs : Codecs) (parse : Bytes → Option Protobuf.E3Pdu) (pdu : Pdu) :
    Prop where
  fits : ∀ a ∈ pduToAsn1 pdu, (codecs.aper.encoding a).length ≤ AperCodec.bufferSize
  ne_nil : ∀ a ∈ pduToAsn1 pdu, codecs.aper.encoding a ≠ []
  aper : ∀ a ∈ pduToAsn1 pdu, codecs.aper.decode (codecs.aper.encoding a) = some a
  protobuf : ∀ proto ∈ Protobuf.pduToProto pdu, parse (codecs.protobuf.serialize proto) = some proto

variable {codecs : Codecs} {parse : Bytes → Option Protobuf.E3Pdu} {fmt : Json.FloatFormat}
  {pdu : Pdu}

theorem asn1_portable (h : pdu.Portable codecs.json fmt) (hcarry : codecs.Carry parse pdu) :
    ∃ a bytes, pduToAsn1 pdu = some a ∧ asn1Encode codecs.aper pdu = some bytes
      ∧ asn1Decode codecs.aper bytes = some (asn1ToPdu a) := by
  obtain ⟨msg, hmsg, hvalid⟩ := h.grammar.valid
  have ha : pduToAsn1 pdu = some ⟨setId pdu.messageId, setTimestamp pdu.timestamp, msg⟩ := by
    rw [pduToAsn1, h.type, hmsg, Option.map_some]
  generalize hE3 : (⟨setId pdu.messageId, setTimestamp pdu.timestamp, msg⟩ : E3Pdu) = a at ha
  have haValid : a.Valid := hE3 ▸ ⟨isMessageId_setId.mpr h.messageId, hvalid⟩
  have hbytes := AperCodec.encodeToBuffer_eq_some.mpr ⟨haValid, hcarry.fits a ha, rfl⟩
  refine ⟨a, codecs.aper.encoding a, ha, by rw [asn1Encode, ha, Option.bind_some, hbytes], ?_⟩
  rw [asn1Decode, if_neg (hcarry.ne_nil a ha), hcarry.aper a ha, Option.map_some]

theorem isDetail_of_portable (h : pdu.Portable codecs.json fmt)
    (hdetail : pdu.choice.detail ≠ some []) : ∀ t ∈ pdu.choice.detail, IsDetail t := by
  intro t ht
  have hne : t ≠ [] := fun hnil => hdetail (hnil ▸ ht)
  have htexts := h.texts t
  have hgrammar := h.grammar
  cases hchoice : pdu.choice with
  | setupResponse resp =>
    rw [hchoice] at ht htexts hgrammar
    refine ⟨hne, htexts ?_, (hgrammar.2.2.2.2.2.2 t ht).2⟩
    exact List.mem_append_right _ (List.mem_cons_of_mem _ (Option.mem_toList.mpr ht))
  | subscriptionResponse resp =>
    rw [hchoice] at ht htexts hgrammar
    exact ⟨hne, htexts (Option.mem_toList.mpr ht), (hgrammar.2.2.2.2.2.2.2 t ht).2⟩
  | messageAck ack =>
    rw [hchoice] at ht htexts hgrammar
    exact ⟨hne, htexts (Option.mem_toList.mpr ht), (hgrammar.2 t ht).2⟩
  | _ =>
    rw [hchoice] at ht
    cases ht

/-- All three encoders take a portable message, and JSON and Protocol Buffers return it as it was.
ASN.1 does exactly when the message has no detail that is present but empty. -/
theorem encodings_interchangeable_iff (hjson : codecs.json.Follows fmt)
    (h : pdu.Portable codecs.json fmt) (hcarry : codecs.Carry parse pdu)
    (truncate : UInt64 → ℤ) :
    ∃ asn1Bytes jsonBytes protoBytes,
      asn1Encode codecs.aper pdu = some asn1Bytes
      ∧ JsonE3Encoder.encode codecs.json pdu = some jsonBytes
      ∧ Protobuf.encode codecs.protobuf pdu = some protoBytes
      ∧ JsonE3Encoder.decode codecs.json truncate jsonBytes = .ok pdu
      ∧ Protobuf.decode parse protoBytes = some pdu
      ∧ (asn1Decode codecs.aper asn1Bytes = some pdu ↔ pdu.choice.detail ≠ some []) := by
  obtain ⟨a, asn1Bytes, ha, hasn1, hdecode⟩ := asn1_portable h hcarry
  obtain ⟨jsonBytes, hjsonBytes⟩ := JsonE3Encoder.encode_portable hjson h
  obtain ⟨protoBytes, hproto, hprotoDecode⟩ := Protobuf.decode_encode h.type hcarry.protobuf
  refine ⟨asn1Bytes, jsonBytes, protoBytes, hasn1, hjsonBytes, hproto,
    JsonE3Encoder.decode_portable hjson h hjsonBytes, hprotoDecode, ?_⟩
  rw [hdecode, Option.some_inj]
  constructor
  · intro hback
    rw [← hback]
    exact detail_asn1ToPdu a
  · intro hdetail
    obtain ⟨a', ha', hback⟩ := asn1ToPdu_of_detail h.type (isDetail_of_portable h hdetail)
    rw [ha] at ha'
    rw [Option.some.inj ha', hback]

/-- Codecs that carry one message, with its bytes in aligned PER and in Protocol Buffers. -/
def codecsOf (asn1Bytes : Bytes) (a : E3Pdu) (protoBytes : Bytes) : Codecs where
  aper := ⟨fun _ => asn1Bytes, fun data => if data = asn1Bytes then some a else none⟩
  json := Json.reference Json.noFloats
  protobuf := ⟨fun _ => protoBytes⟩

def parseOf (protoBytes : Bytes) (proto : Protobuf.E3Pdu) (data : Bytes) :
    Option Protobuf.E3Pdu :=
  if data = protoBytes then some proto else none

theorem carry_codecsOf {asn1Bytes protoBytes : Bytes} {a : E3Pdu} {proto : Protobuf.E3Pdu}
    (ha : pduToAsn1 pdu = some a) (hproto : Protobuf.pduToProto pdu = some proto)
    (hne : asn1Bytes ≠ []) (hfits : asn1Bytes.length ≤ AperCodec.bufferSize) :
    (codecsOf asn1Bytes a protoBytes).Carry (parseOf protoBytes proto) pdu where
  fits _ _ := hfits
  ne_nil _ _ := hne
  aper a' ha' := by
    rw [ha] at ha'
    obtain rfl := Option.some.inj ha'
    simp [codecsOf]
  protobuf proto' hproto' := by
    rw [hproto] at hproto'
    obtain rfl := Option.some.inj hproto'
    simp [codecsOf, parseOf]

def emptyObjectIndication : Pdu where
  type := .indicationMessage
  choice := .indicationMessage
    { dappIdentifier := 1, ranFunctionIdentifier := 1, protocolData := [0x7B, 0x7D] }
  messageId := 9

theorem isCompact_emptyObject :
    IsCompact (Json.reference Json.noFloats) Json.noFloats [0x7B, 0x7D] :=
  ⟨.obj [], .inl ⟨[], rfl⟩, by simp [Json.Held, Json.HeldMembers], by decide +kernel⟩

theorem portable_emptyObjectIndication :
    emptyObjectIndication.Portable (Json.reference Json.noFloats) Json.noFloats where
  type := rfl
  messageId := by decide
  grammar := ⟨by decide, by decide, by decide⟩
  texts := nofun
  compact raw hraw := by
    obtain rfl := List.mem_singleton.mp hraw
    exact isCompact_emptyObject

def indicationCodecs : Codecs :=
  codecsOf [0x00, 0x08, 0x28, 0x00, 0x00, 0x00, 0x00, 0x00, 0x01, 0x7B, 0x7D]
    ⟨9, none, .indicationMessage ⟨1, 1, [0x7B, 0x7D]⟩⟩
    [0x08, 0x09, 0x42, 0x08, 0x08, 0x01, 0x10, 0x01, 0x1A, 0x02, 0x7B, 0x7D]

def indicationParse : Bytes → Option Protobuf.E3Pdu :=
  parseOf [0x08, 0x09, 0x42, 0x08, 0x08, 0x01, 0x10, 0x01, 0x1A, 0x02, 0x7B, 0x7D]
    ⟨9, 0, some (.indicationMessage ⟨1, 1, [0x7B, 0x7D]⟩)⟩

theorem carry_indicationCodecs :
    indicationCodecs.Carry indicationParse emptyObjectIndication :=
  carry_codecsOf rfl rfl (by decide) (by decide)

theorem empty_object_indication_interchangeable :
    ∃ asn1Bytes jsonBytes protoBytes,
      asn1Encode indicationCodecs.aper emptyObjectIndication = some asn1Bytes
      ∧ JsonE3Encoder.encode indicationCodecs.json emptyObjectIndication = some jsonBytes
      ∧ Protobuf.encode indicationCodecs.protobuf emptyObjectIndication = some protoBytes
      ∧ asn1Decode indicationCodecs.aper asn1Bytes = some emptyObjectIndication
      ∧ JsonE3Encoder.decode indicationCodecs.json Json.noFloats.truncate jsonBytes
        = .ok emptyObjectIndication
      ∧ Protobuf.decode indicationParse protoBytes = some emptyObjectIndication := by
  obtain ⟨asn1Bytes, jsonBytes, protoBytes, hasn1, hjson, hproto, hjsonBack, hprotoBack, hiff⟩ :=
    encodings_interchangeable_iff (Json.reference_follows Json.noFloats)
      portable_emptyObjectIndication carry_indicationCodecs Json.noFloats.truncate
  exact ⟨asn1Bytes, jsonBytes, protoBytes, hasn1, hjson, hproto, hiff.mpr nofun, hjsonBack,
    hprotoBack⟩

def emptyDetailAck : Pdu where
  type := .messageAck
  choice := .messageAck { requestId := 2, responseCode := .positive, detail := some [] }
  messageId := 1

theorem portable_emptyDetailAck :
    emptyDetailAck.Portable (Json.reference Json.noFloats) Json.noFloats where
  type := rfl
  messageId := by decide
  grammar := ⟨by decide, fun t ht => by
    obtain rfl := Option.some.inj ht
    decide⟩
  texts t ht := by
    obtain rfl := List.mem_singleton.mp ht
    decide +kernel
  compact := nofun

/-- The detail is in the grammar, and ASN.1 reads it back as absent; JSON keeps it. -/
theorem empty_detail_lost_over_asn1 :
    emptyDetailAck.Portable (Json.reference Json.noFloats) Json.noFloats
      ∧ ∃ a, pduToAsn1 emptyDetailAck = some a
        ∧ asn1Encode (codecsOf [0x00, 0x00, 0x50, 0x01, 0x00] a []).aper emptyDetailAck
          = some [0x00, 0x00, 0x50, 0x01, 0x00]
        ∧ asn1Decode (codecsOf [0x00, 0x00, 0x50, 0x01, 0x00] a []).aper
            [0x00, 0x00, 0x50, 0x01, 0x00]
          = some { emptyDetailAck with
              choice := .messageAck { requestId := 2, responseCode := .positive } }
        ∧ ∃ jsonBytes,
          JsonE3Encoder.encode (Json.reference Json.noFloats) emptyDetailAck = some jsonBytes
          ∧ JsonE3Encoder.decode (Json.reference Json.noFloats) Json.noFloats.truncate jsonBytes
            = .ok emptyDetailAck := by
  refine ⟨portable_emptyDetailAck, _, rfl, by decide, by decide, ?_⟩
  refine ⟨text ("\x7b\"detail\":\"\",\"id\":1,\"requestId\":2,\"responseCode\":\"positive\","
    ++ "\"timestamp\":0,\"type\":\"messageAck\"\x7d"), by decide +kernel, by decide +kernel⟩

end LibE3
