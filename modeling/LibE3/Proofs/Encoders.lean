import LibE3.Proofs.Ids
import LibE3.Setup

/-!
# What the encoders take

When each encoder encodes a setup response: over ASN.1 when the value is in the grammar and fits
the buffer, over JSON when its strings are UTF-8 and the data of its RAN functions are JSON
objects or arrays, over Protocol Buffers always.
-/

namespace LibE3

/-! ## Texts -/

theorem toList_loop (bytes : ByteArray) (i : ℕ) (acc : List UInt8) :
    ByteArray.toList.loop bytes i acc = acc.reverse ++ bytes.data.toList.drop i := by
  fun_induction ByteArray.toList.loop bytes i acc with
  | case1 i acc hi ih =>
    have hlt : i < bytes.data.toList.length := hi
    have hget : bytes.get! i = bytes.data.toList[i] := by simp [ByteArray.get!, getElem!_pos, hi]
    rw [ih, List.drop_eq_getElem_cons hlt, hget, List.reverse_cons, List.append_assoc]
    rfl
  | case2 i acc hi =>
    have hle : bytes.data.toList.length ≤ i := not_lt.mp hi
    rw [List.drop_eq_nil_of_le hle, List.append_nil]

theorem text_eq (s : String) : text s = s.toByteArray.data.toList :=
  toList_loop s.toByteArray 0 []

theorem validUtf8_text (s : String) : Json.validUtf8 (text s) = true := by
  rw [text_eq]
  simpa [Json.validUtf8] using s.isValidUTF8

/-! ## ASN.1 -/

theorem isId_setId {v : UInt32} : IsId (setId v) ↔ InIdRange v := by
  rw [inIdRange_iff_toNat]
  unfold IsId InRange setId
  omega

theorem isMessageId_setId {v : UInt32} : IsMessageId (setId v) ↔ v ≠ 0 := by
  have hv := v.toNat_lt
  have hzero : v = 0 ↔ v.toNat = 0 := UInt32.toNat_inj.symm
  unfold IsMessageId InRange setId
  rw [Ne, hzero]
  omega

theorem isResponseCode_setResponseCode (c : ResponseCode) : IsResponseCode (setResponseCode c) := by
  cases c <;> decide

theorem isCause_value (c : Cause) : IsCause c.value := by
  cases c <;> decide

theorem cutDetail_le (detail : Bytes) : ∀ size : ℕ, cutDetail detail size ≤ size
  | 0 => le_refl 0
  | size + 1 => by
    unfold cutDetail
    split
    · split_ifs
      · exact (cutDetail_le detail size).trans (Nat.le_succ size)
      · exact le_refl _
    · exact le_refl _

theorem isText_setDetail {detail : Option Bytes} {t : Bytes} (h : t ∈ setDetail detail) :
    IsText t := by
  cases detail with
  | none => exact nomatch h
  | some detail =>
    simp only [setDetail] at h
    split_ifs at h with hne
    · exact nomatch h
    · obtain rfl := Option.some.inj h
      have hcut := cutDetail_le detail (min detail.length maxDetailSize)
      have hmin := Nat.min_le_right detail.length maxDetailSize
      refine ⟨Nat.zero_le _, ?_⟩
      calc (detail.take (cutDetail detail (min detail.length maxDetailSize))).length
          ≤ cutDetail detail (min detail.length maxDetailSize) := List.length_take_le _ _
        _ ≤ 512 := hcut.trans hmin

/-- The identifiers of a RAN function are in the ranges of the grammar. -/
structure RanFunctionDef.IdsInRange (func : RanFunctionDef) : Prop where
  ranFunction : InIdRange func.ranFunctionIdentifier
  telemetry : ∀ id ∈ func.telemetryIdentifierList, InIdRange id
  control : ∀ id ∈ func.controlIdentifierList, InIdRange id

/-- The sizes that the RAN lists a RAN function with. -/
structure RanFunctionDef.Listable (func : RanFunctionDef) : Prop where
  data : func.ranFunctionData ≠ []
  dataSize : func.ranFunctionData.length ≤ maxProtocolDataSize
  telemetry : func.telemetryIdentifierList.length ≤ maxIdentifierListSize
  control : func.controlIdentifierList.length ≤ maxIdentifierListSize

theorem isIdList_setIdList {ids : List UInt32} (h : ids.length ≤ maxIdentifierListSize) :
    IsIdList (setIdList ids) ↔ ∀ id ∈ ids, InIdRange id := by
  unfold IsIdList SizeIn setIdList
  simp only [List.length_map, Nat.zero_le, true_and, List.forall_mem_map, isId_setId]
  exact and_iff_right h

theorem valid_setRanFunction {func : RanFunctionDef} (h : func.Listable) :
    (setRanFunction func).Valid ↔ func.IdsInRange := by
  have hdata : SizeIn 1 262144 func.ranFunctionData :=
    ⟨List.length_pos_iff.mpr h.data, h.dataSize.trans (by decide)⟩
  unfold E3RanFunctionDefinition.Valid setRanFunction
  simp only [isId_setId, isIdList_setIdList h.telemetry, isIdList_setIdList h.control, hdata,
    and_true]
  exact ⟨fun ⟨hf, ht, hc⟩ => ⟨hf, ht, hc⟩, fun hi => ⟨hi.1, hi.2, hi.3⟩⟩

/-- All constraints of the grammar on a setup response but the ranges of the identifiers of its
RAN functions. -/
structure SetupResponse.Sized (resp : SetupResponse) : Prop where
  requestId : resp.requestId ≠ 0
  ranIdentifier : IsName resp.ranIdentifier
  version : ∀ v ∈ resp.e3apProtocolVersion, IsVersion v
  dappIdentifier : ∀ d ∈ resp.dappIdentifier, InIdRange d
  listSize : resp.ranFunctionList.length ≤ maxRanFunctions
  listable : ∀ func ∈ resp.ranFunctionList, func.Listable

variable {resp : SetupResponse}

theorem valid_setSetupResponse (h : resp.Sized) :
    (setSetupResponse resp).Valid ↔ ∀ func ∈ resp.ranFunctionList, func.IdsInRange := by
  have hsize : resp.ranFunctionList.length ≤ 64 := h.listSize
  have hlist : (∀ l ∈ (setSetupResponse resp).ranFunctionList, SizeIn 0 64 l ∧ ∀ f ∈ l, f.Valid) ↔
      ∀ func ∈ resp.ranFunctionList, func.IdsInRange := by
    unfold setSetupResponse
    split_ifs with hnil
    · simp [hnil]
    · simp only [Option.mem_some_iff, forall_eq', SizeIn, List.length_map, Nat.zero_le, true_and,
        List.forall_mem_map]
      rw [and_iff_right hsize]
      exact forall₂_congr fun func hf => valid_setRanFunction (h.listable func hf)
  have hdapp : ∀ d ∈ (setSetupResponse resp).dAppIdentifier, IsId d := by
    intro x hx
    obtain ⟨d, hd, rfl⟩ := Option.mem_map.mp hx
    exact isId_setId.mpr (h.dappIdentifier d hd)
  have hcause : ∀ c ∈ (setSetupResponse resp).cause, IsCause c := by
    intro x hx
    obtain ⟨c, -, rfl⟩ := Option.mem_map.mp hx
    exact isCause_value c
  rw [← hlist]
  constructor
  · exact fun hv => hv.2.2.2.2.2.1
  · exact fun hl => ⟨isMessageId_setId.mpr h.requestId, isResponseCode_setResponseCode _,
      h.ranIdentifier, h.version, hdapp, hl, hcause, fun t ht => isText_setDetail ht⟩

theorem AperCodec.encodeToBuffer_eq_some {aper : AperCodec} {p : E3Pdu} {buffer : Bytes} :
    aper.encodeToBuffer p = some buffer ↔
      p.Valid ∧ (aper.encoding p).length ≤ bufferSize ∧ aper.encoding p = buffer := by
  unfold encodeToBuffer
  split_ifs with h
  · simp only [Option.some.injEq, h.1, h.2, true_and]
  · exact iff_of_false (nomatch ·) fun hb => h ⟨hb.1, hb.2.1⟩

/-- The value a setup response is sent as over ASN.1. -/
def setupResponseToAsn1 (stamp : UInt64) (messageId : UInt32) (resp : SetupResponse) : E3Pdu :=
  ⟨setId messageId, setTimestamp stamp, .setupResponse (setSetupResponse resp)⟩

/-- Over ASN.1 a setup response of the right sizes is encoded when the identifiers of its RAN
functions are in range and the encoding fits the buffer. -/
theorem asn1Encode_setupResponse (aper : AperCodec) {stamp : UInt64} {mid : UInt32}
    {buffer : Bytes} (hmid : mid ≠ 0) (h : resp.Sized) :
    asn1Encode aper ⟨.setupResponse, .setupResponse resp, mid, stamp⟩ = some buffer ↔
      (∀ func ∈ resp.ranFunctionList, func.IdsInRange) ∧
        (aper.encoding (setupResponseToAsn1 stamp mid resp)).length ≤ AperCodec.bufferSize ∧
        aper.encoding (setupResponseToAsn1 stamp mid resp) = buffer := by
  have hvalid : (setupResponseToAsn1 stamp mid resp).Valid ↔
      ∀ func ∈ resp.ranFunctionList, func.IdsInRange :=
    (and_iff_right (isMessageId_setId.mpr hmid)).trans (valid_setSetupResponse h)
  change aper.encodeToBuffer (setupResponseToAsn1 stamp mid resp) = some buffer ↔ _
  rw [AperCodec.encodeToBuffer_eq_some, hvalid]

/-! ## JSON -/

namespace JsonE3Encoder

variable {lib : Json.Library}

theorem keys_optional_sublist {α : Type} (key : String) (value : Option α) (toJson : α → Json) :
    ((optional key value toJson).map Prod.fst).Sublist [key] := by
  cases value with
  | none => exact List.nil_sublist _
  | some v => exact List.Sublist.refl _

theorem forall_optional {α : Type} {key : String} {value : Option α} {toJson : α → Json}
    {P : String × Json → Prop} :
    (∀ f ∈ optional key value toJson, P f) ↔ ∀ v ∈ value, P (key, toJson v) := by
  cases value with
  | none => simp [optional]
  | some v => simp [optional]

@[simp] theorem utf8_number (v : UInt32) : (number v).utf8 = true := rfl

@[simp] theorem utf8_idList (ids : List UInt32) : (idList ids).utf8 = true := by
  rw [idList, Json.utf8, Json.utf8Elems_eq_true, List.forall_mem_map]
  exact fun _ _ => rfl

@[simp] theorem utf8_responseCodeField (c : ResponseCode) :
    (responseCodeField c).2.utf8 = true := by
  rw [responseCodeField, Json.utf8_str, validUtf8_text]

theorem utf8_type (t : PduType) :
    (Json.str (toCamelCase (text (pduTypeToString t)))).utf8 = true := by
  cases t <;> decide +kernel

theorem utf8_rootFields (pdu : Pdu) : Json.utf8Members (rootFields pdu) = true := by
  rw [← Json.utf8_obj, rootFields, Json.utf8_update rfl (by simp)]
  simp only [List.forall_mem_cons, utf8_type, utf8_number, true_and]
  exact ⟨rfl, fun f hf => nomatch hf⟩

theorem isJsonContainer_accept {bytes : Bytes} (h : isJsonContainer lib bytes = true) :
    ∃ j, lib.parse bytes = some j := by
  unfold isJsonContainer at h
  split at h
  · exact nomatch h
  · rw [Bool.and_eq_true] at h
    exact Option.isSome_iff_exists.mp h.2

variable (lib) in
theorem encodeRanFunction_isSome (func : RanFunctionDef) :
    (encodeRanFunction lib func).isSome = isJsonContainer lib func.ranFunctionData := by
  unfold encodeRanFunction
  split_ifs with h
  · obtain ⟨j, hj⟩ := isJsonContainer_accept h
    rw [hj, h]
    rfl
  · rw [Bool.not_eq_true] at h
    rw [h]
    rfl

theorem utf8_encodeRanFunction {func : RanFunctionDef} {j : Json}
    (h : encodeRanFunction lib func = some j) : j.utf8 = true := by
  unfold encodeRanFunction at h
  split_ifs at h
  obtain ⟨data, hdata, rfl⟩ := Option.map_eq_some_iff.mp h
  rw [Json.utf8_update rfl (by simp)]
  simp only [List.forall_mem_cons, utf8_number, utf8_idList, true_and]
  exact ⟨lib.utf8_of_parse hdata, fun f hf => nomatch hf⟩

variable (lib) in
/-- The list of RAN functions is written when the data of each is an object or an array. -/
theorem mapM_encodeRanFunction : ∀ (l : List RanFunctionDef),
    (∃ ranFuncs, l.mapM (encodeRanFunction lib) = some ranFuncs ∧
        Json.utf8Elems ranFuncs = true ∧
        ∀ func ∈ l, isJsonContainer lib func.ranFunctionData = true) ∨
      l.mapM (encodeRanFunction lib) = none ∧
        ¬ ∀ func ∈ l, isJsonContainer lib func.ranFunctionData = true
  | [] => .inl ⟨[], rfl, rfl, fun _ h => nomatch h⟩
  | func :: l => by
    have hsome := encodeRanFunction_isSome lib func
    rw [List.mapM_cons]
    cases hf : encodeRanFunction lib func with
    | none =>
      rw [hf] at hsome
      refine .inr ⟨rfl, fun hall => ?_⟩
      rw [hall func List.mem_cons_self] at hsome
      exact nomatch hsome
    | some j =>
      rw [hf] at hsome
      rcases mapM_encodeRanFunction l with ⟨ranFuncs, hl, hutf8, hall⟩ | ⟨hl, hnot⟩
      · refine .inl ⟨j :: ranFuncs, by rw [hl]; rfl, ?_, ?_⟩
        · rw [Json.utf8Elems, utf8_encodeRanFunction hf, hutf8]
          rfl
        · rw [List.forall_mem_cons]
          exact ⟨hsome.symm, hall⟩
      · refine .inr ⟨by rw [hl]; rfl, fun hall => hnot fun g hg => ?_⟩
        exact hall g (List.mem_cons_of_mem func hg)

theorem keys_setupResponseFields_sublist (resp : SetupResponse) (ranFuncs : List Json) :
    ((setupResponseFields resp ranFuncs).map Prod.fst).Sublist
      (["requestId", "responseCode"] ++ ["e3apProtocolVersion"] ++ ["dAppIdentifier"] ++
        ["ranIdentifier"] ++ ["ranFunctionList"] ++ (["cause"] ++ ["detail"])) := by
  have hlist : ((if resp.ranFunctionList = [] then []
      else [("ranFunctionList", Json.arr ranFuncs)]).map Prod.fst).Sublist ["ranFunctionList"] := by
    split_ifs
    · exact List.nil_sublist _
    · exact List.Sublist.refl _
  simp only [setupResponseFields, writeReason, List.map_append]
  refine .append (.append (.append (.append (.append ?_ ?_) ?_) ?_) hlist) (.append ?_ ?_)
  · exact List.Sublist.refl _
  · exact keys_optional_sublist _ _ _
  · exact keys_optional_sublist _ _ _
  · exact List.Sublist.refl _
  · exact keys_optional_sublist _ _ _
  · exact keys_optional_sublist _ _ _

theorem utf8_setupResponseFields {resp : SetupResponse} {ranFuncs : List Json}
    (h : Json.utf8Elems ranFuncs = true) :
    (∀ f ∈ setupResponseFields resp ranFuncs, f.2.utf8 = true) ↔
      (∀ v ∈ resp.e3apProtocolVersion, Json.validUtf8 v = true) ∧
        Json.validUtf8 resp.ranIdentifier = true ∧
        ∀ t ∈ resp.detail, Json.validUtf8 t = true := by
  have hlist : ∀ f ∈ (if resp.ranFunctionList = [] then []
      else [("ranFunctionList", Json.arr ranFuncs)]), f.2.utf8 = true := by
    split_ifs
    · exact fun f hf => nomatch hf
    · rw [List.forall_mem_singleton, Json.utf8_arr]
      exact h
  simp only [setupResponseFields, writeReason, List.forall_mem_append, List.forall_mem_cons,
    forall_optional, utf8_number, utf8_responseCodeField, validUtf8_text,
    Json.utf8_str, iff_true_intro hlist, List.not_mem_nil, false_implies, implies_true, true_and,
    and_true]
  rw [and_assoc]

theorem encode_of_visit {pdu : Pdu} {fields : Fields}
    (h : visit lib pdu.choice = some { fields := fields }) :
    encode lib pdu = lib.dump (.obj (Json.update (rootFields pdu) fields)) := by
  simp only [encode, h, Option.bind_some, spliceProtocolData, Option.map_some, appendRawMember,
    Option.bind_fun_some]

/-- Over JSON a setup response is encoded when its strings are UTF-8 and the data of its RAN
functions are objects or arrays. -/
theorem encode_setupResponse_isSome {resp : SetupResponse} {stamp : UInt64} {mid : UInt32} :
    (encode lib ⟨.setupResponse, .setupResponse resp, mid, stamp⟩).isSome = true ↔
      (∀ func ∈ resp.ranFunctionList, isJsonContainer lib func.ranFunctionData = true) ∧
        (∀ v ∈ resp.e3apProtocolVersion, Json.validUtf8 v = true) ∧
        Json.validUtf8 resp.ranIdentifier = true ∧
        ∀ t ∈ resp.detail, Json.validUtf8 t = true := by
  rcases mapM_encodeRanFunction lib resp.ranFunctionList with
    ⟨ranFuncs, hl, hutf8, hall⟩ | ⟨hl, hnot⟩
  · have hnodup := (keys_setupResponseFields_sublist resp ranFuncs).nodup (by decide)
    have hvisit : visit lib (.setupResponse resp) =
        some { fields := setupResponseFields resp ranFuncs } := by
      simp only [visit, encodeSetupResponse, hl, Option.map_some]
    rw [encode_of_visit hvisit, and_iff_right hall, ← utf8_setupResponseFields hutf8,
      ← Json.utf8_update (utf8_rootFields _) hnodup, Json.Library.dump_isSome]
  · have hvisit : visit lib (.setupResponse resp) = none := by
      simp only [visit, encodeSetupResponse, hl, Option.map_none]
    refine iff_of_false ?_ fun h => hnot h.1
    simp [encode, hvisit]

end JsonE3Encoder

end LibE3
