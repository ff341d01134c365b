import LibE3.Encoder.JsonDecoder
import LibE3.Lib.JsonSplice
import LibE3.Lib.Partial
import LibE3.Proofs.Encoders

/-!
# Reading back the fields of a message

Each message is read back from an object that has the fields its encoder wrote. `Agrees` says so of
an object, which can have the members of the envelope and a payload besides.
-/

namespace LibE3

namespace JsonE3Encoder

/-- The members that are not fields of a message. -/
def envelopeKeys : List String :=
  ["type", "id", "timestamp", "protocolData", "actionData", "reportData", "xAppControlData"]

/-- Apart from the envelope, the object has these fields. -/
def Agrees (root fields : Fields) : Prop :=
  ∀ key, key ∉ envelopeKeys → root.lookup key = fields.reverse.lookup key

variable {lib : Json.Library} {truncate : UInt64 → ℤ} {root : Fields}

/-! ## Values -/

@[simp] theorem lookup_optional {α : Type} (key name : String) (value : Option α)
    (toJson : α → Json) :
    (optional name value toJson).reverse.lookup key
      = if key = name then value.map toJson else none := by
  cases value with
  | none => simp [optional]
  | some v => simp [optional, Json.lookup_cons_eq]

theorem ofInt_toNat32 (v : UInt32) : UInt32.ofInt (v.toNat : ℤ) = v := by
  have hv := v.toNat_lt
  apply UInt32.toNat_inj.mp
  simp only [UInt32.ofInt, UInt32.toNat_ofNat']
  omega

theorem ofInt_toNat64 (v : UInt64) : UInt64.ofInt (v.toNat : ℤ) = v := by
  have hv := v.toNat_lt
  apply UInt64.toNat_inj.mp
  simp only [UInt64.ofInt, UInt64.toNat_ofNat']
  omega

@[simp] theorem getUInt32_number (v : UInt32) : getUInt32 truncate (number v) = .ok v := by
  simp [getUInt32, number, getInteger, Except.map, ofInt_toNat32]

theorem mapM_getUInt32 : ∀ ids : List UInt32,
    (ids.map number).mapM (getUInt32 truncate) = .ok ids
  | [] => rfl
  | id :: ids => by
    rw [List.map_cons, List.mapM_cons, getUInt32_number, mapM_getUInt32 ids]
    rfl

@[simp] theorem getIdList_idList (ids : List UInt32) :
    getIdList truncate (idList ids) = .ok ids := by
  rw [idList, getIdList, mapM_getUInt32]

@[simp] theorem getString_str (s : Bytes) : getString (.str s) = .ok s := rfl

theorem causeFromString_causeToString (c : Cause) :
    causeFromString (text (causeToString c)) = c := by
  cases c <;> decide +kernel

theorem positive_ne_negative : text "negative" ≠ text "positive" := by
  decide +kernel

def readOptional {α : Type} (get : Json → Except Fault α) :
    Option Json → Except Fault (Option α)
  | none => .ok none
  | some v => (get v).map some

theorem valueIfPresent_eq {α : Type} (key : String) (get : Json → Except Fault α) :
    valueIfPresent root key get = readOptional get (root.lookup key) := by
  unfold valueIfPresent
  cases root.lookup key <;> rfl

theorem readOptional_map {α : Type} {get : Json → Except Fault α} {toJson : α → Json}
    (h : ∀ v, get (toJson v) = .ok v) (value : Option α) :
    readOptional get (value.map toJson) = .ok value := by
  cases value with
  | none => rfl
  | some v => rw [Option.map_some, readOptional, h]; rfl

@[simp] theorem readOptional_number (value : Option UInt32) :
    readOptional (getUInt32 truncate) (value.map number) = .ok value :=
  readOptional_map getUInt32_number value

@[simp] theorem readOptional_str (value : Option Bytes) :
    readOptional getString (value.map .str) = .ok value :=
  readOptional_map getString_str value

theorem readIds_agrees {name otherName : String} {value : Option (List UInt32)}
    (hname : root.lookup name = value.map idList) (hother : root.lookup otherName = none) :
    readIds truncate root name otherName = .ok value := by
  rw [readIds, hname, valueIfPresent_eq, hother]
  cases value with
  | none => rfl
  | some ids => simp [Except.map]

theorem readResponseCode_agrees {code : ResponseCode}
    (h : root.lookup "responseCode" = some (responseCodeField code).2) :
    readResponseCode root = .ok code := by
  have hne := positive_ne_negative
  rw [readResponseCode, valueOr, h]
  cases code <;> simp [responseCodeField, bind, Except.bind, pure, Except.pure, hne]

theorem readReason_agrees {cause : Option Cause} {detail : Option Bytes}
    (hcause : root.lookup "cause" = cause.map fun c => .str (text (causeToString c)))
    (hdetail : root.lookup "detail" = detail.map .str) (hmessage : root.lookup "message" = none) :
    readReason root = (cause, detail) := by
  rw [readReason, hcause, hdetail, hmessage]
  cases cause <;> cases detail <;> simp [causeFromString_causeToString]

/-! ## Messages without a payload -/

theorem decodeSetupRequest_agrees {req : SetupRequest} (h : Agrees root (encodeSetupRequest req)) :
    decodeSetupRequest root = .ok req := by
  simp [decodeSetupRequest, valueOr, h _, envelopeKeys, encodeSetupRequest, Json.lookup_cons_eq,
    bind, Except.bind, pure, Except.pure]

theorem decodeSubscriptionRequest_agrees {req : SubscriptionRequest}
    (h : Agrees root (encodeSubscriptionRequest req)) :
    decodeSubscriptionRequest truncate root = .ok req := by
  simp [decodeSubscriptionRequest, valueOr, valueIfPresent_eq, h _, envelopeKeys,
    encodeSubscriptionRequest, List.lookup_append, Json.lookup_cons_eq,
    bind, Except.bind, pure, Except.pure]

theorem decodeSubscriptionDelete_agrees {del : SubscriptionDelete}
    (h : Agrees root (encodeSubscriptionDelete del)) :
    decodeSubscriptionDelete truncate root = .ok del := by
  simp [decodeSubscriptionDelete, valueOr, h _, envelopeKeys, encodeSubscriptionDelete,
    Json.lookup_cons_eq, bind, Except.bind, pure, Except.pure]

theorem decodeReleaseMessage_agrees {msg : ReleaseMessage}
    (h : Agrees root (encodeReleaseMessage msg)) :
    decodeReleaseMessage truncate root = .ok msg := by
  simp [decodeReleaseMessage, valueOr, h _, envelopeKeys, encodeReleaseMessage, bind, Except.bind,
    pure, Except.pure]

theorem decodeMessageAck_agrees {ack : MessageAck} (h : Agrees root (encodeMessageAck ack)) :
    decodeMessageAck truncate root = .ok ack := by
  simp only [Agrees, encodeMessageAck, responseCodeField, writeReason, List.reverse_append,
    List.lookup_append, lookup_optional] at h
  have hcode : readResponseCode root = .ok ack.responseCode := readResponseCode_agrees (by
    simp [h, envelopeKeys, responseCodeField])
  have hreason : readReason root = (ack.cause, ack.detail) := by
    apply readReason_agrees <;> simp [h, envelopeKeys, Json.lookup_cons_eq]
  rw [decodeMessageAck, hcode, hreason]
  simp [valueOr, h, envelopeKeys, Json.lookup_cons_eq, bind, Except.bind, pure, Except.pure]

theorem decodeSubscriptionResponse_agrees {resp : SubscriptionResponse}
    (h : Agrees root (encodeSubscriptionResponse resp)) :
    decodeSubscriptionResponse truncate root = .ok resp := by
  simp only [Agrees, encodeSubscriptionResponse, responseCodeField, writeReason,
    List.reverse_append, List.lookup_append, lookup_optional] at h
  have hcode : readResponseCode root = .ok resp.responseCode := readResponseCode_agrees (by
    simp [h, envelopeKeys, responseCodeField])
  have hreason : readReason root = (resp.cause, resp.detail) := by
    apply readReason_agrees <;> simp [h, envelopeKeys, Json.lookup_cons_eq]
  have htelemetry : readIds truncate root "telemetryIdentifierList" "telemetryGrantedList"
      = .ok resp.telemetryIdentifierList := by
    apply readIds_agrees <;> simp [h, envelopeKeys, Json.lookup_cons_eq]
  have hcontrol : readIds truncate root "controlIdentifierList" "controlGrantedList"
      = .ok resp.controlIdentifierList := by
    apply readIds_agrees <;> simp [h, envelopeKeys, Json.lookup_cons_eq]
  rw [decodeSubscriptionResponse, hcode, hreason, htelemetry, hcontrol]
  simp [valueOr, valueIfPresent_eq, h, envelopeKeys, Json.lookup_cons_eq, bind, Except.bind, pure,
    Except.pure]

/-! ## RAN functions -/

def IsContainer (j : Json) : Prop := (∃ members, j = .obj members) ∨ ∃ elems, j = .arr elems

variable {fmt : Json.FloatFormat}

theorem isContainer_of_isText {j : Json} {b : UInt8} {s rest : Bytes} (h : Json.IsText fmt j s)
    (hs : Json.skipWs s = b :: rest) (hb : b = 0x7B ∨ b = 0x5B) : IsContainer j := by
  obtain ⟨w₁, v, w₂, hw₁, hv, hw₂, rfl⟩ := h
  rw [Json.skipWs_ws hw₁, hv.skipWs] at hs
  cases hv with
  | obj => exact .inl ⟨_, rfl⟩
  | emptyObj => exact .inl ⟨_, rfl⟩
  | arr => exact .inr ⟨_, rfl⟩
  | emptyArr => exact .inr ⟨_, rfl⟩
  | null =>
    obtain rfl := (List.cons.inj hs).1
    simp at hb
  | bool c =>
    cases c <;> obtain rfl := (List.cons.inj hs).1 <;> simp at hb
  | string =>
    obtain rfl := (List.cons.inj hs).1
    simp at hb
  | number hvalid =>
    obtain ⟨c, t, ht, hc⟩ := hvalid.head
    rw [ht] at hs
    obtain rfl := (List.cons.inj hs).1
    rcases hb with rfl | rfl <;> simp [Json.isDigit] at hc

theorem skipWs_takeWhile {b : UInt8} {s rest : Bytes} (hs : Json.skipWs s = b :: rest)
    (hb : b ≠ 0) :
    Json.skipWs (s.takeWhile (· ≠ 0)) = b :: rest.takeWhile (· ≠ 0) := by
  obtain ⟨w, hw, heq⟩ := Json.exists_ws s
  have hws : Json.isWs b = false := by
    have hnot := List.head?_dropWhile_not Json.isWs s
    rw [show s.dropWhile Json.isWs = b :: rest from hs] at hnot
    simpa using hnot
  have hwne : ∀ c ∈ w, decide (c ≠ 0) = true := fun c hc => decide_eq_true (by
    rintro rfl
    exact hw.zero_notMem hc)
  rw [heq, hs, List.takeWhile_append_of_pos hwne, List.takeWhile_cons_of_pos (by simpa using hb),
    Json.skipWs_ws hw, Json.skipWs_cons hws]

theorem skipBom_of_skipWs {b : UInt8} {s rest : Bytes} (hs : Json.skipWs s = b :: rest)
    (hb : b ≠ 0xEF) : Json.skipBom s = s := by
  rw [Json.skipBom, if_neg]
  rintro ⟨t, rfl⟩
  rw [Json.bom, List.cons_append, Json.skipWs_cons rfl] at hs
  exact hb (List.cons.inj hs).1.symm

theorem isContainer_of_isJsonContainer (hlib : lib.Follows fmt) {bytes : Bytes}
    (h : isJsonContainer lib bytes = true) : ∃ j, lib.parse bytes = some j ∧ IsContainer j := by
  obtain ⟨j, hj⟩ := isJsonContainer_accept h
  refine ⟨j, hj, ?_⟩
  unfold isJsonContainer at h
  rcases hdrop : bytes.dropWhile isJsonWs with _ | ⟨b, rest⟩
  · rw [hdrop] at h
    cases h
  · rw [hdrop] at h
    have hskip : Json.skipWs bytes = b :: rest := hdrop
    have hb : b = 0x7B ∨ b = 0x5B := by
      simp only [Bool.and_eq_true, Bool.or_eq_true, decide_eq_true_eq] at h
      exact h.1
    have hcut := skipWs_takeWhile hskip (by rcases hb with rfl | rfl <;> decide)
    have htext := hlib.isText hj
    rw [skipBom_of_skipWs hcut (by rcases hb with rfl | rfl <;> decide)] at htext
    exact isContainer_of_isText htext hcut hb

variable (lib) in
/-- The compact text of the value that a text spells. -/
def compacted (data : Bytes) : Bytes := ((lib.parse data).map lib.text).getD data

variable (lib) in
def compactedFunction (func : RanFunctionDef) : RanFunctionDef :=
  { func with ranFunctionData := compacted lib func.ranFunctionData }

theorem payloadFromJson_container {j : Json} (hj : IsContainer j) (hutf8 : j.utf8 = true) :
    payloadFromJson lib j = .ok (lib.text j) := by
  have hdump : dumpOrThrow lib j = .ok (lib.text j) := by
    rw [dumpOrThrow, Json.Library.dump, if_pos hutf8]
  rcases hj with ⟨members, rfl⟩ | ⟨elems, rfl⟩
  · exact hdump
  · exact hdump

theorem decodeRanFunction_encode (hlib : lib.Follows fmt) {func : RanFunctionDef} {j : Json}
    (h : encodeRanFunction lib func = some j) :
    decodeRanFunction lib truncate j = .ok (compactedFunction lib func) := by
  unfold encodeRanFunction at h
  split_ifs at h with hcontainer
  obtain ⟨data, hdata, hcontainer⟩ := isContainer_of_isJsonContainer hlib hcontainer
  rw [hdata] at h
  obtain rfl := Option.some.inj h
  have hpayload : payloadFromJson lib data = .ok (lib.text data) :=
    payloadFromJson_container hcontainer (lib.utf8_of_parse hdata)
  simp [decodeRanFunction, valueOr, Json.lookup_update, Json.lookup_cons_eq, hpayload,
    compactedFunction, compacted, hdata, bind, Except.bind, pure, Except.pure]

theorem mapM_decodeRanFunction (hlib : lib.Follows fmt) : ∀ {l : List RanFunctionDef}
    {ranFuncs : List Json}, l.mapM (encodeRanFunction lib) = some ranFuncs →
      ranFuncs.mapM (decodeRanFunction lib truncate) = .ok (l.map (compactedFunction lib))
  | [], ranFuncs, h => by
    obtain rfl := Option.some.inj h
    rfl
  | func :: l, ranFuncs, h => by
    rw [List.mapM_cons] at h
    obtain ⟨j, hj, h⟩ := Option.bind_eq_some_iff.mp h
    obtain ⟨js, hjs, h⟩ := Option.bind_eq_some_iff.mp h
    obtain rfl := Option.some.inj h
    rw [List.mapM_cons, decodeRanFunction_encode hlib hj, mapM_decodeRanFunction hlib hjs]
    rfl

variable (lib) in
def compactedResponse (resp : SetupResponse) : SetupResponse :=
  { resp with ranFunctionList := resp.ranFunctionList.map (compactedFunction lib) }

theorem lookup_ranFunctionList (key : String) (l : List RanFunctionDef) (ranFuncs : List Json) :
    (if l = [] then [] else [("ranFunctionList", Json.arr ranFuncs)]).reverse.lookup key
      = if key = "ranFunctionList" ∧ l ≠ [] then some (.arr ranFuncs) else none := by
  by_cases hl : l = []
  · simp [hl]
  · simp [hl, Json.lookup_cons_eq]

theorem decodeSetupResponse_agrees (hlib : lib.Follows fmt) {resp : SetupResponse}
    {ranFuncs : List Json}
    (hfuncs : resp.ranFunctionList.mapM (encodeRanFunction lib) = some ranFuncs)
    (h : Agrees root (setupResponseFields resp ranFuncs)) :
    decodeSetupResponse lib truncate root = .ok (compactedResponse lib resp) := by
  simp only [Agrees, setupResponseFields, responseCodeField, writeReason, List.reverse_append,
    List.lookup_append, lookup_optional, lookup_ranFunctionList] at h
  have hcode : readResponseCode root = .ok resp.responseCode := readResponseCode_agrees (by
    simp [h, envelopeKeys, Json.lookup_cons_eq, responseCodeField])
  have hreason : readReason root = (resp.cause, resp.detail) := by
    apply readReason_agrees <;> simp [h, envelopeKeys, Json.lookup_cons_eq]
  have hlist : valueOr root "ranFunctionList" []
      (fun v => (iterate v).mapM (decodeRanFunction lib truncate))
        = .ok (resp.ranFunctionList.map (compactedFunction lib)) := by
    rw [valueOr, h _ (by decide)]
    by_cases hl : resp.ranFunctionList = []
    · simp [hl, Json.lookup_cons_eq]
    · simp [hl, Json.lookup_cons_eq, iterate, mapM_decodeRanFunction hlib hfuncs]
  rw [decodeSetupResponse, hlist, hcode, hreason]
  simp [valueOr, valueIfPresent_eq, h, envelopeKeys, Json.lookup_cons_eq, compactedResponse, bind,
    Except.bind, pure, Except.pure]

/-! ## Messages with a payload -/

theorem decodeIndicationMessage_agrees {msg : IndicationMessage} {fields : Fields} (rawJson : Bytes)
    (hfields : encodeIndicationMessage lib msg = some fields) (h : Agrees root fields) :
    decodeIndicationMessage lib truncate root rawJson
      = (verbatimOr rawJson "protocolData" (dumpMember lib root "protocolData")).map
          fun data => { msg with protocolData := data } := by
  obtain ⟨-, rfl⟩ := Partial.of_check hfields
  simp [decodeIndicationMessage, valueOr, h _, envelopeKeys, Json.lookup_cons_eq, bind,
    Except.bind, pure, Except.pure, Except.map]

theorem payloadMember_container {key : String} {j : Json} (rawJson : Bytes)
    (hlookup : root.lookup key = some j) (hj : IsContainer j) :
    payloadMember lib root rawJson key = verbatimOr rawJson key (payloadFromJson lib j) := by
  rw [payloadMember, hlookup]
  rcases hj with ⟨members, rfl⟩ | ⟨elems, rfl⟩
  · rfl
  · rfl

theorem decodeDappControlAction_agrees {action : DAppControlAction} (rawJson : Bytes)
    (h : Agrees root (encodeDappControlAction action)) :
    decodeDappControlAction lib truncate root rawJson
      = (payloadMember lib root rawJson "actionData").map
          fun data => { action with actionData := data } := by
  by_cases hseq : action.sequenceId = 0
  · simp [decodeDappControlAction, valueOr, h _, envelopeKeys, encodeDappControlAction,
      hseq, Json.lookup_cons_eq, bind, Except.bind, pure, Except.pure, Except.map]
  · simp [decodeDappControlAction, valueOr, h _, envelopeKeys, encodeDappControlAction,
      hseq, Json.lookup_cons_eq, bind, Except.bind, pure, Except.pure, Except.map]

theorem decodeDappReport_agrees {report : DAppReport} (rawJson : Bytes)
    (h : Agrees root (encodeDappReport report)) :
    decodeDappReport lib truncate root rawJson
      = (payloadMember lib root rawJson "reportData").map
          fun data => { report with reportData := data } := by
  simp [decodeDappReport, valueOr, h _, envelopeKeys, encodeDappReport, Json.lookup_cons_eq, bind,
    Except.bind, pure, Except.pure, Except.map]

theorem decodeXappControlAction_agrees {action : XAppControlAction} (rawJson : Bytes)
    (h : Agrees root (encodeXappControlAction action)) :
    decodeXappControlAction lib truncate root rawJson
      = (payloadMember lib root rawJson "xAppControlData").map
          fun data => { action with xappControlData := data } := by
  simp [decodeXappControlAction, valueOr, h _, envelopeKeys, encodeXappControlAction,
    Json.lookup_cons_eq, bind, Except.bind, pure, Except.pure, Except.map]

end JsonE3Encoder

end LibE3
