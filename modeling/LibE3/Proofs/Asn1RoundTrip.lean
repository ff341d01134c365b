import LibE3.Lib.Partial
import LibE3.Proofs.Utf8

/-!
# The ASN.1 round trip

`asn1_to_pdu` reads back what `pdu_to_asn1` writes. Only the detail of an answer can be changed on
the way, since it is cut to the bound of the grammar and an empty one is not sent.
-/

namespace LibE3

def PduChoice.detail : PduChoice → Option Bytes
  | .setupResponse resp => resp.detail
  | .subscriptionResponse resp => resp.detail
  | .messageAck ack => ack.detail
  | _ => none

/-- A detail that every receiver can be sent. -/
structure IsDetail (t : Bytes) : Prop where
  ne_nil : t ≠ []
  utf8 : Json.validUtf8 t = true
  size : t.length ≤ maxDetailSize

/-! ## Fields -/

@[simp] theorem getId_setId (v : UInt32) : getId (setId v) = v := by
  have hv := v.toNat_lt
  apply UInt32.toNat_inj.mp
  simp only [getId, setId, UInt32.ofInt, UInt32.toNat_ofNat']
  omega

@[simp] theorem getId_comp_setId : getId ∘ setId = id := funext getId_setId

@[simp] theorem getIdList_setIdList (ids : List UInt32) : getIdList (setIdList ids) = ids := by
  rw [getIdList, setIdList, List.map_map, getId_comp_setId, List.map_id]

@[simp] theorem getIdList_comp_setIdList : getIdList ∘ setIdList = id :=
  funext getIdList_setIdList

@[simp] theorem getResponseCode_setResponseCode (code : ResponseCode) :
    getResponseCode (setResponseCode code) = code := by
  cases code <;> rfl

theorem causeFromValue_value (c : Cause) : causeFromValue c.value = c := by
  cases c <;> rfl

@[simp] theorem causeFromValue_comp_value : causeFromValue ∘ Cause.value = id :=
  funext causeFromValue_value

theorem getRanFunction_setRanFunction (func : RanFunctionDef) :
    getRanFunction (setRanFunction func) = func := by
  simp [getRanFunction, setRanFunction]

@[simp] theorem getRanFunction_comp_setRanFunction : getRanFunction ∘ setRanFunction = id :=
  funext getRanFunction_setRanFunction

theorem cutDetail_length (t : Bytes) : cutDetail t t.length = t.length := by
  rcases hlen : t.length with _ | n
  · rfl
  · have hnone : t[n + 1]? = none := List.getElem?_eq_none hlen.le
    rw [cutDetail, hnone]

theorem getDetail_setDetail {detail : Option Bytes} (h : ∀ t ∈ detail, IsDetail t) :
    getDetail (setDetail detail) = detail := by
  cases detail with
  | none => rfl
  | some t =>
    obtain ⟨hne, hutf8, hsize⟩ := h t rfl
    rw [setDetail, if_neg hne, Nat.min_eq_left hsize, cutDetail_length, List.take_length, getDetail]
    simp [hne, isUtf8_of_validUtf8 hutf8]

theorem getTimestamp_setTimestamp (t : UInt64) :
    ((setTimestamp t).map fun t => (Int64.ofInt t).toUInt64).getD 0 = t := by
  unfold setTimestamp
  split_ifs with h
  · simp
  · exact (not_not.mp h).symm

theorem getSequenceId_setSequenceId (v : UInt32) :
    ((if v = 0 then none else some (setId v)).map getId).getD 0 = v := by
  split_ifs with h
  · exact h.symm
  · simp

/-! ## Messages -/

theorem choiceOfAsn1_choiceToAsn1 {choice : PduChoice} (h : ∀ t ∈ choice.detail, IsDetail t) :
    ∃ msg, choiceToAsn1 choice.type choice = some msg
      ∧ choiceOfAsn1 msg = (choice.type, choice) := by
  cases choice with
  | setupResponse resp =>
    refine ⟨_, rfl, ?_⟩
    have hlist : ((if resp.ranFunctionList = [] then none
        else some (resp.ranFunctionList.map setRanFunction)).getD []).map getRanFunction
          = resp.ranFunctionList := by
      split_ifs with hnil
      · simp [hnil]
      · simp
    have hdetail : getDetail (setDetail resp.detail) = resp.detail := getDetail_setDetail h
    simp [choiceOfAsn1, setSetupResponse, PduChoice.type, hlist, hdetail]
  | subscriptionResponse resp =>
    have hdetail : getDetail (setDetail resp.detail) = resp.detail := getDetail_setDetail h
    exact ⟨_, rfl, by simp [choiceOfAsn1, PduChoice.type, hdetail]⟩
  | messageAck ack =>
    have hdetail : getDetail (setDetail ack.detail) = ack.detail := getDetail_setDetail h
    exact ⟨_, rfl, by simp [choiceOfAsn1, PduChoice.type, hdetail]⟩
  | dappControlAction action =>
    exact ⟨_, rfl, by simp [choiceOfAsn1, PduChoice.type, getSequenceId_setSequenceId]⟩
  | _ => exact ⟨_, rfl, by simp [choiceOfAsn1, PduChoice.type]⟩

theorem asn1ToPdu_of_detail {pdu : Pdu} (htype : pdu.type = pdu.choice.type)
    (h : ∀ t ∈ pdu.choice.detail, IsDetail t) :
    ∃ a, pduToAsn1 pdu = some a ∧ asn1ToPdu a = pdu := by
  obtain ⟨msg, hmsg, hback⟩ := choiceOfAsn1_choiceToAsn1 h
  refine ⟨⟨setId pdu.messageId, setTimestamp pdu.timestamp, msg⟩, ?_, ?_⟩
  · rw [pduToAsn1, htype, hmsg, Option.map_some]
  · simp [asn1ToPdu, hback, getTimestamp_setTimestamp, ← htype]

/-! ## Bytes -/

/-- The generated codec reads back the values it encodes. -/
structure AperCodec.Lossless (aper : AperCodec) : Prop where
  ne_nil : ∀ {a : E3Pdu}, a.Valid → aper.encoding a ≠ []
  decode_encoding : ∀ {a : E3Pdu}, a.Valid → aper.decode (aper.encoding a) = some a

theorem asn1Decode_asn1Encode {aper : AperCodec} (haper : aper.Lossless) {pdu : Pdu} {a : E3Pdu}
    {bytes : Bytes} (ha : pduToAsn1 pdu = some a) (h : asn1Encode aper pdu = some bytes) :
    asn1Decode aper bytes = some (asn1ToPdu a) := by
  rw [asn1Encode, ha, Option.bind_some] at h
  obtain ⟨hvalid, rfl⟩ := Partial.of_check h
  rw [asn1Decode, if_neg (haper.ne_nil hvalid.1), haper.decode_encoding hvalid.1, Option.map_some]

/-- Whatever is set and whatever is not, a PDU whose detail, if it has one, can be sent goes
through the structures of the grammar and comes back the same, and so it does through the bytes. -/
theorem asn1_round_trip {pdu : Pdu} (htype : pdu.type = pdu.choice.type)
    (hdetail : ∀ t ∈ pdu.choice.detail, IsDetail t) :
    ∃ a, pduToAsn1 pdu = some a ∧ asn1ToPdu a = pdu
      ∧ ∀ {aper : AperCodec} {bytes : Bytes}, aper.Lossless → asn1Encode aper pdu = some bytes →
        asn1Decode aper bytes = some pdu := by
  obtain ⟨a, ha, hback⟩ := asn1ToPdu_of_detail htype hdetail
  refine ⟨a, ha, hback, fun haper hbytes => ?_⟩
  rw [asn1Decode_asn1Encode haper ha hbytes, hback]

/-- A refused subscription with an empty list, an absent one and a late time. -/
def refusedSubscription : Pdu where
  type := .subscriptionResponse
  choice := .subscriptionResponse
    { requestId := 3, dappIdentifier := 1, telemetryIdentifierList := some [],
      cause := some .notFound, detail := some [0x6E, 0x6F] }
  messageId := 4
  timestamp := 0x8000000000000001

theorem refused_subscription_read_back :
    ∃ a, pduToAsn1 refusedSubscription = some a ∧ asn1ToPdu a = refusedSubscription := by
  have htype : refusedSubscription.type = refusedSubscription.choice.type := rfl
  have hdetail : ∀ t ∈ refusedSubscription.choice.detail, IsDetail t := by
    rintro t ht
    obtain rfl := Option.some.inj ht
    exact ⟨by decide, by decide +kernel, by decide⟩
  obtain ⟨a, ha, hback, -⟩ := asn1_round_trip htype hdetail
  exact ⟨a, ha, hback⟩

end LibE3
