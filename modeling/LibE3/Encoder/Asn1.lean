import LibE3.Types

/-!
# The ASN.1 encoder

`Asn1E3Encoder` between a PDU and the structures that are generated from the e3ap grammar, whose
INTEGERs are signed machine integers and whose OPTIONAL members are pointers. The generated APER
codec is a parameter: an encoding for every value, and a decoder. As documented, encoding into a
buffer succeeds exactly for the values of the grammar whose encoding fits in it.
-/

namespace LibE3

/-! ## The structures of the grammar -/

structure E3SetupRequest where
  e3apProtocolVersion : Bytes
  dAppName : Bytes
  dAppVersion : Bytes
  vendor : Bytes
  deriving DecidableEq, Repr

structure E3RanFunctionDefinition where
  ranFunctionIdentifier : ℤ
  telemetryIdentifierList : List ℤ
  controlIdentifierList : List ℤ
  ranFunctionData : Bytes
  deriving DecidableEq, Repr

structure E3SetupResponse where
  requestId : ℤ
  responseCode : ℤ
  ranIdentifier : Bytes
  e3apProtocolVersion : Option Bytes
  dAppIdentifier : Option ℤ
  ranFunctionList : Option (List E3RanFunctionDefinition)
  cause : Option ℤ
  detail : Option Bytes
  deriving DecidableEq, Repr

structure E3SubscriptionRequest where
  dAppIdentifier : ℤ
  ranFunctionIdentifier : ℤ
  telemetryIdentifierList : List ℤ
  controlIdentifierList : List ℤ
  subscriptionTime : Option ℤ
  periodicity : Option ℤ
  deriving DecidableEq, Repr

structure E3SubscriptionDelete where
  dAppIdentifier : ℤ
  subscriptionId : ℤ
  deriving DecidableEq, Repr

structure E3SubscriptionResponse where
  requestId : ℤ
  dAppIdentifier : ℤ
  responseCode : ℤ
  subscriptionId : Option ℤ
  telemetryIdentifierList : Option (List ℤ)
  controlIdentifierList : Option (List ℤ)
  cause : Option ℤ
  detail : Option Bytes
  ranFunctionIdentifier : Option ℤ
  periodicity : Option ℤ
  deriving DecidableEq, Repr

structure E3IndicationMessage where
  dAppIdentifier : ℤ
  ranFunctionIdentifier : ℤ
  protocolData : Bytes
  deriving DecidableEq, Repr

structure E3DAppControlAction where
  dAppIdentifier : ℤ
  ranFunctionIdentifier : ℤ
  controlIdentifier : ℤ
  sequenceId : Option ℤ
  actionData : Bytes
  deriving DecidableEq, Repr

structure E3DAppReport where
  dAppIdentifier : ℤ
  ranFunctionIdentifier : ℤ
  sequenceId : ℤ
  reportData : Bytes
  deriving DecidableEq, Repr

structure E3XAppControlAction where
  dAppIdentifier : ℤ
  ranFunctionIdentifier : ℤ
  sequenceId : ℤ
  xAppControlData : Bytes
  deriving DecidableEq, Repr

structure E3ReleaseMessage where
  dAppIdentifier : ℤ
  deriving DecidableEq, Repr

structure E3MessageAck where
  requestId : ℤ
  responseCode : ℤ
  cause : Option ℤ
  detail : Option Bytes
  deriving DecidableEq, Repr

/-- The `msg` member of `E3-PDU`. `other` is a `present` that is none of the known ones: the
choice is extensible. -/
inductive E3PduMsg
  | setupRequest (m : E3SetupRequest)
  | setupResponse (m : E3SetupResponse)
  | subscriptionRequest (m : E3SubscriptionRequest)
  | subscriptionDelete (m : E3SubscriptionDelete)
  | subscriptionResponse (m : E3SubscriptionResponse)
  | indicationMessage (m : E3IndicationMessage)
  | dAppControlAction (m : E3DAppControlAction)
  | dAppReport (m : E3DAppReport)
  | xAppControlAction (m : E3XAppControlAction)
  | releaseMessage (m : E3ReleaseMessage)
  | messageAck (m : E3MessageAck)
  | other
  deriving DecidableEq, Repr

structure E3Pdu where
  id : ℤ
  timestamp : Option ℤ
  msg : E3PduMsg
  deriving DecidableEq, Repr

/-! ## The constraints of the grammar -/

def InRange (lo hi x : ℤ) : Prop := lo ≤ x ∧ x ≤ hi

/-- `SIZE (lo..hi)`. -/
def SizeIn {α : Type} (lo hi : ℕ) (l : List α) : Prop := lo ≤ l.length ∧ l.length ≤ hi

instance (lo hi x : ℤ) : Decidable (InRange lo hi x) := inferInstanceAs (Decidable (_ ∧ _))

instance {α : Type} (lo hi : ℕ) (l : List α) : Decidable (SizeIn lo hi l) :=
  inferInstanceAs (Decidable (_ ∧ _))

/-- `E3-MessageID`, and `E3-SequenceID`, which has the same range. -/
abbrev IsMessageId (x : ℤ) : Prop := InRange 1 4294967295 x

/-- `INTEGER (1..65535)`: `E3-DAppID` and the identifiers of RAN functions, telemetry, control and
subscriptions. -/
abbrev IsId (x : ℤ) : Prop := InRange 1 65535 x

abbrev IsIdList (l : List ℤ) : Prop := SizeIn 0 256 l ∧ ∀ x ∈ l, IsId x

abbrev IsName (s : Bytes) : Prop := SizeIn 1 64 s

abbrev IsVersion (s : Bytes) : Prop := SizeIn 1 32 s

abbrev IsResponseCode (x : ℤ) : Prop := InRange 0 1 x

abbrev IsCause (x : ℤ) : Prop := InRange 0 14 x

abbrev IsText (s : Bytes) : Prop := SizeIn 0 512 s

abbrev IsPeriodicity (x : ℤ) : Prop := InRange 0 60000000 x

/-- `OCTET STRING (SIZE (1..32768))`, the payloads of the Service Models. -/
abbrev IsPayload (s : Bytes) : Prop := SizeIn 1 32768 s

def E3RanFunctionDefinition.Valid (f : E3RanFunctionDefinition) : Prop :=
  IsId f.ranFunctionIdentifier ∧ IsIdList f.telemetryIdentifierList ∧
    IsIdList f.controlIdentifierList ∧ SizeIn 1 262144 f.ranFunctionData

instance (f : E3RanFunctionDefinition) : Decidable f.Valid := inferInstanceAs (Decidable (_ ∧ _))

def E3SetupResponse.Valid (m : E3SetupResponse) : Prop :=
  IsMessageId m.requestId ∧ IsResponseCode m.responseCode ∧ IsName m.ranIdentifier ∧
    (∀ v ∈ m.e3apProtocolVersion, IsVersion v) ∧ (∀ d ∈ m.dAppIdentifier, IsId d) ∧
    (∀ l ∈ m.ranFunctionList, SizeIn 0 64 l ∧ ∀ f ∈ l, f.Valid) ∧
    (∀ c ∈ m.cause, IsCause c) ∧ ∀ t ∈ m.detail, IsText t

instance (m : E3SetupResponse) : Decidable m.Valid := inferInstanceAs (Decidable (_ ∧ _))

def E3PduMsg.Valid : E3PduMsg → Prop
  | .setupRequest m =>
    IsVersion m.e3apProtocolVersion ∧ IsName m.dAppName ∧ IsVersion m.dAppVersion ∧ IsName m.vendor
  | .setupResponse m => m.Valid
  | .subscriptionRequest m =>
    IsId m.dAppIdentifier ∧ IsId m.ranFunctionIdentifier ∧ IsIdList m.telemetryIdentifierList ∧
      IsIdList m.controlIdentifierList ∧ (∀ t ∈ m.subscriptionTime, InRange 0 86400 t) ∧
      ∀ p ∈ m.periodicity, IsPeriodicity p
  | .subscriptionDelete m => IsId m.dAppIdentifier ∧ IsId m.subscriptionId
  | .subscriptionResponse m =>
    IsMessageId m.requestId ∧ IsId m.dAppIdentifier ∧ IsResponseCode m.responseCode ∧
      (∀ s ∈ m.subscriptionId, IsId s) ∧ (∀ l ∈ m.telemetryIdentifierList, IsIdList l) ∧
      (∀ l ∈ m.controlIdentifierList, IsIdList l) ∧ (∀ c ∈ m.cause, IsCause c) ∧
      (∀ t ∈ m.detail, IsText t) ∧ (∀ f ∈ m.ranFunctionIdentifier, IsId f) ∧
      ∀ p ∈ m.periodicity, IsPeriodicity p
  | .indicationMessage m =>
    IsId m.dAppIdentifier ∧ IsId m.ranFunctionIdentifier ∧ IsPayload m.protocolData
  | .dAppControlAction m =>
    IsId m.dAppIdentifier ∧ IsId m.ranFunctionIdentifier ∧ IsId m.controlIdentifier ∧
      (∀ s ∈ m.sequenceId, IsMessageId s) ∧ IsPayload m.actionData
  | .dAppReport m =>
    IsId m.dAppIdentifier ∧ IsId m.ranFunctionIdentifier ∧ IsMessageId m.sequenceId ∧
      IsPayload m.reportData
  | .xAppControlAction m =>
    IsId m.dAppIdentifier ∧ IsId m.ranFunctionIdentifier ∧ IsMessageId m.sequenceId ∧
      IsPayload m.xAppControlData
  | .releaseMessage m => IsId m.dAppIdentifier
  | .messageAck m =>
    IsMessageId m.requestId ∧ IsResponseCode m.responseCode ∧ (∀ c ∈ m.cause, IsCause c) ∧
      ∀ t ∈ m.detail, IsText t
  | .other => False

instance : ∀ m : E3PduMsg, Decidable m.Valid
  | .setupRequest _ | .subscriptionRequest _ | .subscriptionDelete _ | .subscriptionResponse _
  | .indicationMessage _ | .dAppControlAction _ | .dAppReport _ | .xAppControlAction _
  | .messageAck _ => inferInstanceAs (Decidable (_ ∧ _))
  | .setupResponse m => inferInstanceAs (Decidable m.Valid)
  | .releaseMessage m => inferInstanceAs (Decidable (IsId m.dAppIdentifier))
  | .other => inferInstanceAs (Decidable False)

/-- The value is one of the grammar. -/
def E3Pdu.Valid (p : E3Pdu) : Prop := IsMessageId p.id ∧ p.msg.Valid

instance (p : E3Pdu) : Decidable p.Valid := inferInstanceAs (Decidable (_ ∧ _))

/-! ## Reasons -/

/-- The code point of a character: the bits of its first byte, then six of each continuation. -/
def codePoint (bits : UInt8) (continuation : Bytes) : UInt32 :=
  continuation.foldl (fun cp b => cp <<< 6 ||| (b &&& 0x3F).toUInt32) bits.toUInt32

/-- The checks on a character of `len` bytes: its continuation bytes, and that it is in shortest
form, no surrogate and not past U+10FFFF. -/
def isCharacter (len : ℕ) (bits : UInt8) (continuation : Bytes) : Bool :=
  let cp := codePoint bits continuation
  continuation.all (fun b => b &&& 0xC0 = 0x80) &&
    !((len = 3 && cp < 0x800) || (len = 4 && (cp < 0x10000 || cp > 0x10FFFF)) ||
      (0xD800 ≤ cp && cp ≤ 0xDFFF))

def isUtf8 : Bytes → Bool
  | [] => true
  | c :: rest =>
    if c < 0x80 then isUtf8 rest
    else if 0xC2 ≤ c ∧ c ≤ 0xDF then
      match rest with
      | b₁ :: rest => isCharacter 2 (c &&& 0x1F) [b₁] && isUtf8 rest
      | _ => false
    else if 0xE0 ≤ c ∧ c ≤ 0xEF then
      match rest with
      | b₁ :: b₂ :: rest => isCharacter 3 (c &&& 0x0F) [b₁, b₂] && isUtf8 rest
      | _ => false
    else if 0xF0 ≤ c ∧ c ≤ 0xF4 then
      match rest with
      | b₁ :: b₂ :: b₃ :: rest => isCharacter 4 (c &&& 0x07) [b₁, b₂, b₃] && isUtf8 rest
      | _ => false
    else false

/-- The loop of `set_reason` that moves the cut of a text back to a character boundary. -/
def cutDetail (detail : Bytes) : ℕ → ℕ
  | 0 => 0
  | size + 1 =>
    match detail[size + 1]? with
    | some b => if b &&& 0xC0 = 0x80 then cutDetail detail size else size + 1
    | none => size + 1

/-- The detail that `set_reason` sets: none for an empty text, and at most 512 bytes. -/
def setDetail : Option Bytes → Option Bytes
  | none => none
  | some detail =>
    if detail = [] then none
    else some (detail.take (cutDetail detail (min detail.length maxDetailSize)))

/-- The detail that `get_reason` reads: a text that is not UTF-8 is dropped. -/
def getDetail (detail : Option Bytes) : Option Bytes :=
  detail.filter fun detail => detail ≠ [] && isUtf8 detail

/-! ## From a PDU -/

/-- An unsigned field as an INTEGER. -/
def setId (v : UInt32) : ℤ := v.toNat

def setIdList (ids : List UInt32) : List ℤ := ids.map setId

def setResponseCode (responseCode : ResponseCode) : ℤ :=
  if responseCode = .positive then 0 else 1

def setRanFunction (func : RanFunctionDef) : E3RanFunctionDefinition where
  ranFunctionIdentifier := setId func.ranFunctionIdentifier
  telemetryIdentifierList := setIdList func.telemetryIdentifierList
  controlIdentifierList := setIdList func.controlIdentifierList
  ranFunctionData := func.ranFunctionData

def setSetupResponse (resp : SetupResponse) : E3SetupResponse where
  requestId := setId resp.requestId
  responseCode := setResponseCode resp.responseCode
  ranIdentifier := resp.ranIdentifier
  e3apProtocolVersion := resp.e3apProtocolVersion
  dAppIdentifier := resp.dappIdentifier.map setId
  ranFunctionList :=
    if resp.ranFunctionList = [] then none else some (resp.ranFunctionList.map setRanFunction)
  cause := resp.cause.map Cause.value
  detail := setDetail resp.detail

/-- The `msg` that `pdu_to_asn1` makes; `none` when the type and the alternative disagree. -/
def choiceToAsn1 : PduType → PduChoice → Option E3PduMsg
  | .setupRequest, .setupRequest req => some (.setupRequest
      { e3apProtocolVersion := req.e3apProtocolVersion
        dAppName := req.dappName
        dAppVersion := req.dappVersion
        vendor := req.vendor })
  | .setupResponse, .setupResponse resp => some (.setupResponse (setSetupResponse resp))
  | .subscriptionRequest, .subscriptionRequest req => some (.subscriptionRequest
      { dAppIdentifier := setId req.dappIdentifier
        ranFunctionIdentifier := setId req.ranFunctionIdentifier
        telemetryIdentifierList := setIdList req.telemetryIdentifierList
        controlIdentifierList := setIdList req.controlIdentifierList
        subscriptionTime := req.subscriptionTime.map setId
        periodicity := req.periodicity.map setId })
  | .subscriptionDelete, .subscriptionDelete del => some (.subscriptionDelete
      { dAppIdentifier := setId del.dappIdentifier
        subscriptionId := setId del.subscriptionId })
  | .subscriptionResponse, .subscriptionResponse resp => some (.subscriptionResponse
      { requestId := setId resp.requestId
        dAppIdentifier := setId resp.dappIdentifier
        responseCode := setResponseCode resp.responseCode
        subscriptionId := resp.subscriptionId.map setId
        telemetryIdentifierList := resp.telemetryIdentifierList.map setIdList
        controlIdentifierList := resp.controlIdentifierList.map setIdList
        cause := resp.cause.map Cause.value
        detail := setDetail resp.detail
        ranFunctionIdentifier := resp.ranFunctionIdentifier.map setId
        periodicity := resp.periodicity.map setId })
  | .indicationMessage, .indicationMessage msg => some (.indicationMessage
      { dAppIdentifier := setId msg.dappIdentifier
        ranFunctionIdentifier := setId msg.ranFunctionIdentifier
        protocolData := msg.protocolData })
  | .dappControlAction, .dappControlAction action => some (.dAppControlAction
      { dAppIdentifier := setId action.dappIdentifier
        ranFunctionIdentifier := setId action.ranFunctionIdentifier
        controlIdentifier := setId action.controlIdentifier
        sequenceId := if action.sequenceId ≠ 0 then some (setId action.sequenceId) else none
        actionData := action.actionData })
  | .dappReport, .dappReport report => some (.dAppReport
      { dAppIdentifier := setId report.dappIdentifier
        ranFunctionIdentifier := setId report.ranFunctionIdentifier
        sequenceId := setId report.sequenceId
        reportData := report.reportData })
  | .xappControlAction, .xappControlAction action => some (.xAppControlAction
      { dAppIdentifier := setId action.dappIdentifier
        ranFunctionIdentifier := setId action.ranFunctionIdentifier
        sequenceId := setId action.sequenceId
        xAppControlData := action.xappControlData })
  | .messageAck, .messageAck ack => some (.messageAck
      { requestId := setId ack.requestId
        responseCode := setResponseCode ack.responseCode
        cause := ack.cause.map Cause.value
        detail := setDetail ack.detail })
  | .releaseMessage, .releaseMessage msg => some (.releaseMessage
      { dAppIdentifier := setId msg.dappIdentifier })
  | _, _ => none

/-- A time of 0 is sent as an absent one, others as signed integers. -/
def setTimestamp (timestamp : UInt64) : Option ℤ :=
  if timestamp ≠ 0 then some timestamp.toInt64.toInt else none

/-- `pdu_to_asn1`. -/
def pduToAsn1 (pdu : Pdu) : Option E3Pdu :=
  (choiceToAsn1 pdu.type pdu.choice).map fun msg =>
    ⟨setId pdu.messageId, setTimestamp pdu.timestamp, msg⟩

/-! ## To a PDU -/

/-- A `static_cast` of an INTEGER to an unsigned field. -/
def getId (x : ℤ) : UInt32 := UInt32.ofInt x

def getIdList (ids : List ℤ) : List UInt32 := ids.map getId

def getResponseCode (x : ℤ) : ResponseCode := if x = 0 then .positive else .negative

def getRanFunction (func : E3RanFunctionDefinition) : RanFunctionDef where
  ranFunctionIdentifier := getId func.ranFunctionIdentifier
  telemetryIdentifierList := getIdList func.telemetryIdentifierList
  controlIdentifierList := getIdList func.controlIdentifierList
  ranFunctionData := func.ranFunctionData

/-- The type and the alternative that `asn1_to_pdu` reads. For an unknown `present` it leaves
those of a new PDU. -/
def choiceOfAsn1 : E3PduMsg → PduType × PduChoice
  | .setupRequest m => (.setupRequest, .setupRequest
      { e3apProtocolVersion := m.e3apProtocolVersion
        dappName := m.dAppName
        dappVersion := m.dAppVersion
        vendor := m.vendor })
  | .setupResponse m => (.setupResponse, .setupResponse
      { requestId := getId m.requestId
        responseCode := getResponseCode m.responseCode
        e3apProtocolVersion := m.e3apProtocolVersion
        dappIdentifier := m.dAppIdentifier.map getId
        ranIdentifier := m.ranIdentifier
        ranFunctionList := (m.ranFunctionList.getD []).map getRanFunction
        cause := m.cause.map causeFromValue
        detail := getDetail m.detail })
  | .subscriptionRequest m => (.subscriptionRequest, .subscriptionRequest
      { dappIdentifier := getId m.dAppIdentifier
        ranFunctionIdentifier := getId m.ranFunctionIdentifier
        telemetryIdentifierList := getIdList m.telemetryIdentifierList
        controlIdentifierList := getIdList m.controlIdentifierList
        subscriptionTime := m.subscriptionTime.map getId
        periodicity := m.periodicity.map getId })
  | .subscriptionDelete m => (.subscriptionDelete, .subscriptionDelete
      { dappIdentifier := getId m.dAppIdentifier
        subscriptionId := getId m.subscriptionId })
  | .subscriptionResponse m => (.subscriptionResponse, .subscriptionResponse
      { requestId := getId m.requestId
        dappIdentifier := getId m.dAppIdentifier
        responseCode := getResponseCode m.responseCode
        subscriptionId := m.subscriptionId.map getId
        telemetryIdentifierList := m.telemetryIdentifierList.map getIdList
        controlIdentifierList := m.controlIdentifierList.map getIdList
        ranFunctionIdentifier := m.ranFunctionIdentifier.map getId
        periodicity := m.periodicity.map getId
        cause := m.cause.map causeFromValue
        detail := getDetail m.detail })
  | .indicationMessage m => (.indicationMessage, .indicationMessage
      { dappIdentifier := getId m.dAppIdentifier
        ranFunctionIdentifier := getId m.ranFunctionIdentifier
        protocolData := m.protocolData })
  | .dAppControlAction m => (.dappControlAction, .dappControlAction
      { dappIdentifier := getId m.dAppIdentifier
        ranFunctionIdentifier := getId m.ranFunctionIdentifier
        controlIdentifier := getId m.controlIdentifier
        sequenceId := (m.sequenceId.map getId).getD 0
        actionData := m.actionData })
  | .dAppReport m => (.dappReport, .dappReport
      { dappIdentifier := getId m.dAppIdentifier
        ranFunctionIdentifier := getId m.ranFunctionIdentifier
        sequenceId := getId m.sequenceId
        reportData := m.reportData })
  | .xAppControlAction m => (.xappControlAction, .xappControlAction
      { dappIdentifier := getId m.dAppIdentifier
        ranFunctionIdentifier := getId m.ranFunctionIdentifier
        sequenceId := getId m.sequenceId
        xappControlData := m.xAppControlData })
  | .messageAck m => (.messageAck, .messageAck
      { requestId := getId m.requestId
        responseCode := getResponseCode m.responseCode
        cause := m.cause.map causeFromValue
        detail := getDetail m.detail })
  | .releaseMessage m => (.releaseMessage, .releaseMessage
      { dappIdentifier := getId m.dAppIdentifier })
  | .other => (({} : Pdu).type, ({} : Pdu).choice)

/-- `asn1_to_pdu`. -/
def asn1ToPdu (asn1Pdu : E3Pdu) : Pdu where
  type := (choiceOfAsn1 asn1Pdu.msg).1
  choice := (choiceOfAsn1 asn1Pdu.msg).2
  messageId := getId asn1Pdu.id
  timestamp := (asn1Pdu.timestamp.map fun t => (Int64.ofInt t).toUInt64).getD 0

/-! ## The codec -/

/-- The generated APER codec: the encoding of a value of the grammar, and `aper_decode`. -/
structure AperCodec where
  encoding : E3Pdu → Bytes
  decode : Bytes → Option E3Pdu

namespace AperCodec

def bufferSize : ℕ := 65536

/-- `aper_encode_to_buffer` into a buffer of `bufferSize` bytes. -/
def encodeToBuffer (aper : AperCodec) (p : E3Pdu) : Option Bytes :=
  if p.Valid ∧ (aper.encoding p).length ≤ bufferSize then some (aper.encoding p) else none

end AperCodec

/-- `Asn1E3Encoder::encode`, without which error it reports. -/
def asn1Encode (aper : AperCodec) (pdu : Pdu) : Option Bytes :=
  (pduToAsn1 pdu).bind aper.encodeToBuffer

/-- `Asn1E3Encoder::decode`. -/
def asn1Decode (aper : AperCodec) (data : Bytes) : Option Pdu :=
  if data = [] then none else (aper.decode data).map asn1ToPdu

end LibE3
