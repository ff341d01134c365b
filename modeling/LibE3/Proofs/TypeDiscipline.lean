import LibE3.Proofs.Equivalence
import LibE3.Proofs.JsonPayload
import LibE3.Encoder.Protobuf
import Mathlib.Data.Set.Basic

/-!
# Types and alternatives

A PDU has a type and an alternative that can disagree. The ASN.1 and the Protocol Buffers encoder
switch over the type and look whether the alternative is that of the type; the JSON encoder writes
the name of the type and the fields of whatever the alternative is. Behind an unknown alternative
the ASN.1 decoder returns a new PDU, which is a setup request.
-/

namespace LibE3

/-- What an encoder keeps to, over these PDUs and messages: it refuses a PDU whose type is not that
of its alternative, what it decodes has the type and the alternative that the message carries, and a
message that carries no alternative is rejected. -/
structure TypeDiscipline (encode : Pdu → Option Bytes) (decode : Bytes → Option Pdu)
    (Carries : Bytes → PduType → Prop) (pdus : Set Pdu) (messages : Set Bytes) : Prop where
  refuses : ∀ pdu ∈ pdus, pdu.type ≠ pdu.choice.type → encode pdu = none
  decoded : ∀ data ∈ messages, ∀ pdu, decode data = some pdu →
    Carries data pdu.type ∧ pdu.choice.type = pdu.type
  rejects : ∀ data ∈ messages, (∀ pduType, ¬ Carries data pduType) → decode data = none

section

variable {encode : Pdu → Option Bytes} {decode : Bytes → Option Pdu}
  {Carries : Bytes → PduType → Prop} {pdus : Set Pdu} {messages : Set Bytes}

theorem TypeDiscipline.of_decoded
    (hrefuses : ∀ pdu ∈ pdus, pdu.type ≠ pdu.choice.type → encode pdu = none)
    (hdecoded : ∀ data ∈ messages, ∀ pdu, decode data = some pdu →
      Carries data pdu.type ∧ pdu.choice.type = pdu.type) :
    TypeDiscipline encode decode Carries pdus messages where
  refuses := hrefuses
  decoded := hdecoded
  rejects data hdata hnone := by
    rw [Option.eq_none_iff_forall_ne_some]
    exact fun pdu hpdu => hnone pdu.type (hdecoded data hdata pdu hpdu).1

end

/-! ## ASN.1 -/

/-- The known alternative of an envelope. -/
def E3PduMsg.type : E3PduMsg → Option PduType
  | .setupRequest _ => some .setupRequest
  | .setupResponse _ => some .setupResponse
  | .subscriptionRequest _ => some .subscriptionRequest
  | .subscriptionDelete _ => some .subscriptionDelete
  | .subscriptionResponse _ => some .subscriptionResponse
  | .indicationMessage _ => some .indicationMessage
  | .dAppControlAction _ => some .dappControlAction
  | .dAppReport _ => some .dappReport
  | .xAppControlAction _ => some .xappControlAction
  | .releaseMessage _ => some .releaseMessage
  | .messageAck _ => some .messageAck
  | .other => none

def AperCodec.Carries (aper : AperCodec) (data : Bytes) (pduType : PduType) : Prop :=
  ∃ p, aper.decode data = some p ∧ p.msg.type = some pduType

theorem choiceToAsn1_eq_none {pduType : PduType} {choice : PduChoice} (h : pduType ≠ choice.type) :
    choiceToAsn1 pduType choice = none := by
  cases choice <;> cases pduType <;> first | rfl | exact absurd rfl h

theorem asn1Encode_eq_none (aper : AperCodec) {pdu : Pdu} (h : pdu.type ≠ pdu.choice.type) :
    asn1Encode aper pdu = none := by
  rw [asn1Encode, pduToAsn1, choiceToAsn1_eq_none h]
  rfl

theorem type_choiceOfAsn1 {msg : E3PduMsg} (h : msg ≠ .other) :
    msg.type = some (choiceOfAsn1 msg).1 ∧ (choiceOfAsn1 msg).2.type = (choiceOfAsn1 msg).1 := by
  cases msg with
  | other => exact absurd rfl h
  | _ => exact ⟨rfl, rfl⟩

theorem asn1Decode_eq_some {aper : AperCodec} {data : Bytes} {pdu : Pdu} :
    asn1Decode aper data = some pdu ↔
      data ≠ [] ∧ ∃ p, aper.decode data = some p ∧ asn1ToPdu p = pdu := by
  unfold asn1Decode
  split_ifs with hdata
  · simp [hdata]
  · simp [hdata]

/-- The ASN.1 encoder keeps to it exactly where no message has an unknown alternative. -/
theorem typeDiscipline_asn1_iff (aper : AperCodec) (pdus : Set Pdu) (messages : Set Bytes) :
    TypeDiscipline (asn1Encode aper) (asn1Decode aper) aper.Carries pdus messages ↔
      ∀ data ∈ messages, data ≠ [] → ∀ p, aper.decode data = some p → p.msg ≠ .other := by
  constructor
  · intro h data hdata hne p hp hother
    obtain ⟨⟨p', hp', htype⟩, -⟩ :=
      h.decoded data hdata _ (asn1Decode_eq_some.mpr ⟨hne, p, hp, rfl⟩)
    obtain rfl := Option.some.inj (hp'.symm.trans hp)
    rw [hother] at htype
    cases htype
  · intro h
    refine .of_decoded (fun pdu _ hne => asn1Encode_eq_none aper hne) fun data hdata pdu hpdu => ?_
    obtain ⟨hne, p, hp, rfl⟩ := asn1Decode_eq_some.mp hpdu
    obtain ⟨htype, hchoice⟩ := type_choiceOfAsn1 (h data hdata hne p hp)
    exact ⟨⟨p, hp, htype⟩, hchoice⟩

/-! ## Protocol Buffers -/

namespace Protobuf

def Msg.type : Msg → PduType
  | .setupRequest _ => .setupRequest
  | .setupResponse _ => .setupResponse
  | .subscriptionRequest _ => .subscriptionRequest
  | .subscriptionDelete _ => .subscriptionDelete
  | .subscriptionResponse _ => .subscriptionResponse
  | .indicationMessage _ => .indicationMessage
  | .dappControlAction _ => .dappControlAction
  | .dappReport _ => .dappReport
  | .xappControlAction _ => .xappControlAction
  | .releaseMessage _ => .releaseMessage
  | .messageAck _ => .messageAck

def Carries (parse : Bytes → Option E3Pdu) (data : Bytes) (pduType : PduType) : Prop :=
  ∃ proto msg, parse data = some proto ∧ proto.msg = some msg ∧ msg.type = pduType

theorem choiceToProto_eq_none {pduType : PduType} {choice : PduChoice}
    (h : pduType ≠ choice.type) : choiceToProto pduType choice = none := by
  cases choice <;> cases pduType <;> first | rfl | exact absurd rfl h

theorem type_choiceOfProto (msg : Msg) :
    msg.type = (choiceOfProto msg).1 ∧ (choiceOfProto msg).2.type = (choiceOfProto msg).1 := by
  cases msg <;> exact ⟨rfl, rfl⟩

/-- The Protocol Buffers encoder keeps to it. -/
theorem typeDiscipline (codec : Codec) (parse : Bytes → Option E3Pdu) (pdus : Set Pdu)
    (messages : Set Bytes) :
    TypeDiscipline (encode codec) (decode parse) (Carries parse) pdus messages := by
  refine .of_decoded (fun pdu _ hne => ?_) fun data _ pdu hpdu => ?_
  · rw [encode, pduToProto, choiceToProto_eq_none hne]
    rfl
  · obtain ⟨proto, hproto, hpdu⟩ := Option.bind_eq_some_iff.mp hpdu
    obtain ⟨msg, hmsg, rfl⟩ := Option.map_eq_some_iff.mp hpdu
    obtain ⟨htype, hchoice⟩ := type_choiceOfProto msg
    exact ⟨⟨proto, msg, hproto, hmsg, htype⟩, hchoice⟩

end Protobuf

/-! ## JSON -/

namespace JsonE3Encoder

variable {lib : Json.Library} {fmt : Json.FloatFormat}

/-- The message names the type. -/
def Carries (lib : Json.Library) (data : Bytes) (pduType : PduType) : Prop :=
  ∃ root, lib.parse data = some (.obj root) ∧
    root.lookup "type" = some (.str (toCamelCase (text (pduTypeToString pduType))))

/-- The JSON encoder keeps to it exactly where the alternative of each PDU with another type is
refused, for a payload that is not JSON or a text that is not UTF-8. -/
theorem typeDiscipline_iff (hlib : lib.Follows fmt) (truncate : UInt64 → ℤ) (pdus : Set Pdu)
    (messages : Set Bytes) :
    TypeDiscipline (encode lib) (fun data => (decode lib truncate data).toOption) (Carries lib)
        pdus messages ↔
      ∀ pdu ∈ pdus, pdu.type ≠ pdu.choice.type → ¬ Writable lib pdu.choice := by
  have hrefused (pdu : Pdu) : encode lib pdu = none ↔ ¬ Writable lib pdu.choice := by
    rw [← encode_isSome_iff hlib, Option.not_isSome_iff_eq_none]
  constructor
  · intro h pdu hpdu hne
    exact (hrefused pdu).mp (h.refuses pdu hpdu hne)
  · intro h
    refine .of_decoded (fun pdu hpdu hne => ?_) fun data _ pdu hpdu => ?_
    · exact (hrefused pdu).mpr (h pdu hpdu hne)
    · obtain ⟨pdu', hdecode⟩ : ∃ pdu', decode lib truncate data = .ok pdu' := by
        cases hdecode : decode lib truncate data with
        | error fault =>
          rw [hdecode] at hpdu
          cases hpdu
        | ok pdu' => exact ⟨pdu', rfl⟩
      rw [hdecode] at hpdu
      obtain rfl := Option.some.inj hpdu
      obtain ⟨root, hroot, hread⟩ := isRead_of_decode hdecode
      obtain ⟨s, hs, htype⟩ := hread.type
      exact ⟨⟨root, hroot, lookup_type_of_valueOr hs htype⟩, type_of_decodeChoice hread.choice⟩

end JsonE3Encoder

/-! ## The three encoders -/

/-- Over any PDUs and messages: the ASN.1 encoder keeps to the types exactly if no message has an
unknown alternative, the Protocol Buffers encoder always, and the JSON encoder exactly if of each
PDU whose type is not that of its alternative the payload is not JSON or a text is not UTF-8. -/
theorem encoders_typed_iff {lib : Json.Library} {fmt : Json.FloatFormat} (hlib : lib.Follows fmt)
    (aper : AperCodec) (codec : Protobuf.Codec) (parse : Bytes → Option Protobuf.E3Pdu)
    (truncate : UInt64 → ℤ) (pdus : Set Pdu) (messages : Set Bytes) :
    (TypeDiscipline (asn1Encode aper) (asn1Decode aper) aper.Carries pdus messages ↔
      ∀ data ∈ messages, data ≠ [] → ∀ p, aper.decode data = some p → p.msg ≠ .other) ∧
    TypeDiscipline (Protobuf.encode codec) (Protobuf.decode parse) (Protobuf.Carries parse) pdus
      messages ∧
    (TypeDiscipline (JsonE3Encoder.encode lib)
        (fun data => (JsonE3Encoder.decode lib truncate data).toOption) (JsonE3Encoder.Carries lib)
        pdus messages ↔
      ∀ pdu ∈ pdus, pdu.type ≠ pdu.choice.type → ¬ JsonE3Encoder.Writable lib pdu.choice) :=
  ⟨typeDiscipline_asn1_iff aper pdus messages, Protobuf.typeDiscipline codec parse pdus messages,
    JsonE3Encoder.typeDiscipline_iff hlib truncate pdus messages⟩

def releaseCodec : AperCodec where
  encoding _ := []
  decode _ := some ⟨1, none, .releaseMessage ⟨7⟩⟩

theorem consistent_pdus_typed :
    TypeDiscipline (asn1Encode releaseCodec) (asn1Decode releaseCodec) releaseCodec.Carries
      {pdu | pdu.type = pdu.choice.type} Set.univ
    ∧ TypeDiscipline (JsonE3Encoder.encode (Json.reference Json.noFloats))
      (fun data => (JsonE3Encoder.decode (Json.reference Json.noFloats) Json.noFloats.truncate
        data).toOption)
      (JsonE3Encoder.Carries (Json.reference Json.noFloats))
      {pdu | pdu.type = pdu.choice.type} Set.univ := by
  obtain ⟨hasn1, -, hjson⟩ := encoders_typed_iff (Json.reference_follows Json.noFloats) releaseCodec
    ⟨fun _ => []⟩ (fun _ => none) Json.noFloats.truncate {pdu | pdu.type = pdu.choice.type} Set.univ
  refine ⟨hasn1.mpr fun data _ _ p hp => ?_, hjson.mpr fun pdu htype hne => absurd htype hne⟩
  obtain rfl := Option.some.inj hp
  nofun

/-- A codec whose messages all have an alternative that is not known. -/
def extendedCodec : AperCodec where
  encoding _ := []
  decode _ := some ⟨1, none, .other⟩

def mistypedRelease : Pdu where
  type := .releaseMessage
  choice := .setupRequest {}
  messageId := 1

theorem mistyped_release_encoded :
    JsonE3Encoder.encode (Json.reference Json.noFloats) mistypedRelease
      = some (text ("\x7b\"dAppName\":\"\",\"dAppVersion\":\"\",\"e3apProtocolVersion\":\"\"," ++
          "\"id\":1,\"timestamp\":0,\"type\":\"releaseMessage\",\"vendor\":\"\"\x7d"))
    ∧ asn1Decode extendedCodec [0x80]
      = some { type := .setupRequest, choice := .setupRequest {}, messageId := 1 } := by
  decide +kernel

end LibE3
