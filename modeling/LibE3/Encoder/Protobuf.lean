import LibE3.Types

/-!
# The Protocol Buffers encoder

`ProtobufE3Encoder::encode` and `decode`. The generated messages have no constraints beyond the
types of their fields, and `E3Pdu` keeps its alternative in a `oneof`.
-/

namespace LibE3

namespace Protobuf

structure RanFunctionDefinition where
  ranFunctionIdentifier : UInt32
  telemetryIdentifierList : List UInt32
  controlIdentifierList : List UInt32
  ranFunctionData : Bytes
  deriving DecidableEq, Repr

structure SetupResponse where
  requestId : UInt32
  responseCode : ℤ
  e3apProtocolVersion : Option Bytes
  dappIdentifier : Option UInt32
  ranIdentifier : Bytes
  ranFunctionList : List RanFunctionDefinition
  cause : Option ℤ
  detail : Option Bytes
  deriving DecidableEq, Repr

structure SubscriptionResponse where
  requestId : UInt32
  dappIdentifier : UInt32
  responseCode : ℤ
  subscriptionId : Option UInt32
  telemetryIdentifierList : Option (List UInt32)
  controlIdentifierList : Option (List UInt32)
  ranFunctionIdentifier : Option UInt32
  periodicity : Option UInt32
  cause : Option ℤ
  detail : Option Bytes
  deriving DecidableEq, Repr

structure MessageAck where
  requestId : UInt32
  responseCode : ℤ
  cause : Option ℤ
  detail : Option Bytes
  deriving DecidableEq, Repr

/-- The `oneof` of `E3Pdu`. A message without enumerations has the fields of its counterpart. -/
inductive Msg
  | setupRequest (m : LibE3.SetupRequest)
  | setupResponse (m : SetupResponse)
  | subscriptionRequest (m : LibE3.SubscriptionRequest)
  | subscriptionDelete (m : LibE3.SubscriptionDelete)
  | subscriptionResponse (m : SubscriptionResponse)
  | indicationMessage (m : LibE3.IndicationMessage)
  | dappControlAction (m : LibE3.DAppControlAction)
  | dappReport (m : LibE3.DAppReport)
  | xappControlAction (m : LibE3.XAppControlAction)
  | releaseMessage (m : LibE3.ReleaseMessage)
  | messageAck (m : MessageAck)
  deriving DecidableEq, Repr

structure E3Pdu where
  id : UInt32
  timestamp : UInt64
  msg : Option Msg
  deriving DecidableEq, Repr

/-- `SerializeToString` of the generated classes, which takes every message. -/
structure Codec where
  serialize : E3Pdu → Bytes

def toPbResponseCode (rc : ResponseCode) : ℤ := if rc = .positive then 0 else 1

def toPbCause (c : Cause) : ℤ := c.value

def toPbRanFunction (rf : RanFunctionDef) : RanFunctionDefinition where
  ranFunctionIdentifier := rf.ranFunctionIdentifier
  telemetryIdentifierList := rf.telemetryIdentifierList
  controlIdentifierList := rf.controlIdentifierList
  ranFunctionData := rf.ranFunctionData

/-- The alternative that `pdu_to_proto` sets; `none` when the type disagrees with it. -/
def choiceToProto : PduType → PduChoice → Option Msg
  | .setupRequest, .setupRequest s => some (.setupRequest s)
  | .setupResponse, .setupResponse s => some (.setupResponse
      { requestId := s.requestId
        responseCode := toPbResponseCode s.responseCode
        e3apProtocolVersion := s.e3apProtocolVersion
        dappIdentifier := s.dappIdentifier
        ranIdentifier := s.ranIdentifier
        ranFunctionList := s.ranFunctionList.map toPbRanFunction
        cause := s.cause.map toPbCause
        detail := s.detail })
  | .subscriptionRequest, .subscriptionRequest s => some (.subscriptionRequest s)
  | .subscriptionDelete, .subscriptionDelete s => some (.subscriptionDelete s)
  | .subscriptionResponse, .subscriptionResponse s => some (.subscriptionResponse
      { requestId := s.requestId
        dappIdentifier := s.dappIdentifier
        responseCode := toPbResponseCode s.responseCode
        subscriptionId := s.subscriptionId
        telemetryIdentifierList := s.telemetryIdentifierList
        controlIdentifierList := s.controlIdentifierList
        ranFunctionIdentifier := s.ranFunctionIdentifier
        periodicity := s.periodicity
        cause := s.cause.map toPbCause
        detail := s.detail })
  | .indicationMessage, .indicationMessage s => some (.indicationMessage s)
  | .dappControlAction, .dappControlAction s => some (.dappControlAction s)
  | .dappReport, .dappReport s => some (.dappReport s)
  | .xappControlAction, .xappControlAction s => some (.xappControlAction s)
  | .releaseMessage, .releaseMessage s => some (.releaseMessage s)
  | .messageAck, .messageAck s => some (.messageAck
      { requestId := s.requestId
        responseCode := toPbResponseCode s.responseCode
        cause := s.cause.map toPbCause
        detail := s.detail })
  | _, _ => none

def pduToProto (pdu : Pdu) : Option E3Pdu :=
  (choiceToProto pdu.type pdu.choice).map fun msg => ⟨pdu.messageId, pdu.timestamp, some msg⟩

def encode (codec : Codec) (pdu : Pdu) : Option Bytes := (pduToProto pdu).map codec.serialize

/-! ## Decoding -/

def fromPbResponseCode (rc : ℤ) : ResponseCode := if rc = 1 then .negative else .positive

def fromPbCause (c : ℤ) : Cause := causeFromValue c

def fromPbRanFunction (pf : RanFunctionDefinition) : RanFunctionDef where
  ranFunctionIdentifier := pf.ranFunctionIdentifier
  telemetryIdentifierList := pf.telemetryIdentifierList
  controlIdentifierList := pf.controlIdentifierList
  ranFunctionData := pf.ranFunctionData

/-- The type and the alternative that `proto_to_pdu` reads. -/
def choiceOfProto : Msg → PduType × PduChoice
  | .setupRequest m => (.setupRequest, .setupRequest m)
  | .setupResponse m => (.setupResponse, .setupResponse
      { requestId := m.requestId
        responseCode := fromPbResponseCode m.responseCode
        e3apProtocolVersion := m.e3apProtocolVersion
        dappIdentifier := m.dappIdentifier
        ranIdentifier := m.ranIdentifier
        ranFunctionList := m.ranFunctionList.map fromPbRanFunction
        cause := m.cause.map fromPbCause
        detail := m.detail })
  | .subscriptionRequest m => (.subscriptionRequest, .subscriptionRequest m)
  | .subscriptionDelete m => (.subscriptionDelete, .subscriptionDelete m)
  | .subscriptionResponse m => (.subscriptionResponse, .subscriptionResponse
      { requestId := m.requestId
        dappIdentifier := m.dappIdentifier
        responseCode := fromPbResponseCode m.responseCode
        subscriptionId := m.subscriptionId
        telemetryIdentifierList := m.telemetryIdentifierList
        controlIdentifierList := m.controlIdentifierList
        ranFunctionIdentifier := m.ranFunctionIdentifier
        periodicity := m.periodicity
        cause := m.cause.map fromPbCause
        detail := m.detail })
  | .indicationMessage m => (.indicationMessage, .indicationMessage m)
  | .dappControlAction m => (.dappControlAction, .dappControlAction m)
  | .dappReport m => (.dappReport, .dappReport m)
  | .xappControlAction m => (.xappControlAction, .xappControlAction m)
  | .releaseMessage m => (.releaseMessage, .releaseMessage m)
  | .messageAck m => (.messageAck, .messageAck
      { requestId := m.requestId
        responseCode := fromPbResponseCode m.responseCode
        cause := m.cause.map fromPbCause
        detail := m.detail })

/-- `proto_to_pdu` of a message whose alternative is set. -/
def protoToPdu (proto : E3Pdu) (msg : Msg) : Pdu where
  type := (choiceOfProto msg).1
  choice := (choiceOfProto msg).2
  messageId := proto.id
  timestamp := proto.timestamp

/-- `decode`, with the `ParseFromArray` of the generated classes. A message without an alternative
is refused. -/
def decode (parse : Bytes → Option E3Pdu) (data : Bytes) : Option Pdu :=
  (parse data).bind fun proto => proto.msg.map (protoToPdu proto)

end Protobuf

end LibE3
