import Mathlib.Data.Int.Notation
import Mathlib.Data.Nat.Notation

/-!
# E3AP types

The enumerations and messages of `types.hpp`. A `std::string` is the list of its bytes, since
nothing in the library keeps it to valid text. Clock readings are integers, in nanoseconds.
The latency-record fields (`enqueue_seq`, `recv_seq`) are left out, and so is the `message_id` an
xApp control action is given on receipt: none of them is sent, and no modelled function reads them.
-/

namespace LibE3

abbrev Bytes := List UInt8

/-- The bytes of a string literal of the source. -/
def text (s : String) : Bytes := s.toUTF8.toList

/-- A reading of `std::chrono::steady_clock`, in nanoseconds. -/
abbrev TimePoint := ℤ

/-- `std::chrono::seconds` as a clock difference. -/
def seconds (s : UInt32) : ℤ := (s.toNat : ℤ) * 1000000000

inductive EncodingFormat
  | asn1 | json | protobuf
  deriving DecidableEq, Repr

inductive E3Role
  | ran | dapp
  deriving DecidableEq, Repr

inductive ResponseCode
  | positive | negative
  deriving DecidableEq, Repr

inductive Cause
  | unspecified | protocolError | setupRequired | setupAlreadyComplete
  | unsupportedProtocolVersion | unsupportedRanFunction | unsupportedIdentifier | invalidRequest
  | notFound | duplicate | resourceExhausted | authorizationRejected | payloadTooLarge
  | transportOverrun | shuttingDown
  deriving DecidableEq, Repr

inductive PduType
  | setupRequest | setupResponse | subscriptionRequest | subscriptionDelete
  | subscriptionResponse | indicationMessage | dappControlAction | dappReport
  | xappControlAction | releaseMessage | messageAck
  deriving DecidableEq, Repr

inductive AgentState
  | uninitialized | initialized | connecting | connected | running | stopping | stopped | error
  deriving DecidableEq, Repr

inductive ErrorCode
  | success | invalidParam | notInitialized | alreadyInitialized | notConnected
  | connectionFailed | timeout | encodeFailed | decodeFailed | smNotFound | smAlreadyRegistered
  | bufferTooSmall | internalError | subscriptionExists | subscriptionNotFound
  | dappNotRegistered | transportError | stateError | smStartFailed | notFound
  | smErrorInvalidParam | smErrorNotFound | smErrorAlreadyExists | smErrorThreadFailed
  | smErrorMemory | cancelled | genericError
  deriving DecidableEq, Repr

def Cause.value : Cause → ℤ
  | .unspecified => 0
  | .protocolError => 1
  | .setupRequired => 2
  | .setupAlreadyComplete => 3
  | .unsupportedProtocolVersion => 4
  | .unsupportedRanFunction => 5
  | .unsupportedIdentifier => 6
  | .invalidRequest => 7
  | .notFound => 8
  | .duplicate => 9
  | .resourceExhausted => 10
  | .authorizationRejected => 11
  | .payloadTooLarge => 12
  | .transportOverrun => 13
  | .shuttingDown => 14

/-- `cause_from_value`: a value that is not known reads as unspecified. -/
def causeFromValue : ℤ → Cause
  | 1 => .protocolError
  | 2 => .setupRequired
  | 3 => .setupAlreadyComplete
  | 4 => .unsupportedProtocolVersion
  | 5 => .unsupportedRanFunction
  | 6 => .unsupportedIdentifier
  | 7 => .invalidRequest
  | 8 => .notFound
  | 9 => .duplicate
  | 10 => .resourceExhausted
  | 11 => .authorizationRejected
  | 12 => .payloadTooLarge
  | 13 => .transportOverrun
  | 14 => .shuttingDown
  | _ => .unspecified

def causeToString : Cause → String
  | .unspecified => "unspecified"
  | .protocolError => "protocolError"
  | .setupRequired => "setupRequired"
  | .setupAlreadyComplete => "setupAlreadyComplete"
  | .unsupportedProtocolVersion => "unsupportedProtocolVersion"
  | .unsupportedRanFunction => "unsupportedRanFunction"
  | .unsupportedIdentifier => "unsupportedIdentifier"
  | .invalidRequest => "invalidRequest"
  | .notFound => "notFound"
  | .duplicate => "duplicate"
  | .resourceExhausted => "resourceExhausted"
  | .authorizationRejected => "authorizationRejected"
  | .payloadTooLarge => "payloadTooLarge"
  | .transportOverrun => "transportOverrun"
  | .shuttingDown => "shuttingDown"

def pduTypeToString : PduType → String
  | .setupRequest => "SetupRequest"
  | .setupResponse => "SetupResponse"
  | .subscriptionRequest => "SubscriptionRequest"
  | .subscriptionDelete => "SubscriptionDelete"
  | .subscriptionResponse => "SubscriptionResponse"
  | .indicationMessage => "IndicationMessage"
  | .dappControlAction => "DAppControlAction"
  | .dappReport => "DAppReport"
  | .xappControlAction => "XAppControlAction"
  | .releaseMessage => "ReleaseMessage"
  | .messageAck => "MessageAck"

def maxRanFunctions : ℕ := 64
def maxIdentifierListSize : ℕ := 256
def maxDetailSize : ℕ := 512

/-! ## Messages -/

structure SetupRequest where
  e3apProtocolVersion : Bytes := []
  dappName : Bytes := []
  dappVersion : Bytes := []
  vendor : Bytes := []
  deriving DecidableEq, Repr

structure RanFunctionDef where
  ranFunctionIdentifier : UInt32 := 0
  telemetryIdentifierList : List UInt32 := []
  controlIdentifierList : List UInt32 := []
  ranFunctionData : Bytes := []
  deriving DecidableEq, Repr

structure SetupResponse where
  requestId : UInt32 := 0
  responseCode : ResponseCode := .negative
  e3apProtocolVersion : Option Bytes := none
  dappIdentifier : Option UInt32 := none
  ranIdentifier : Bytes := []
  ranFunctionList : List RanFunctionDef := []
  cause : Option Cause := none
  detail : Option Bytes := none
  deriving DecidableEq, Repr

structure SubscriptionRequest where
  dappIdentifier : UInt32 := 0
  ranFunctionIdentifier : UInt32 := 0
  telemetryIdentifierList : List UInt32 := []
  controlIdentifierList : List UInt32 := []
  subscriptionTime : Option UInt32 := none
  periodicity : Option UInt32 := none
  deriving DecidableEq, Repr

structure SubscriptionDelete where
  dappIdentifier : UInt32 := 0
  subscriptionId : UInt32 := 0
  deriving DecidableEq, Repr

structure SubscriptionResponse where
  requestId : UInt32 := 0
  dappIdentifier : UInt32 := 0
  responseCode : ResponseCode := .negative
  subscriptionId : Option UInt32 := none
  telemetryIdentifierList : Option (List UInt32) := none
  controlIdentifierList : Option (List UInt32) := none
  ranFunctionIdentifier : Option UInt32 := none
  periodicity : Option UInt32 := none
  cause : Option Cause := none
  detail : Option Bytes := none
  deriving DecidableEq, Repr

structure IndicationMessage where
  dappIdentifier : UInt32 := 0
  ranFunctionIdentifier : UInt32 := 0
  protocolData : Bytes := []
  deriving DecidableEq, Repr

structure DAppControlAction where
  dappIdentifier : UInt32 := 0
  ranFunctionIdentifier : UInt32 := 0
  controlIdentifier : UInt32 := 0
  actionData : Bytes := []
  sequenceId : UInt32 := 0
  deriving DecidableEq, Repr

structure MessageAck where
  requestId : UInt32 := 0
  responseCode : ResponseCode := .negative
  cause : Option Cause := none
  detail : Option Bytes := none
  deriving DecidableEq, Repr

structure DAppReport where
  dappIdentifier : UInt32 := 0
  ranFunctionIdentifier : UInt32 := 0
  reportData : Bytes := []
  sequenceId : UInt32 := 0
  deriving DecidableEq, Repr

structure XAppControlAction where
  dappIdentifier : UInt32 := 0
  ranFunctionIdentifier : UInt32 := 0
  xappControlData : Bytes := []
  sequenceId : UInt32 := 0
  deriving DecidableEq, Repr

structure ReleaseMessage where
  dappIdentifier : UInt32 := 0
  deriving DecidableEq, Repr

/-- `PduChoice`, the variant a PDU holds. -/
inductive PduChoice
  | setupRequest (m : SetupRequest)
  | setupResponse (m : SetupResponse)
  | subscriptionRequest (m : SubscriptionRequest)
  | subscriptionDelete (m : SubscriptionDelete)
  | subscriptionResponse (m : SubscriptionResponse)
  | indicationMessage (m : IndicationMessage)
  | dappControlAction (m : DAppControlAction)
  | dappReport (m : DAppReport)
  | xappControlAction (m : XAppControlAction)
  | releaseMessage (m : ReleaseMessage)
  | messageAck (m : MessageAck)
  deriving DecidableEq, Repr

/-- The type that belongs to an alternative. -/
def PduChoice.type : PduChoice → PduType
  | .setupRequest _ => .setupRequest
  | .setupResponse _ => .setupResponse
  | .subscriptionRequest _ => .subscriptionRequest
  | .subscriptionDelete _ => .subscriptionDelete
  | .subscriptionResponse _ => .subscriptionResponse
  | .indicationMessage _ => .indicationMessage
  | .dappControlAction _ => .dappControlAction
  | .dappReport _ => .dappReport
  | .xappControlAction _ => .xappControlAction
  | .releaseMessage _ => .releaseMessage
  | .messageAck _ => .messageAck

/-- A PDU. Its `type` is a field of its own and can disagree with the alternative it holds. -/
structure Pdu where
  type : PduType := .setupRequest
  choice : PduChoice := .setupRequest {}
  messageId : UInt32 := 0
  timestamp : UInt64 := 0
  deriving DecidableEq, Repr

end LibE3
