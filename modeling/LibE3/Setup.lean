import LibE3.Encoder.Asn1
import LibE3.Encoder.Json
import LibE3.Encoder.Protobuf
import LibE3.Ran

/-!
# The setup channel of the RAN

The setup loop, with the encoder it uses: what it hands to `send_response` for each message that
arrives. A handler that reaches `std::abort()` has no result.
-/

namespace LibE3

/-- The third-party codecs the encoders are built on. -/
structure Codecs where
  aper : AperCodec
  json : Json.Library
  protobuf : Protobuf.Codec

/-- `encode` of the encoder that `init()` creates for a format. -/
def Codecs.encode (codecs : Codecs) : EncodingFormat → Pdu → Option Bytes
  | .asn1 => asn1Encode codecs.aper
  | .json => JsonE3Encoder.encode codecs.json
  | .protobuf => Protobuf.encode codecs.protobuf

/-- An `E3Encoder`, without which error it reports. -/
structure E3Encoder where
  encode : Pdu → Option Bytes
  decode : Bytes → Option Pdu

def asn1E3Encoder (aper : AperCodec) : E3Encoder := ⟨asn1Encode aper, asn1Decode aper⟩

namespace Ran

/-- `handle_setup_request`, with the buffers it passes to `send_response`. A response that does
not encode ends in `std::abort()`. -/
def handleSetupRequest (r : Ran) (encode : Pdu → Option Bytes) (stamp : UInt64)
    (requestMessageId : UInt32) : Option (Ran × List Bytes) :=
  let answered := r.answerSetup stamp requestMessageId
  match encode answered.2 with
  | none => none
  | some buffer => some (answered.1, [buffer])

/-- `send_negative_setup_reply`: a reply that does not encode is only logged. -/
def sendNegativeSetupReply (r : Ran) (encode : Pdu → Option Bytes) (stamp : UInt64)
    (requestId : UInt32) : Ran × List Bytes :=
  let replied := r.negativeSetupReply stamp requestId
  match encode replied.2 with
  | none => (replied.1, [])
  | some buffer => (replied.1, [buffer])

/-- One turn of `setup_loop_ran`, on a message of `buffer.length` bytes that
`recv_setup_request` returns. For a message without bytes it returns 0, as when it times out. -/
def setupTurn (r : Ran) (encoder : E3Encoder) (stamp : UInt64) (buffer : Bytes) :
    Option (Ran × List Bytes) :=
  if buffer.length ≤ 0 then some (r, [])
  else
    match encoder.decode buffer with
    | none => some (r.sendNegativeSetupReply encoder.encode stamp 0)
    | some pdu =>
      if pdu.type ≠ .setupRequest then
        some (r.sendNegativeSetupReply encoder.encode stamp pdu.messageId)
      else
        match pdu.choice with
        | .setupRequest _ => r.handleSetupRequest encoder.encode stamp pdu.messageId
        | _ => some (r.sendNegativeSetupReply encoder.encode stamp pdu.messageId)

/-- A message on the setup channel, and the time at which the answer to it is created. -/
structure Arrival where
  stamp : UInt64
  buffer : Bytes
  deriving DecidableEq, Repr

/-- `setup_loop_ran` on the messages that arrive: the state after them, and what is sent for
each. -/
def setupLoopRan (encoder : E3Encoder) : Ran → List Arrival → Option (Ran × List (List Bytes))
  | r, [] => some (r, [])
  | r, a :: arrivals =>
    (r.setupTurn encoder a.stamp a.buffer).bind fun turn =>
      (setupLoopRan encoder turn.1 arrivals).map fun rest => (rest.1, turn.2 :: rest.2)

end Ran

end LibE3
