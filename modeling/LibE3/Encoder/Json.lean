import LibE3.Lib.Json
import LibE3.Types

/-!
# The JSON encoder

`JsonE3Encoder::encode`. The envelope goes through the JSON library as an object; the payload of an
indication, a control or a report does not: it is checked and then inserted, as it is, into the
text the library wrote. An exception is `none`, like a failure that is returned.
-/

namespace LibE3

namespace JsonE3Encoder

/-- A letter of the "C" locale in lower case. -/
def toLower (c : UInt8) : UInt8 := if 0x41 ≤ c ∧ c ≤ 0x5A then c + 0x20 else c

def toCamelCase : Bytes → Bytes
  | [] => []
  | c :: rest => toLower c :: rest

def isJsonWs (c : UInt8) : Bool := c = 0x20 || c = 0x09 || c = 0x0A || c = 0x0D

section

variable (lib : Json.Library)

/-- `is_json_container`: an object or an array. -/
def isJsonContainer (bytes : Bytes) : Bool :=
  match bytes.dropWhile isJsonWs with
  | [] => false
  | b :: _ => (b = 0x7B || b = 0x5B) && lib.accept bytes

/-! ## Fields -/

abbrev Fields := List (String × Json)

def number (v : UInt32) : Json := .unsigned v.toNat

def idList (ids : List UInt32) : Json := .arr (ids.map number)

/-- A field that is written when it is set. -/
def optional {α : Type} (key : String) (value : Option α) (toJson : α → Json) : Fields :=
  match value with
  | none => []
  | some v => [(key, toJson v)]

def responseCodeField (responseCode : ResponseCode) : String × Json :=
  ("responseCode", .str (text (if responseCode = .positive then "positive" else "negative")))

def writeReason (cause : Option Cause) (detail : Option Bytes) : Fields :=
  optional "cause" cause (fun c => .str (text (causeToString c))) ++ optional "detail" detail .str

def encodeSetupRequest (req : SetupRequest) : Fields :=
  [("e3apProtocolVersion", .str req.e3apProtocolVersion),
    ("dAppName", .str req.dappName),
    ("dAppVersion", .str req.dappVersion),
    ("vendor", .str req.vendor)]

/-- An entry of `ranFunctionList`. -/
def encodeRanFunction (func : RanFunctionDef) : Option Json :=
  if isJsonContainer lib func.ranFunctionData then
    (lib.parse func.ranFunctionData).map fun data =>
      .obj (Json.update []
        [("ranFunctionIdentifier", number func.ranFunctionIdentifier),
          ("telemetryIdentifierList", idList func.telemetryIdentifierList),
          ("controlIdentifierList", idList func.controlIdentifierList),
          ("ranFunctionData", data)])
  else none

/-- The fields of a setup response, with the entries of its `ranFunctionList`. -/
def setupResponseFields (resp : SetupResponse) (ranFuncs : List Json) : Fields :=
  [("requestId", number resp.requestId), responseCodeField resp.responseCode] ++
    optional "e3apProtocolVersion" resp.e3apProtocolVersion .str ++
    optional "dAppIdentifier" resp.dappIdentifier number ++
    [("ranIdentifier", .str resp.ranIdentifier)] ++
    (if resp.ranFunctionList = [] then [] else [("ranFunctionList", .arr ranFuncs)]) ++
    writeReason resp.cause resp.detail

def encodeSetupResponse (resp : SetupResponse) : Option Fields :=
  (resp.ranFunctionList.mapM (encodeRanFunction lib)).map (setupResponseFields resp)

def encodeSubscriptionRequest (req : SubscriptionRequest) : Fields :=
  [("dAppIdentifier", number req.dappIdentifier),
    ("ranFunctionIdentifier", number req.ranFunctionIdentifier),
    ("telemetryIdentifierList", idList req.telemetryIdentifierList),
    ("controlIdentifierList", idList req.controlIdentifierList)] ++
    optional "subscriptionTime" req.subscriptionTime number ++
    optional "periodicity" req.periodicity number

def encodeSubscriptionDelete (del : SubscriptionDelete) : Fields :=
  [("dAppIdentifier", number del.dappIdentifier), ("subscriptionId", number del.subscriptionId)]

def encodeSubscriptionResponse (resp : SubscriptionResponse) : Fields :=
  [("requestId", number resp.requestId),
    ("dAppIdentifier", number resp.dappIdentifier),
    responseCodeField resp.responseCode] ++
    optional "subscriptionId" resp.subscriptionId number ++
    optional "telemetryIdentifierList" resp.telemetryIdentifierList idList ++
    optional "controlIdentifierList" resp.controlIdentifierList idList ++
    optional "ranFunctionIdentifier" resp.ranFunctionIdentifier number ++
    optional "periodicity" resp.periodicity number ++
    writeReason resp.cause resp.detail

def encodeIndicationMessage (msg : IndicationMessage) : Option Fields :=
  if lib.accept msg.protocolData then
    some [("dAppIdentifier", number msg.dappIdentifier),
      ("ranFunctionIdentifier", number msg.ranFunctionIdentifier)]
  else none

def encodeDappControlAction (action : DAppControlAction) : Fields :=
  [("dAppIdentifier", number action.dappIdentifier),
    ("ranFunctionIdentifier", number action.ranFunctionIdentifier),
    ("controlIdentifier", number action.controlIdentifier)] ++
    (if action.sequenceId ≠ 0 then [("sequenceId", number action.sequenceId)] else [])

def encodeDappReport (report : DAppReport) : Fields :=
  [("dAppIdentifier", number report.dappIdentifier),
    ("ranFunctionIdentifier", number report.ranFunctionIdentifier),
    ("sequenceId", number report.sequenceId)]

def encodeXappControlAction (action : XAppControlAction) : Fields :=
  [("dAppIdentifier", number action.dappIdentifier),
    ("ranFunctionIdentifier", number action.ranFunctionIdentifier),
    ("sequenceId", number action.sequenceId)]

def encodeMessageAck (ack : MessageAck) : Fields :=
  [("requestId", number ack.requestId), responseCodeField ack.responseCode] ++
    writeReason ack.cause ack.detail

def encodeReleaseMessage (msg : ReleaseMessage) : Fields :=
  [("dAppIdentifier", number msg.dappIdentifier)]

/-! ## The envelope -/

/-- What the visit of the alternative leaves: the fields for the envelope, and the texts that are
inserted into what the library writes. -/
structure Visited where
  fields : Fields
  rawProtocolData : Option Bytes := none
  rawMember : Option (String × Bytes) := none

/-- A payload that has to be an object or an array. -/
def withPayload (fields : Fields) (key : String) (data : Bytes) : Option Visited :=
  if isJsonContainer lib data then some { fields := fields, rawMember := some (key, data) }
  else none

/-- The visit of the alternative. -/
def visit : PduChoice → Option Visited
  | .setupRequest req => some { fields := encodeSetupRequest req }
  | .setupResponse resp => (encodeSetupResponse lib resp).map fun fields => { fields := fields }
  | .subscriptionRequest req => some { fields := encodeSubscriptionRequest req }
  | .subscriptionDelete del => some { fields := encodeSubscriptionDelete del }
  | .subscriptionResponse resp => some { fields := encodeSubscriptionResponse resp }
  | .indicationMessage msg =>
    (encodeIndicationMessage lib msg).map fun fields =>
      { fields := fields, rawProtocolData := some msg.protocolData }
  | .dappControlAction action =>
    withPayload lib (encodeDappControlAction action) "actionData" action.actionData
  | .dappReport report => withPayload lib (encodeDappReport report) "reportData" report.reportData
  | .xappControlAction action =>
    withPayload lib (encodeXappControlAction action) "xAppControlData" action.xappControlData
  | .releaseMessage msg => some { fields := encodeReleaseMessage msg }
  | .messageAck ack => some { fields := encodeMessageAck ack }

/-- The members every envelope starts with. The type is that of the PDU, not of the alternative. -/
def rootFields (pdu : Pdu) : Fields :=
  Json.update []
    [("type", .str (toCamelCase (text (pduTypeToString pdu.type)))),
      ("id", number pdu.messageId),
      ("timestamp", .unsigned pdu.timestamp.toNat)]

/-- `std::string::find`. -/
def find (pattern : Bytes) : Bytes → Option ℕ
  | [] => if pattern = [] then some 0 else none
  | c :: s => if pattern <+: c :: s then some 0 else (find pattern s).map (· + 1)

/-- Inserts the payload of an indication where its key would sort to. -/
def spliceProtocolData (json : Bytes) : Option Bytes → Option Bytes
  | none => some json
  | some raw =>
    (find (text "\"ranFunctionIdentifier\"") json).map fun pos =>
      json.take pos ++ text "\"protocolData\":" ++ raw ++ text "," ++ json.drop pos

/-- Appends a payload as the last member. -/
def appendRawMember (json : Bytes) : Option (String × Bytes) → Bytes
  | none => json
  | some (key, raw) =>
    json.dropLast ++ text ",\"" ++ text key ++ text "\":" ++ raw ++ text "\x7d"

def encode (pdu : Pdu) : Option Bytes :=
  (visit lib pdu.choice).bind fun v =>
    (lib.dump (.obj (Json.update (rootFields pdu) v.fields))).bind fun json =>
      (spliceProtocolData json v.rawProtocolData).map fun json =>
        appendRawMember json v.rawMember

end

end JsonE3Encoder

end LibE3
