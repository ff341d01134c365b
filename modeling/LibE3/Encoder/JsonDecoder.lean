import LibE3.Encoder.Reads

/-!
# The JSON decoder

`JsonE3Encoder::decode`. The text is parsed into an object, and the members are read from it; the
payload of an indication, a control or a report is cut out of the text when the scanner finds it.
An exception, which `decode` turns into `DECODE_FAILED`, is `decodeFailed`. Two things are
undefined: indexing a constant object with a key it does not have, which is `missingMember`, and
what the scanner may do other than return, which is `stopped`.

`truncate` is the integer part of a `double`. A conversion to an integer type is the library's: a
cast, without a check of the range.
-/

namespace LibE3

/-- `cause_from_string`: a name that is not known reads as unspecified. -/
def causeFromString (name : Bytes) : Cause :=
  (((List.range 15).map fun v : ℕ => causeFromValue v).find? fun c =>
    name = text (causeToString c)).getD .unspecified

namespace JsonE3Encoder

inductive Fault
  | decodeFailed
  | missingMember
  | stopped (why : Faults.Stop)
  deriving DecidableEq, Repr

section

variable (lib : Json.Library) (truncate : UInt64 → ℤ)

def stringToPduType (s : Bytes) : Option PduType :=
  if s = text "setupRequest" then some .setupRequest
  else if s = text "setupResponse" then some .setupResponse
  else if s = text "subscriptionRequest" then some .subscriptionRequest
  else if s = text "subscriptionDelete" then some .subscriptionDelete
  else if s = text "subscriptionResponse" then some .subscriptionResponse
  else if s = text "indicationMessage" then some .indicationMessage
  else if s = text "dAppControlAction" then some .dappControlAction
  else if s = text "dAppReport" then some .dappReport
  else if s = text "xAppControlAction" then some .xappControlAction
  else if s = text "releaseMessage" then some .releaseMessage
  else if s = text "messageAck" then some .messageAck
  else none

/-! ## Reading values -/

/-- `get<std::string>`. -/
def getString : Json → Except Fault Bytes
  | .str s => .ok s
  | _ => .error .decodeFailed

/-- The integer that `get` of an integer type casts. -/
def getInteger : Json → Except Fault ℤ
  | .unsigned n => .ok n
  | .integer i => .ok i
  | .float bits => .ok (truncate bits)
  | .bool b => .ok (if b then 1 else 0)
  | _ => .error .decodeFailed

/-- `get<uint32_t>`. -/
def getUInt32 (j : Json) : Except Fault UInt32 := (getInteger truncate j).map UInt32.ofInt

/-- `get<uint64_t>`. -/
def getUInt64 (j : Json) : Except Fault UInt64 := (getInteger truncate j).map UInt64.ofInt

/-- `get<std::vector<uint32_t>>`. -/
def getIdList : Json → Except Fault (List UInt32)
  | .arr elems => elems.mapM (getUInt32 truncate)
  | _ => .error .decodeFailed

/-- `value(key, default)`. -/
def valueOr {α : Type} (j : Fields) (key : String) (default : α) (get : Json → Except Fault α) :
    Except Fault α :=
  match j.lookup key with
  | none => .ok default
  | some v => get v

/-- A member that is read when the object contains it. -/
def valueIfPresent {α : Type} (j : Fields) (key : String) (get : Json → Except Fault α) :
    Except Fault (Option α) :=
  match j.lookup key with
  | none => .ok none
  | some v => (get v).map some

/-- What a loop over a value goes through. -/
def iterate : Json → List Json
  | .arr elems => elems
  | .obj members => members.map Prod.snd
  | .null => []
  | j => [j]

/-- `dump`, which throws on a string that is not UTF-8. -/
def dumpOrThrow (j : Json) : Except Fault Bytes :=
  match lib.dump j with
  | some s => .ok s
  | none => .error .decodeFailed

def payloadFromJson (j : Json) : Except Fault Bytes :=
  match j with
  | .obj _ => dumpOrThrow lib j
  | .arr _ => dumpOrThrow lib j
  | _ => .error .decodeFailed

/-- `find_first_not_of(" \t\r\n")`. -/
def findFirstNotOfWs (rawJson : Bytes) : Option ℕ := rawJson.findIdx? fun c => !isJsonWs c

/-- The span of a member of the object the text starts with. -/
def memberSpan (rawJson : Bytes) (key : String) : Except Fault (Option (ℕ × ℕ)) :=
  match findFirstNotOfWs rawJson with
  | none => .ok none
  | some objStart =>
    (Reads.findTopLevelMemberSpan intMax (rawJson.length + 1) rawJson objStart (text key)).mapError
      .stopped

/-- A payload as it stands in the text, if the scanner finds it there. -/
def verbatimOr (rawJson : Bytes) (key : String) (dumped : Except Fault Bytes) :
    Except Fault Bytes := do
  match ← memberSpan rawJson key with
  | some s => return span rawJson s
  | none => dumped

/-- `j[key].dump()`, which does not check that the member is there. -/
def dumpMember (j : Fields) (key : String) : Except Fault Bytes :=
  match j.lookup key with
  | none => .error .missingMember
  | some v => dumpOrThrow lib v

def payloadMember (j : Fields) (rawJson : Bytes) (key : String) : Except Fault Bytes :=
  match j.lookup key with
  | none => .ok []
  | some (.obj members) => verbatimOr rawJson key (payloadFromJson lib (.obj members))
  | some (.arr elems) => verbatimOr rawJson key (payloadFromJson lib (.arr elems))
  | some v => payloadFromJson lib v

/-! ## Messages -/

/-- `read_reason`: the cause and the text, which some peers send as `message`. -/
def readReason (j : Fields) : Option Cause × Option Bytes :=
  let cause :=
    match j.lookup "cause" with
    | some (.str s) => some (causeFromString s)
    | _ => none
  let detail :=
    match j.lookup "detail" with
    | some (.str s) => some s
    | _ =>
      match j.lookup "message" with
      | some (.str s) => some s
      | _ => none
  (cause, detail)

/-- The response code, which is negative unless the text says otherwise. -/
def readResponseCode (j : Fields) : Except Fault ResponseCode := do
  let responseCode ← valueOr j "responseCode" (text "negative") getString
  return if responseCode = text "positive" then .positive else .negative

def decodeSetupRequest (j : Fields) : Except Fault SetupRequest := do
  return {
    e3apProtocolVersion := ← valueOr j "e3apProtocolVersion" [] getString
    dappName := ← valueOr j "dAppName" [] getString
    dappVersion := ← valueOr j "dAppVersion" [] getString
    vendor := ← valueOr j "vendor" [] getString }

/-- One turn of the loop over `ranFunctionList`. -/
def decodeRanFunction : Json → Except Fault RanFunctionDef
  | .obj funcObj => do
    return {
      ranFunctionIdentifier := ← valueOr funcObj "ranFunctionIdentifier" 0 (getUInt32 truncate)
      telemetryIdentifierList :=
        ← valueOr funcObj "telemetryIdentifierList" [] (getIdList truncate)
      controlIdentifierList := ← valueOr funcObj "controlIdentifierList" [] (getIdList truncate)
      ranFunctionData := ← valueOr funcObj "ranFunctionData" [] (payloadFromJson lib) }
  | _ => .error .decodeFailed

def decodeSetupResponse (j : Fields) : Except Fault SetupResponse := do
  return {
    requestId := ← valueOr j "requestId" 0 (getUInt32 truncate)
    responseCode := ← readResponseCode j
    e3apProtocolVersion := ← valueIfPresent j "e3apProtocolVersion" getString
    dappIdentifier := ← valueIfPresent j "dAppIdentifier" (getUInt32 truncate)
    ranIdentifier := ← valueOr j "ranIdentifier" [] getString
    ranFunctionList :=
      ← valueOr j "ranFunctionList" [] fun v => (iterate v).mapM (decodeRanFunction lib truncate)
    cause := (readReason j).1
    detail := (readReason j).2 }

def decodeSubscriptionRequest (j : Fields) : Except Fault SubscriptionRequest := do
  return {
    dappIdentifier := ← valueOr j "dAppIdentifier" 0 (getUInt32 truncate)
    ranFunctionIdentifier := ← valueOr j "ranFunctionIdentifier" 0 (getUInt32 truncate)
    telemetryIdentifierList := ← valueOr j "telemetryIdentifierList" [] (getIdList truncate)
    controlIdentifierList := ← valueOr j "controlIdentifierList" [] (getIdList truncate)
    subscriptionTime := ← valueIfPresent j "subscriptionTime" (getUInt32 truncate)
    periodicity := ← valueIfPresent j "periodicity" (getUInt32 truncate) }

def decodeSubscriptionDelete (j : Fields) : Except Fault SubscriptionDelete := do
  return {
    dappIdentifier := ← valueOr j "dAppIdentifier" 0 (getUInt32 truncate)
    subscriptionId := ← valueOr j "subscriptionId" 0 (getUInt32 truncate) }

/-- `read_ids`: a list of identifiers under its name, or under the one some peers use. -/
def readIds (j : Fields) (name otherName : String) : Except Fault (Option (List UInt32)) :=
  match j.lookup name with
  | some v => (getIdList truncate v).map some
  | none => valueIfPresent j otherName (getIdList truncate)

def decodeSubscriptionResponse (j : Fields) : Except Fault SubscriptionResponse := do
  return {
    requestId := ← valueOr j "requestId" 0 (getUInt32 truncate)
    dappIdentifier := ← valueOr j "dAppIdentifier" 0 (getUInt32 truncate)
    responseCode := ← readResponseCode j
    subscriptionId := ← valueIfPresent j "subscriptionId" (getUInt32 truncate)
    telemetryIdentifierList :=
      ← readIds truncate j "telemetryIdentifierList" "telemetryGrantedList"
    controlIdentifierList := ← readIds truncate j "controlIdentifierList" "controlGrantedList"
    ranFunctionIdentifier := ← valueIfPresent j "ranFunctionIdentifier" (getUInt32 truncate)
    periodicity := ← valueIfPresent j "periodicity" (getUInt32 truncate)
    cause := (readReason j).1
    detail := (readReason j).2 }

def decodeIndicationMessage (j : Fields) (rawJson : Bytes) : Except Fault IndicationMessage := do
  return {
    dappIdentifier := ← valueOr j "dAppIdentifier" 0 (getUInt32 truncate)
    ranFunctionIdentifier := ← valueOr j "ranFunctionIdentifier" 0 (getUInt32 truncate)
    protocolData := ← verbatimOr rawJson "protocolData" (dumpMember lib j "protocolData") }

def decodeDappControlAction (j : Fields) (rawJson : Bytes) : Except Fault DAppControlAction := do
  return {
    dappIdentifier := ← valueOr j "dAppIdentifier" 0 (getUInt32 truncate)
    ranFunctionIdentifier := ← valueOr j "ranFunctionIdentifier" 0 (getUInt32 truncate)
    controlIdentifier := ← valueOr j "controlIdentifier" 0 (getUInt32 truncate)
    sequenceId := ← valueOr j "sequenceId" 0 (getUInt32 truncate)
    actionData := ← payloadMember lib j rawJson "actionData" }

def decodeDappReport (j : Fields) (rawJson : Bytes) : Except Fault DAppReport := do
  return {
    dappIdentifier := ← valueOr j "dAppIdentifier" 0 (getUInt32 truncate)
    ranFunctionIdentifier := ← valueOr j "ranFunctionIdentifier" 0 (getUInt32 truncate)
    sequenceId := ← valueOr j "sequenceId" 0 (getUInt32 truncate)
    reportData := ← payloadMember lib j rawJson "reportData" }

def decodeXappControlAction (j : Fields) (rawJson : Bytes) : Except Fault XAppControlAction := do
  return {
    dappIdentifier := ← valueOr j "dAppIdentifier" 0 (getUInt32 truncate)
    ranFunctionIdentifier := ← valueOr j "ranFunctionIdentifier" 0 (getUInt32 truncate)
    sequenceId := ← valueOr j "sequenceId" 0 (getUInt32 truncate)
    xappControlData := ← payloadMember lib j rawJson "xAppControlData" }

def decodeMessageAck (j : Fields) : Except Fault MessageAck := do
  return {
    requestId := ← valueOr j "requestId" 0 (getUInt32 truncate)
    responseCode := ← readResponseCode j
    cause := (readReason j).1
    detail := (readReason j).2 }

def decodeReleaseMessage (j : Fields) : Except Fault ReleaseMessage := do
  return { dappIdentifier := ← valueOr j "dAppIdentifier" 0 (getUInt32 truncate) }

/-! ## The envelope -/

/-- The alternative of a PDU of this type. -/
def decodeChoice (root : Fields) (rawJson : Bytes) : PduType → Except Fault PduChoice
  | .setupRequest => (decodeSetupRequest root).map .setupRequest
  | .setupResponse => (decodeSetupResponse lib truncate root).map .setupResponse
  | .subscriptionRequest => (decodeSubscriptionRequest truncate root).map .subscriptionRequest
  | .subscriptionDelete => (decodeSubscriptionDelete truncate root).map .subscriptionDelete
  | .subscriptionResponse => (decodeSubscriptionResponse truncate root).map .subscriptionResponse
  | .indicationMessage =>
    (decodeIndicationMessage lib truncate root rawJson).map .indicationMessage
  | .dappControlAction =>
    (decodeDappControlAction lib truncate root rawJson).map .dappControlAction
  | .dappReport => (decodeDappReport lib truncate root rawJson).map .dappReport
  | .xappControlAction =>
    (decodeXappControlAction lib truncate root rawJson).map .xappControlAction
  | .releaseMessage => (decodeReleaseMessage truncate root).map .releaseMessage
  | .messageAck => (decodeMessageAck truncate root).map .messageAck

/-- The PDU of an object. -/
def decodeRoot (root : Fields) (rawJson : Bytes) : Except Fault Pdu := do
  let pduTypeStr ← valueOr root "type" [] getString
  match stringToPduType pduTypeStr with
  | none => .error .decodeFailed
  | some pduType =>
    let messageId ← valueOr root "id" 0 (getUInt32 truncate)
    let timestamp ← valueOr root "timestamp" 0 (getUInt64 truncate)
    if (root.lookup "data").isSome then .error .decodeFailed
    else
      return {
        type := pduType
        choice := ← decodeChoice lib truncate root rawJson pduType
        messageId := messageId
        timestamp := timestamp }

def decode (data : Bytes) : Except Fault Pdu :=
  if data = [] then .error .decodeFailed
  else
    match lib.parse data with
    | some (.obj root) => decodeRoot lib truncate root data
    | _ => .error .decodeFailed

end

end JsonE3Encoder

end LibE3
