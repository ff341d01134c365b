import LibE3.E2smDapp.Types

/-!
# The E2SM-DAPP codec

`e2sm_dapp.cpp`: the structures are checked and built into those that asn1c generates from the
grammar, encoded, decoded, and checked and read back. Memory is not exhausted, so no allocation
fails. The structures of asn1c are the values they stand for: an octet string is its octets, an
optional field is an `Option`, and `SEQUENCE OF` is a list, so the checks for null pointers inside
them have no counterpart. `nothing` is a CHOICE whose alternative is not known. A `long` has 64
bits.
-/

namespace LibE3.E2smDapp

/-! ## Structures of asn1c -/

namespace Asn

structure RanFunctionName where
  ranFunctionShortName : Bytes
  ranFunctionE2smOid : Bytes
  ranFunctionDescription : Bytes
  ranFunctionInstance : Option Int64

structure DappE3SubscriptionItem where
  dappId : UInt64
  subscribedE3RanFunctions : List UInt64

abbrev DappE3SubscriptionList := List DappE3SubscriptionItem

structure ReportItem where
  ricReportStyleType : Int64
  ricReportStyleName : Bytes
  ricIndicationHeaderFormatType : Int64
  ricIndicationMessageFormatType : Int64
  dappE3Subscriptions : Option DappE3SubscriptionList

structure ControlItem where
  ricControlStyleType : Int64
  ricControlStyleName : Bytes
  ricControlHeaderFormatType : Int64
  ricControlMessageFormatType : Int64
  ricControlOutcomeFormatType : Int64
  dappE3Subscriptions : Option DappE3SubscriptionList

structure RanFunctionDefinition where
  ranFunctionName : RanFunctionName
  ranFunctionDefinitionEventTrigger : Option Unit
  ranFunctionDefinitionReport : Option (List ReportItem)
  ranFunctionDefinitionControl : Option (List ControlItem)

inductive EventTrigger
  | nothing
  | format1

inductive ActionDefinitionFormats
  | nothing
  | format1

structure ActionDefinition where
  ricStyleType : Int64
  actionDefinitionFormats : ActionDefinitionFormats

structure IndicationHeaderFormat1 where
  ranFunctionId : UInt64
  dappId : UInt64
  nodeType : Int64
  nodePlmnId : Bytes
  nodeNbId : UInt64
  nodeCuDuId : Option UInt64
  timestamp : Option Int64
  sequenceId : Option Int64

structure IndicationHeaderFormat2 where
  nodeType : Int64
  nodePlmnId : Bytes
  nodeNbId : UInt64
  nodeCuDuId : Option UInt64
  timestamp : Option Int64
  sequenceId : Option Int64

inductive IndicationHeader
  | nothing
  | format1 (f : IndicationHeaderFormat1)
  | format2 (f : IndicationHeaderFormat2)

/-- Format 1 of the indication message and of the control message. -/
structure MessageFormat1 where
  dataSize : Int64
  data : Bytes

inductive IndicationMessage
  | nothing
  | format1 (f : MessageFormat1)
  | format2 (dappE3Subscriptions : DappE3SubscriptionList)

structure ControlHeaderFormat1 where
  ranFunctionId : UInt64
  dappId : UInt64
  timestamp : Option Int64
  sequenceId : Option Int64

inductive ControlHeader
  | nothing
  | format1 (f : ControlHeaderFormat1)

inductive ControlMessage
  | nothing
  | format1 (f : MessageFormat1)

structure ControlOutcomeFormat1 where
  timestamp : Option Int64
  sequenceId : Option Int64
  e3ControlOutcome : Option Bytes

inductive ControlOutcome
  | nothing
  | format1 (f : ControlOutcomeFormat1)

end Asn

/-! ## Value checks -/

def kUint32Max : UInt64 := 0xFFFFFFFF
def kMaxPayload : ℕ := 32768
def kMaxSubs : ℕ := 256
def kMaxRfPerSub : ℕ := 64
def kMaxReportSty : ℕ := 2
def kMaxCtrlSty : ℕ := 1
def kNameMax : ℕ := 150
def kOidMax : ℕ := 1000
def int32Max : ℕ := 2147483647

def inU32 (v : UInt64) : Bool := decide (v ≤ kUint32Max)

/-- The cast of an `int64_t` to `long`. -/
def toLong (v : Int64) : Int64 := v

def fitsLong (v : Int64) : Bool := toLong v == v

def isPrintableChar (c : UInt8) : Bool :=
  (0x41 ≤ c && c ≤ 0x5A) || (0x61 ≤ c && c ≤ 0x7A) || (0x30 ≤ c && c ≤ 0x39)
    || c == 0x20 || c == 0x27 || c == 0x28 || c == 0x29 || c == 0x2B || c == 0x2C || c == 0x2D
    || c == 0x2E || c == 0x2F || c == 0x3A || c == 0x3D || c == 0x3F

def validPrintable (s : Bytes) (lo hi : ℕ) : Bool :=
  if s.length < lo ∨ s.length > hi then false else s.all isPrintableChar

/-! ## Builders -/

def setOctets (data : Bytes) : Option Bytes :=
  if data.length > int32Max then none else some data

def setPrintable (s : Bytes) (lo hi : ℕ) : Option Bytes :=
  if validPrintable s lo hi = false then none else setOctets s

def setOptLong (present : Bool) (v : Int64) : Option (Option Int64) :=
  if present = false then some none
  else if fitsLong v = false then none else some (some (toLong v))

def setU32 (v : UInt64) : Option UInt64 := if inU32 v then some v else none

def setLong (v : Int64) : Option Int64 := if fitsLong v then some (toLong v) else none

/-- One turn of the loop of `build_subs`. -/
def buildSub (s : DappE3SubscriptionItem) : Option Asn.DappE3SubscriptionItem :=
  if s.subscribedE3RanFunctions.length < 1 ∨ s.subscribedE3RanFunctions.length > kMaxRfPerSub then
    none
  else do
    let dappId ← setU32 s.dappId
    let functions ← s.subscribedE3RanFunctions.mapM setU32
    some ⟨dappId, functions⟩

def buildSubs (src : List DappE3SubscriptionItem) : Option Asn.DappE3SubscriptionList :=
  if src.length > kMaxSubs then none else src.mapM buildSub

def buildOptSubs (present : Bool) (src : List DappE3SubscriptionItem) :
    Option (Option Asn.DappE3SubscriptionList) :=
  if present = false then some none else (buildSubs src).map some

def RanFunctionName.build (s : RanFunctionName) : Option Asn.RanFunctionName := do
  let shortName ← setPrintable s.ranFunctionShortName 1 kNameMax
  let oid ← setPrintable s.ranFunctionE2smOId 1 kOidMax
  let description ← setPrintable s.ranFunctionDescription 1 kNameMax
  let inst ← setOptLong s.ranFunctionInstancePresent s.ranFunctionInstance
  some ⟨shortName, oid, description, inst⟩

def ReportItem.build (s : ReportItem) : Option Asn.ReportItem := do
  let styleType ← setLong s.ricReportStyleType
  let name ← setPrintable s.ricReportStyleName 1 kNameMax
  let header ← setLong s.ricIndHdrFormatType
  let message ← setLong s.ricIndMsgFormatType
  let subs ← buildOptSubs s.dappE3SubscriptionsPresent s.dappE3Subscriptions
  some ⟨styleType, name, header, message, subs⟩

def CtrlItem.build (s : CtrlItem) : Option Asn.ControlItem := do
  let styleType ← setLong s.ricCtrlStyleType
  let name ← setPrintable s.ricCtrlStyleName 1 kNameMax
  let header ← setLong s.ricCtrlHdrFormatType
  let message ← setLong s.ricCtrlMsgFormatType
  let outcome ← setLong s.ricCtrlOutcomeFormatType
  let subs ← buildOptSubs s.dappE3SubscriptionsPresent s.dappE3Subscriptions
  some ⟨styleType, name, header, message, outcome, subs⟩

def Report.build (s : Report) : Option (List Asn.ReportItem) :=
  if s.ricReportStyleList.length < 1 ∨ s.ricReportStyleList.length > kMaxReportSty then none
  else s.ricReportStyleList.mapM ReportItem.build

def Ctrl.build (s : Ctrl) : Option (List Asn.ControlItem) :=
  if s.ricCtrlStyleList.length < 1 ∨ s.ricCtrlStyleList.length > kMaxCtrlSty then none
  else s.ricCtrlStyleList.mapM CtrlItem.build

/-- A section of the definition that is built when it is present. -/
def buildWhen {α β : Type} (present : Bool) (build : α → Option β) (s : α) : Option (Option β) :=
  if present then (build s).map some else some none

def RanFunctionDefinition.build (s : RanFunctionDefinition) : Option Asn.RanFunctionDefinition := do
  let name ← s.ranFunctionName.build
  let trigger := if s.ranFunctionDefinitionEventTriggerPresent then some () else none
  let report ← buildWhen s.ranFunctionDefinitionReportPresent Report.build
    s.ranFunctionDefinitionReport
  let ctrl ← buildWhen s.ranFunctionDefinitionCtrlPresent Ctrl.build s.ranFunctionDefinitionCtrl
  some ⟨name, trigger, report, ctrl⟩

def IndHdrFormat1.build (s : IndHdrFormat1) : Option Asn.IndicationHeaderFormat1 := do
  let ranFunctionId ← setU32 s.ranFunctionId
  let dappId ← setU32 s.dappId
  let nodeNbId ← setU32 s.nodeNbId
  let nodePlmnId ← setOctets s.nodePlmnId.toList
  let nodeCuDuId ← buildWhen s.nodeCuDuIdPresent setU32 s.nodeCuDuId
  let timestamp ← setOptLong s.timestampPresent s.timestamp
  let sequenceId ← setOptLong s.sequenceIdPresent s.sequenceId
  some ⟨ranFunctionId, dappId, Int64.ofNat s.nodeType.toNat, nodePlmnId, nodeNbId, nodeCuDuId,
    timestamp, sequenceId⟩

def IndHdrFormat2.build (s : IndHdrFormat2) : Option Asn.IndicationHeaderFormat2 := do
  let nodeNbId ← setU32 s.nodeNbId
  let nodePlmnId ← setOctets s.nodePlmnId.toList
  let nodeCuDuId ← buildWhen s.nodeCuDuIdPresent setU32 s.nodeCuDuId
  let timestamp ← setOptLong s.timestampPresent s.timestamp
  let sequenceId ← setOptLong s.sequenceIdPresent s.sequenceId
  some ⟨Int64.ofNat s.nodeType.toNat, nodePlmnId, nodeNbId, nodeCuDuId, timestamp, sequenceId⟩

def buildData (dataSize : UInt16) (data : Bytes) : Option Asn.MessageFormat1 :=
  if dataSize.toNat > kMaxPayload ∨ data = [] ∨ data.length > kMaxPayload then none
  else (setOctets data).map fun octets => ⟨Int64.ofNat dataSize.toNat, octets⟩

def CtrlHdrFormat1.build (s : CtrlHdrFormat1) : Option Asn.ControlHeaderFormat1 := do
  let ranFunctionId ← setU32 s.ranFunctionId
  let dappId ← setU32 s.dappId
  let timestamp ← setOptLong s.timestampPresent s.timestamp
  let sequenceId ← setOptLong s.sequenceIdPresent s.sequenceId
  some ⟨ranFunctionId, dappId, timestamp, sequenceId⟩

def CtrlOutcomeFormat1.build (s : CtrlOutcomeFormat1) : Option Asn.ControlOutcomeFormat1 := do
  let timestamp ← setOptLong s.timestampPresent s.timestamp
  let sequenceId ← setOptLong s.sequenceIdPresent s.sequenceId
  let outcome ← buildWhen s.e3CtrlOutcomePresent setOctets s.e3CtrlOutcome
  some ⟨timestamp, sequenceId, outcome⟩

/-! ## Converters -/

def getU32 (v : UInt64) : Option UInt64 := if v > kUint32Max then none else some v

def getPrintable (s : Bytes) (lo hi : ℕ) : Option Bytes :=
  if validPrintable s lo hi = false then none else some s

/-- One turn of the loop of `get_subs`. -/
def getSub (item : Asn.DappE3SubscriptionItem) : Option DappE3SubscriptionItem := do
  let dappId ← getU32 item.dappId
  let count := item.subscribedE3RanFunctions.length
  if count < 1 ∨ count > kMaxRfPerSub then none
  else do
    let functions ← item.subscribedE3RanFunctions.mapM getU32
    some { dappId := dappId, subscribedE3RanFunctions := functions }

def getSubs (src : Asn.DappE3SubscriptionList) : Option (List DappE3SubscriptionItem) :=
  if src.length > kMaxSubs then none else src.mapM getSub

/-- A field that is optional: whether it is present, and its value, or the default. -/
def getOpt {α β : Type} (get : α → Option β) (absent : β) : Option α → Option (Bool × β)
  | none => some (false, absent)
  | some a => (get a).map fun b => (true, b)

def getOptSubs (src : Option Asn.DappE3SubscriptionList) :
    Option (Bool × List DappE3SubscriptionItem) := getOpt getSubs [] src

def getNodeType (v : Int64) : Option UInt8 :=
  if v < 0 ∨ v > 255 then none else some (UInt8.ofNat v.toInt.toNat)

def getPlmn : Bytes → Option Octets3
  | [a, b, c] => some ⟨a, b, c⟩
  | _ => none

def getOptU32 (src : Option UInt64) : Option (Bool × UInt64) := getOpt getU32 0 src

def getOptLong : Option Int64 → Bool × Int64
  | none => (false, 0)
  | some v => (true, v)

def getData (dataSize : Int64) (data : Bytes) : Option MsgFormat1 :=
  if dataSize < 0 ∨ dataSize.toInt.toNat > kMaxPayload ∨ data.length < 1
      ∨ data.length > kMaxPayload then none
  else some { dataSize := UInt16.ofNat dataSize.toInt.toNat, data := data }

def RanFunctionName.fromAsn (s : Asn.RanFunctionName) : Option RanFunctionName := do
  let a ← getPrintable s.ranFunctionShortName 1 kNameMax
  let b ← getPrintable s.ranFunctionE2smOid 1 kOidMax
  let c ← getPrintable s.ranFunctionDescription 1 kNameMax
  let inst := getOptLong s.ranFunctionInstance
  some
    { ranFunctionShortName := a
      ranFunctionE2smOId := b
      ranFunctionDescription := c
      ranFunctionInstancePresent := inst.1
      ranFunctionInstance := inst.2 }

def ReportItem.fromAsn (s : Asn.ReportItem) : Option ReportItem := do
  let name ← getPrintable s.ricReportStyleName 1 kNameMax
  let subs ← getOptSubs s.dappE3Subscriptions
  some
    { ricReportStyleType := s.ricReportStyleType
      ricReportStyleName := name
      ricIndHdrFormatType := s.ricIndicationHeaderFormatType
      ricIndMsgFormatType := s.ricIndicationMessageFormatType
      dappE3SubscriptionsPresent := subs.1
      dappE3Subscriptions := subs.2 }

def CtrlItem.fromAsn (s : Asn.ControlItem) : Option CtrlItem := do
  let name ← getPrintable s.ricControlStyleName 1 kNameMax
  let subs ← getOptSubs s.dappE3Subscriptions
  some
    { ricCtrlStyleType := s.ricControlStyleType
      ricCtrlStyleName := name
      ricCtrlHdrFormatType := s.ricControlHeaderFormatType
      ricCtrlMsgFormatType := s.ricControlMessageFormatType
      ricCtrlOutcomeFormatType := s.ricControlOutcomeFormatType
      dappE3SubscriptionsPresent := subs.1
      dappE3Subscriptions := subs.2 }

/-- The report section of a definition. -/
def getReport (l : List Asn.ReportItem) : Option Report :=
  if l.length < 1 ∨ l.length > kMaxReportSty then none
  else (l.mapM ReportItem.fromAsn).map fun items => { ricReportStyleList := items }

/-- The control section of a definition. -/
def getCtrl (l : List Asn.ControlItem) : Option Ctrl :=
  if l.length < 1 ∨ l.length > kMaxCtrlSty then none
  else (l.mapM CtrlItem.fromAsn).map fun items => { ricCtrlStyleList := items }

def RanFunctionDefinition.fromAsn (s : Asn.RanFunctionDefinition) :
    Option RanFunctionDefinition := do
  let name ← RanFunctionName.fromAsn s.ranFunctionName
  let report ← getOpt getReport {} s.ranFunctionDefinitionReport
  let ctrl ← getOpt getCtrl {} s.ranFunctionDefinitionControl
  some
    { ranFunctionName := name
      ranFunctionDefinitionEventTriggerPresent := s.ranFunctionDefinitionEventTrigger.isSome
      ranFunctionDefinitionReportPresent := report.1
      ranFunctionDefinitionReport := report.2
      ranFunctionDefinitionCtrlPresent := ctrl.1
      ranFunctionDefinitionCtrl := ctrl.2 }

def IndHdrFormat1.fromAsn (s : Asn.IndicationHeaderFormat1) : Option IndHdrFormat1 := do
  let ranFunctionId ← getU32 s.ranFunctionId
  let dappId ← getU32 s.dappId
  let nodeType ← getNodeType s.nodeType
  let nodePlmnId ← getPlmn s.nodePlmnId
  let nodeNbId ← getU32 s.nodeNbId
  let nodeCuDuId ← getOptU32 s.nodeCuDuId
  let timestamp := getOptLong s.timestamp
  let sequenceId := getOptLong s.sequenceId
  some
    { ranFunctionId := ranFunctionId
      dappId := dappId
      nodeType := nodeType
      nodePlmnId := nodePlmnId
      nodeNbId := nodeNbId
      nodeCuDuIdPresent := nodeCuDuId.1
      nodeCuDuId := nodeCuDuId.2
      timestampPresent := timestamp.1
      timestamp := timestamp.2
      sequenceIdPresent := sequenceId.1
      sequenceId := sequenceId.2 }

def IndHdrFormat2.fromAsn (s : Asn.IndicationHeaderFormat2) : Option IndHdrFormat2 := do
  let nodeType ← getNodeType s.nodeType
  let nodePlmnId ← getPlmn s.nodePlmnId
  let nodeNbId ← getU32 s.nodeNbId
  let nodeCuDuId ← getOptU32 s.nodeCuDuId
  let timestamp := getOptLong s.timestamp
  let sequenceId := getOptLong s.sequenceId
  some
    { nodeType := nodeType
      nodePlmnId := nodePlmnId
      nodeNbId := nodeNbId
      nodeCuDuIdPresent := nodeCuDuId.1
      nodeCuDuId := nodeCuDuId.2
      timestampPresent := timestamp.1
      timestamp := timestamp.2
      sequenceIdPresent := sequenceId.1
      sequenceId := sequenceId.2 }

def CtrlHdrFormat1.fromAsn (s : Asn.ControlHeaderFormat1) : Option CtrlHdrFormat1 := do
  let ranFunctionId ← getU32 s.ranFunctionId
  let dappId ← getU32 s.dappId
  let timestamp := getOptLong s.timestamp
  let sequenceId := getOptLong s.sequenceId
  some
    { ranFunctionId := ranFunctionId
      dappId := dappId
      timestampPresent := timestamp.1
      timestamp := timestamp.2
      sequenceIdPresent := sequenceId.1
      sequenceId := sequenceId.2 }

def CtrlOutcomeFormat1.fromAsn (s : Asn.ControlOutcomeFormat1) : Option CtrlOutcomeFormat1 :=
  let timestamp := getOptLong s.timestamp
  let sequenceId := getOptLong s.sequenceId
  some
    { timestampPresent := timestamp.1
      timestamp := timestamp.2
      sequenceIdPresent := sequenceId.1
      sequenceId := sequenceId.2
      e3CtrlOutcomePresent := s.e3ControlOutcome.isSome
      e3CtrlOutcome := s.e3ControlOutcome.getD [] }

/-! ## Bytes -/

/-- What asn1c generates for a type: the check of its constraints, the encoder with the number it
returns and the bytes it gives to the callback, and the decoder, which may fail. -/
structure AperType (T : Type) where
  checkConstraints : T → Bool
  encode : T → ℤ × Bytes
  decode : Bytes → Option T

def encodePdu {T : Type} (td : AperType T) (pdu : T) : AsnCode × Bytes :=
  if td.checkConstraints pdu = false then (.encodeFail, [])
  else
    let (encoded, out) := td.encode pdu
    if encoded < 0 ∨ (out.length : ℤ) ≠ encoded ∨ out = [] then (.encodeFail, [])
    else (.success, out)

/-- The body of each `pack`; `out` is cleared first, whatever it holds. -/
def packPdu {T : Type} (td : AperType T) (_out : Bytes) (fill : Option T) : AsnCode × Bytes :=
  match fill with
  | none => (.encodeFail, [])
  | some pdu => encodePdu td pdu

/-- The body of each `unpack`, with `none` for a null pointer. -/
def unpackPdu {T α : Type} (td : AperType T) (data : Option Bytes) (self : α)
    (convert : T → Option α) : AsnCode × α :=
  match data with
  | none => (.decodeFail, self)
  | some [] => (.decodeFail, self)
  | some bytes =>
    match td.decode bytes with
    | none => (.decodeFail, self)
    | some pdu =>
      match convert pdu with
      | none => (.decodeFail, self)
      | some tmp => (.success, tmp)

/-! ## Top-level types -/

namespace EventTrigger

def fill (_ : EventTrigger) : Option Asn.EventTrigger := some .format1

def convert : Asn.EventTrigger → Option EventTrigger
  | .format1 => some {}
  | .nothing => none

def pack (td : AperType Asn.EventTrigger) (v : EventTrigger) (out : Bytes) : AsnCode × Bytes :=
  packPdu td out v.fill

def unpack (td : AperType Asn.EventTrigger) (self : EventTrigger) (data : Option Bytes) :
    AsnCode × EventTrigger := unpackPdu td data self convert

end EventTrigger

namespace ActionDefinition

def fill (v : ActionDefinition) : Option Asn.ActionDefinition := do
  let styleType ← setLong v.ricStyleType
  some ⟨styleType, .format1⟩

def convert (s : Asn.ActionDefinition) : Option ActionDefinition :=
  match s.actionDefinitionFormats with
  | .nothing => none
  | .format1 => some { ricStyleType := s.ricStyleType }

def pack (td : AperType Asn.ActionDefinition) (v : ActionDefinition) (out : Bytes) :
    AsnCode × Bytes := packPdu td out v.fill

def unpack (td : AperType Asn.ActionDefinition) (self : ActionDefinition) (data : Option Bytes) :
    AsnCode × ActionDefinition := unpackPdu td data self convert

end ActionDefinition

namespace IndHdr

def fill (v : IndHdr) : Option Asn.IndicationHeader :=
  match v.ricIndHdrFormats with
  | .format1 f => f.build.map .format1
  | .format2 f => f.build.map .format2
  | .null => none

def convert : Asn.IndicationHeader → Option IndHdr
  | .format1 f => (IndHdrFormat1.fromAsn f).map fun c => { ricIndHdrFormats := .format1 c }
  | .format2 f => (IndHdrFormat2.fromAsn f).map fun c => { ricIndHdrFormats := .format2 c }
  | .nothing => none

def pack (td : AperType Asn.IndicationHeader) (v : IndHdr) (out : Bytes) : AsnCode × Bytes :=
  packPdu td out v.fill

def unpack (td : AperType Asn.IndicationHeader) (self : IndHdr) (data : Option Bytes) :
    AsnCode × IndHdr := unpackPdu td data self convert

end IndHdr

namespace IndMsg

def fill (v : IndMsg) : Option Asn.IndicationMessage :=
  match v.ricIndMsgFormats with
  | .format1 f => (buildData f.dataSize f.data).map .format1
  | .format2 f => (buildSubs f.dappE3Subscriptions).map .format2
  | .null => none

def convert : Asn.IndicationMessage → Option IndMsg
  | .format1 f => (getData f.dataSize f.data).map fun c => { ricIndMsgFormats := .format1 c }
  | .format2 subs => (getSubs subs).map fun l =>
    { ricIndMsgFormats := .format2 { dappE3Subscriptions := l } }
  | .nothing => none

def pack (td : AperType Asn.IndicationMessage) (v : IndMsg) (out : Bytes) : AsnCode × Bytes :=
  packPdu td out v.fill

def unpack (td : AperType Asn.IndicationMessage) (self : IndMsg) (data : Option Bytes) :
    AsnCode × IndMsg := unpackPdu td data self convert

end IndMsg

namespace CtrlHdr

def fill (v : CtrlHdr) : Option Asn.ControlHeader := v.ricCtrlHdrFormats.build.map .format1

def convert : Asn.ControlHeader → Option CtrlHdr
  | .format1 f => (CtrlHdrFormat1.fromAsn f).map fun c => { ricCtrlHdrFormats := c }
  | .nothing => none

def pack (td : AperType Asn.ControlHeader) (v : CtrlHdr) (out : Bytes) : AsnCode × Bytes :=
  packPdu td out v.fill

def unpack (td : AperType Asn.ControlHeader) (self : CtrlHdr) (data : Option Bytes) :
    AsnCode × CtrlHdr := unpackPdu td data self convert

end CtrlHdr

namespace CtrlMsg

def fill (v : CtrlMsg) : Option Asn.ControlMessage :=
  (buildData v.ricCtrlMsgFormats.dataSize v.ricCtrlMsgFormats.data).map .format1

def convert : Asn.ControlMessage → Option CtrlMsg
  | .format1 f => (getData f.dataSize f.data).map fun c => { ricCtrlMsgFormats := c }
  | .nothing => none

def pack (td : AperType Asn.ControlMessage) (v : CtrlMsg) (out : Bytes) : AsnCode × Bytes :=
  packPdu td out v.fill

def unpack (td : AperType Asn.ControlMessage) (self : CtrlMsg) (data : Option Bytes) :
    AsnCode × CtrlMsg := unpackPdu td data self convert

end CtrlMsg

namespace CtrlOutcome

def fill (v : CtrlOutcome) : Option Asn.ControlOutcome :=
  v.ricCtrlOutcomeFormats.build.map .format1

def convert : Asn.ControlOutcome → Option CtrlOutcome
  | .format1 f => (CtrlOutcomeFormat1.fromAsn f).map fun c => { ricCtrlOutcomeFormats := c }
  | .nothing => none

def pack (td : AperType Asn.ControlOutcome) (v : CtrlOutcome) (out : Bytes) : AsnCode × Bytes :=
  packPdu td out v.fill

def unpack (td : AperType Asn.ControlOutcome) (self : CtrlOutcome) (data : Option Bytes) :
    AsnCode × CtrlOutcome := unpackPdu td data self convert

end CtrlOutcome

namespace RanFunctionDefinition

def pack (td : AperType Asn.RanFunctionDefinition) (v : RanFunctionDefinition) (out : Bytes) :
    AsnCode × Bytes := packPdu td out v.build

def unpack (td : AperType Asn.RanFunctionDefinition) (self : RanFunctionDefinition)
    (data : Option Bytes) : AsnCode × RanFunctionDefinition := unpackPdu td data self fromAsn

end RanFunctionDefinition

end LibE3.E2smDapp
