import LibE3.E2smDapp.Codec

/-!
# The C API of E2SM-DAPP

`e2sm_dapp_c.cpp`: each function converts between a C structure and its counterpart, packs or
unpacks, and maps the result to an error code. A pointer with its length is a `CArray`, whose memory
is `none` for a null pointer. A structure without arguments is the one that is all zero. A format is
a number, since a C enumeration may hold any. What is thrown from inside a conversion is an
`Except.error`; memory is not exhausted.
-/

namespace LibE3.E2smDapp

/-! ## C structures -/

/-- A pointer and a length. -/
structure CArray (α : Type) where
  data : Option (List α) := none
  len : ℕ := 0
  deriving DecidableEq, Repr

namespace CArray

variable {α : Type}

/-- The elements that are read through the pointer. -/
def read (a : CArray α) : List α := (a.data.getD []).take a.len

/-- `alloc_array`, with the elements copied into it. -/
def ofList (l : List α) : CArray α := if l = [] then {} else ⟨some l, l.length⟩

end CArray

namespace C

structure SubItem where
  dappId : UInt32 := 0
  ranFunctions : CArray UInt32 := {}
  deriving DecidableEq, Repr

structure EventTrigger where
  format : UInt32 := 0
  deriving DecidableEq, Repr

structure ActionDefinition where
  format : UInt32 := 0
  ricStyleType : Int64 := 0
  deriving DecidableEq, Repr

structure IndHdrFormat1 where
  ranFunctionId : UInt32 := 0
  dappId : UInt32 := 0
  nodeType : UInt8 := 0
  nodePlmnId : Octets3 := {}
  nodeNbId : UInt32 := 0
  hasNodeCuDuId : Bool := false
  nodeCuDuId : UInt32 := 0
  hasTimestamp : Bool := false
  timestamp : Int64 := 0
  hasSequenceId : Bool := false
  sequenceId : Int64 := 0
  deriving DecidableEq, Repr

structure IndHdrFormat2 where
  nodeType : UInt8 := 0
  nodePlmnId : Octets3 := {}
  nodeNbId : UInt32 := 0
  hasNodeCuDuId : Bool := false
  nodeCuDuId : UInt32 := 0
  hasTimestamp : Bool := false
  timestamp : Int64 := 0
  hasSequenceId : Bool := false
  sequenceId : Int64 := 0
  deriving DecidableEq, Repr

structure IndHdr where
  format : UInt32 := 0
  frmt1 : IndHdrFormat1 := {}
  frmt2 : IndHdrFormat2 := {}
  deriving DecidableEq, Repr

structure IndMsg where
  format : UInt32 := 0
  frmt1 : CArray UInt8 := {}
  frmt2 : CArray SubItem := {}
  deriving DecidableEq, Repr

structure CtrlHdr where
  format : UInt32 := 0
  ranFunctionId : UInt32 := 0
  dappId : UInt32 := 0
  hasTimestamp : Bool := false
  timestamp : Int64 := 0
  hasSequenceId : Bool := false
  sequenceId : Int64 := 0
  deriving DecidableEq, Repr

structure CtrlMsg where
  format : UInt32 := 0
  data : CArray UInt8 := {}
  deriving DecidableEq, Repr

structure CtrlOutcome where
  format : UInt32 := 0
  hasTimestamp : Bool := false
  timestamp : Int64 := 0
  hasSequenceId : Bool := false
  sequenceId : Int64 := 0
  hasE3ControlOutcome : Bool := false
  e3ControlOutcome : CArray UInt8 := {}
  deriving DecidableEq, Repr

structure ReportStyle where
  reportStyleType : Int64 := 0
  name : CArray UInt8 := {}
  indHdrFormatType : Int64 := 0
  indMsgFormatType : Int64 := 0
  hasDappE3Subscriptions : Bool := false
  dappE3Subscriptions : CArray SubItem := {}
  deriving DecidableEq, Repr

structure CtrlStyle where
  ctrlStyleType : Int64 := 0
  name : CArray UInt8 := {}
  ctrlHdrFormatType : Int64 := 0
  ctrlMsgFormatType : Int64 := 0
  ctrlOutcomeFormatType : Int64 := 0
  hasDappE3Subscriptions : Bool := false
  dappE3Subscriptions : CArray SubItem := {}
  deriving DecidableEq, Repr

structure RanFunctionName where
  shortName : CArray UInt8 := {}
  e2smOid : CArray UInt8 := {}
  description : CArray UInt8 := {}
  hasInstance : Bool := false
  inst : Int64 := 0
  deriving DecidableEq, Repr

structure RanFunctionDefinition where
  name : RanFunctionName := {}
  hasEventTrigger : Bool := false
  hasReport : Bool := false
  reportStyles : CArray ReportStyle := {}
  hasCtrl : Bool := false
  ctrlStyles : CArray CtrlStyle := {}
  deriving DecidableEq, Repr

end C

/-! ## From C -/

/-- An error to report from inside a conversion. -/
structure CError where
  code : ErrorCode
  isError : code ≠ .success

abbrev fail {α : Type} (code : ErrorCode) (isError : code ≠ .success := by decide) :
    Except CError α := .error ⟨code, isError⟩

namespace CArray

variable {α : Type}

def checked (a : CArray α) : Except CError (List α) :=
  if a.len ≠ 0 ∧ a.data.isNone then fail .invalidParam else .ok a.read

/-- A length that no value of the grammar has is refused before anything is read. -/
def bounded (a : CArray α) (max : ℕ) : Except CError (List α) :=
  if a.len > max then fail .encodeFailed else a.checked

end CArray

def payloadFrom (b : CArray UInt8) : Except CError Bytes := b.bounded kMaxPayload

def stringFrom (b : CArray UInt8) (max : ℕ) : Except CError Bytes := b.bounded max

/-- One turn of the loop of `subs_from`. -/
def subFrom (s : C.SubItem) : Except CError DappE3SubscriptionItem := do
  let functions ← s.ranFunctions.bounded kMaxRfPerSub
  .ok { dappId := s.dappId.toUInt64
        subscribedE3RanFunctions := functions.map UInt32.toUInt64 }

def subsFrom (s : CArray C.SubItem) : Except CError (List DappE3SubscriptionItem) := do
  let items ← s.bounded kMaxSubs
  items.mapM subFrom

/-- A subscription list that is optional. -/
def optSubsFrom (has : Bool) (s : CArray C.SubItem) :
    Except CError (List DappE3SubscriptionItem) := if has then subsFrom s else .ok []

def indHdrFormat1From (s : C.IndHdrFormat1) : IndHdrFormat1 where
  ranFunctionId := s.ranFunctionId.toUInt64
  dappId := s.dappId.toUInt64
  nodeType := s.nodeType
  nodePlmnId := s.nodePlmnId
  nodeNbId := s.nodeNbId.toUInt64
  nodeCuDuIdPresent := s.hasNodeCuDuId
  nodeCuDuId := s.nodeCuDuId.toUInt64
  timestampPresent := s.hasTimestamp
  timestamp := s.timestamp
  sequenceIdPresent := s.hasSequenceId
  sequenceId := s.sequenceId

def indHdrFormat2From (s : C.IndHdrFormat2) : IndHdrFormat2 where
  nodeType := s.nodeType
  nodePlmnId := s.nodePlmnId
  nodeNbId := s.nodeNbId.toUInt64
  nodeCuDuIdPresent := s.hasNodeCuDuId
  nodeCuDuId := s.nodeCuDuId.toUInt64
  timestampPresent := s.hasTimestamp
  timestamp := s.timestamp
  sequenceIdPresent := s.hasSequenceId
  sequenceId := s.sequenceId

def nameFrom (s : C.RanFunctionName) : Except CError RanFunctionName := do
  let shortName ← stringFrom s.shortName kNameMax
  let oid ← stringFrom s.e2smOid kOidMax
  let description ← stringFrom s.description kNameMax
  .ok
    { ranFunctionShortName := shortName
      ranFunctionE2smOId := oid
      ranFunctionDescription := description
      ranFunctionInstancePresent := s.hasInstance
      ranFunctionInstance := s.inst }

def eventTriggerFrom (s : C.EventTrigger) : Except CError EventTrigger :=
  if s.format ≠ 1 then fail .invalidParam else .ok {}

def actionDefinitionFrom (s : C.ActionDefinition) : Except CError ActionDefinition :=
  if s.format ≠ 1 then fail .invalidParam else .ok { ricStyleType := s.ricStyleType }

def indHdrFrom (s : C.IndHdr) : Except CError IndHdr :=
  if s.format = 1 then .ok { ricIndHdrFormats := .format1 (indHdrFormat1From s.frmt1) }
  else if s.format = 2 then .ok { ricIndHdrFormats := .format2 (indHdrFormat2From s.frmt2) }
  else fail .invalidParam

/-- A payload with its length as the data size. -/
def msgFormat1 (data : Bytes) : MsgFormat1 :=
  { dataSize := UInt16.ofNat data.length, data := data }

def indMsgFrom (s : C.IndMsg) : Except CError IndMsg :=
  if s.format = 1 then do
    let data ← payloadFrom s.frmt1
    .ok { ricIndMsgFormats := .format1 (msgFormat1 data) }
  else if s.format = 2 then do
    let subs ← subsFrom s.frmt2
    .ok { ricIndMsgFormats := .format2 { dappE3Subscriptions := subs } }
  else fail .invalidParam

def ctrlHdrFrom (s : C.CtrlHdr) : Except CError CtrlHdr :=
  if s.format ≠ 1 then fail .invalidParam
  else .ok
    { ricCtrlHdrFormats :=
        { ranFunctionId := s.ranFunctionId.toUInt64
          dappId := s.dappId.toUInt64
          timestampPresent := s.hasTimestamp
          timestamp := s.timestamp
          sequenceIdPresent := s.hasSequenceId
          sequenceId := s.sequenceId } }

def ctrlMsgFrom (s : C.CtrlMsg) : Except CError CtrlMsg :=
  if s.format ≠ 1 then fail .invalidParam
  else do
    let data ← payloadFrom s.data
    .ok { ricCtrlMsgFormats := msgFormat1 data }

def ctrlOutcomeFrom (s : C.CtrlOutcome) : Except CError CtrlOutcome :=
  if s.format ≠ 1 then fail .invalidParam
  else do
    let outcome ← (if s.hasE3ControlOutcome then s.e3ControlOutcome.checked else .ok [])
    .ok
      { ricCtrlOutcomeFormats :=
          { timestampPresent := s.hasTimestamp
            timestamp := s.timestamp
            sequenceIdPresent := s.hasSequenceId
            sequenceId := s.sequenceId
            e3CtrlOutcomePresent := s.hasE3ControlOutcome
            e3CtrlOutcome := outcome } }

def reportStyleFrom (s : C.ReportStyle) : Except CError ReportItem := do
  let name ← stringFrom s.name kNameMax
  let subs ← optSubsFrom s.hasDappE3Subscriptions s.dappE3Subscriptions
  .ok
    { ricReportStyleType := s.reportStyleType
      ricReportStyleName := name
      ricIndHdrFormatType := s.indHdrFormatType
      ricIndMsgFormatType := s.indMsgFormatType
      dappE3SubscriptionsPresent := s.hasDappE3Subscriptions
      dappE3Subscriptions := subs }

def ctrlStyleFrom (s : C.CtrlStyle) : Except CError CtrlItem := do
  let name ← stringFrom s.name kNameMax
  let subs ← optSubsFrom s.hasDappE3Subscriptions s.dappE3Subscriptions
  .ok
    { ricCtrlStyleType := s.ctrlStyleType
      ricCtrlStyleName := name
      ricCtrlHdrFormatType := s.ctrlHdrFormatType
      ricCtrlMsgFormatType := s.ctrlMsgFormatType
      ricCtrlOutcomeFormatType := s.ctrlOutcomeFormatType
      dappE3SubscriptionsPresent := s.hasDappE3Subscriptions
      dappE3Subscriptions := subs }

/-- The styles of a section, when it is present. -/
def stylesFrom {α β : Type} (has : Bool) (styles : CArray α) (max : ℕ)
    (convert : α → Except CError β) : Except CError (List β) :=
  if has then do
    let items ← styles.bounded max
    items.mapM convert
  else .ok []

def ranFunctionDefinitionFrom (s : C.RanFunctionDefinition) :
    Except CError RanFunctionDefinition := do
  let name ← nameFrom s.name
  let report ← stylesFrom s.hasReport s.reportStyles kMaxReportSty reportStyleFrom
  let ctrl ← stylesFrom s.hasCtrl s.ctrlStyles kMaxCtrlSty ctrlStyleFrom
  .ok
    { ranFunctionName := name
      ranFunctionDefinitionEventTriggerPresent := s.hasEventTrigger
      ranFunctionDefinitionReportPresent := s.hasReport
      ranFunctionDefinitionReport := { ricReportStyleList := report }
      ranFunctionDefinitionCtrlPresent := s.hasCtrl
      ranFunctionDefinitionCtrl := { ricCtrlStyleList := ctrl } }

/-! ## To C -/

/-- One turn of the loop of `subs_to_c`. -/
def subToC (s : DappE3SubscriptionItem) : C.SubItem where
  dappId := s.dappId.toUInt32
  ranFunctions := .ofList (s.subscribedE3RanFunctions.map UInt64.toUInt32)

def subsToC (l : List DappE3SubscriptionItem) : CArray C.SubItem := .ofList (l.map subToC)

def IndHdrFormat1.toC (s : IndHdrFormat1) : C.IndHdrFormat1 where
  ranFunctionId := s.ranFunctionId.toUInt32
  dappId := s.dappId.toUInt32
  nodeType := s.nodeType
  nodePlmnId := s.nodePlmnId
  nodeNbId := s.nodeNbId.toUInt32
  hasNodeCuDuId := s.nodeCuDuIdPresent
  nodeCuDuId := if s.nodeCuDuIdPresent then s.nodeCuDuId.toUInt32 else 0
  hasTimestamp := s.timestampPresent
  timestamp := if s.timestampPresent then s.timestamp else 0
  hasSequenceId := s.sequenceIdPresent
  sequenceId := if s.sequenceIdPresent then s.sequenceId else 0

def IndHdrFormat2.toC (s : IndHdrFormat2) : C.IndHdrFormat2 where
  nodeType := s.nodeType
  nodePlmnId := s.nodePlmnId
  nodeNbId := s.nodeNbId.toUInt32
  hasNodeCuDuId := s.nodeCuDuIdPresent
  nodeCuDuId := if s.nodeCuDuIdPresent then s.nodeCuDuId.toUInt32 else 0
  hasTimestamp := s.timestampPresent
  timestamp := if s.timestampPresent then s.timestamp else 0
  hasSequenceId := s.sequenceIdPresent
  sequenceId := if s.sequenceIdPresent then s.sequenceId else 0

def EventTrigger.toC (_ : EventTrigger) : Except CError C.EventTrigger := .ok { format := 1 }

def ActionDefinition.toC (s : ActionDefinition) : Except CError C.ActionDefinition :=
  .ok { format := 1, ricStyleType := s.ricStyleType }

/-- Without a format, `std::get` throws. -/
def IndHdr.toC (s : IndHdr) : Except CError C.IndHdr :=
  match s.ricIndHdrFormats with
  | .format1 f => .ok { format := 1, frmt1 := f.toC }
  | .format2 f => .ok { format := 2, frmt2 := f.toC }
  | .null => fail .internalError

def IndMsg.toC (s : IndMsg) : Except CError C.IndMsg :=
  match s.ricIndMsgFormats with
  | .format1 f => .ok { format := 1, frmt1 := .ofList f.data }
  | .format2 f => .ok { format := 2, frmt2 := subsToC f.dappE3Subscriptions }
  | .null => fail .internalError

def CtrlHdr.toC (s : CtrlHdr) : Except CError C.CtrlHdr :=
  let f := s.ricCtrlHdrFormats
  .ok
    { format := 1
      ranFunctionId := f.ranFunctionId.toUInt32
      dappId := f.dappId.toUInt32
      hasTimestamp := f.timestampPresent
      timestamp := if f.timestampPresent then f.timestamp else 0
      hasSequenceId := f.sequenceIdPresent
      sequenceId := if f.sequenceIdPresent then f.sequenceId else 0 }

def CtrlMsg.toC (s : CtrlMsg) : Except CError C.CtrlMsg :=
  .ok { format := 1, data := .ofList s.ricCtrlMsgFormats.data }

def CtrlOutcome.toC (s : CtrlOutcome) : Except CError C.CtrlOutcome :=
  let f := s.ricCtrlOutcomeFormats
  .ok
    { format := 1
      hasTimestamp := f.timestampPresent
      timestamp := if f.timestampPresent then f.timestamp else 0
      hasSequenceId := f.sequenceIdPresent
      sequenceId := if f.sequenceIdPresent then f.sequenceId else 0
      hasE3ControlOutcome := f.e3CtrlOutcomePresent
      e3ControlOutcome := if f.e3CtrlOutcomePresent then .ofList f.e3CtrlOutcome else {} }

def ReportItem.toC (s : ReportItem) : C.ReportStyle where
  reportStyleType := s.ricReportStyleType
  name := .ofList s.ricReportStyleName
  indHdrFormatType := s.ricIndHdrFormatType
  indMsgFormatType := s.ricIndMsgFormatType
  hasDappE3Subscriptions := s.dappE3SubscriptionsPresent
  dappE3Subscriptions := if s.dappE3SubscriptionsPresent then subsToC s.dappE3Subscriptions else {}

def CtrlItem.toC (s : CtrlItem) : C.CtrlStyle where
  ctrlStyleType := s.ricCtrlStyleType
  name := .ofList s.ricCtrlStyleName
  ctrlHdrFormatType := s.ricCtrlHdrFormatType
  ctrlMsgFormatType := s.ricCtrlMsgFormatType
  ctrlOutcomeFormatType := s.ricCtrlOutcomeFormatType
  hasDappE3Subscriptions := s.dappE3SubscriptionsPresent
  dappE3Subscriptions := if s.dappE3SubscriptionsPresent then subsToC s.dappE3Subscriptions else {}

def RanFunctionName.toC (s : RanFunctionName) : C.RanFunctionName where
  shortName := .ofList s.ranFunctionShortName
  e2smOid := .ofList s.ranFunctionE2smOId
  description := .ofList s.ranFunctionDescription
  hasInstance := s.ranFunctionInstancePresent
  inst := if s.ranFunctionInstancePresent then s.ranFunctionInstance else 0

def Report.toC (s : Report) : CArray C.ReportStyle :=
  .ofList (s.ricReportStyleList.map ReportItem.toC)

def Ctrl.toC (s : Ctrl) : CArray C.CtrlStyle := .ofList (s.ricCtrlStyleList.map CtrlItem.toC)

def RanFunctionDefinition.toC (s : RanFunctionDefinition) :
    Except CError C.RanFunctionDefinition :=
  .ok
    { name := s.ranFunctionName.toC
      hasEventTrigger := s.ranFunctionDefinitionEventTriggerPresent
      hasReport := s.ranFunctionDefinitionReportPresent
      reportStyles :=
        if s.ranFunctionDefinitionReportPresent then s.ranFunctionDefinitionReport.toC else {}
      hasCtrl := s.ranFunctionDefinitionCtrlPresent
      ctrlStyles :=
        if s.ranFunctionDefinitionCtrlPresent then s.ranFunctionDefinitionCtrl.toC else {} }

/-! ## Encoding and decoding -/

/-- The body of each `encode`, with `none` for a null pointer. -/
def encodeImpl {CIn Cpp : Type} (convert : CIn → Except CError Cpp)
    (pack : Cpp → Bytes → AsnCode × Bytes) (input : Option CIn) (out : Option (CArray UInt8)) :
    ErrorCode × Option (CArray UInt8) :=
  match input, out with
  | none, out => (.invalidParam, out)
  | some _, none => (.invalidParam, none)
  | some v, some _ =>
    match convert v with
    | .error e => (e.code, some {})
    | .ok d =>
      match pack d [] with
      | (.success, buf) => (.success, some (.ofList buf))
      | (_, _) => (.encodeFailed, some {})

/-- The body of each `decode`. The output is cleared before anything else is looked at. -/
def decodeImpl {Cpp COut : Type} (unpack : Cpp → Option Bytes → AsnCode × Cpp) (fresh : Cpp)
    (convert : Cpp → Except CError COut) (zero : COut) (buf : Option Bytes)
    (out : Option COut) : ErrorCode × Option COut :=
  match out with
  | none => (.invalidParam, none)
  | some _ =>
    match buf with
    | none => (.invalidParam, some zero)
    | some bytes =>
      match unpack fresh (some bytes) with
      | (.success, d) =>
        match convert d with
        | .error e => (e.code, some zero)
        | .ok c => (.success, some c)
      | (_, _) => (.decodeFailed, some zero)

def encodeEventTrigger (td : AperType Asn.EventTrigger) :
    Option C.EventTrigger → Option (CArray UInt8) → ErrorCode × Option (CArray UInt8) :=
  encodeImpl eventTriggerFrom (EventTrigger.pack td)

def decodeEventTrigger (td : AperType Asn.EventTrigger) :
    Option Bytes → Option C.EventTrigger → ErrorCode × Option C.EventTrigger :=
  decodeImpl (EventTrigger.unpack td) {} EventTrigger.toC {}

def encodeActionDefinition (td : AperType Asn.ActionDefinition) :
    Option C.ActionDefinition → Option (CArray UInt8) → ErrorCode × Option (CArray UInt8) :=
  encodeImpl actionDefinitionFrom (ActionDefinition.pack td)

def decodeActionDefinition (td : AperType Asn.ActionDefinition) :
    Option Bytes → Option C.ActionDefinition → ErrorCode × Option C.ActionDefinition :=
  decodeImpl (ActionDefinition.unpack td) {} ActionDefinition.toC {}

def encodeIndHdr (td : AperType Asn.IndicationHeader) :
    Option C.IndHdr → Option (CArray UInt8) → ErrorCode × Option (CArray UInt8) :=
  encodeImpl indHdrFrom (IndHdr.pack td)

def decodeIndHdr (td : AperType Asn.IndicationHeader) :
    Option Bytes → Option C.IndHdr → ErrorCode × Option C.IndHdr :=
  decodeImpl (IndHdr.unpack td) {} IndHdr.toC {}

def encodeIndMsg (td : AperType Asn.IndicationMessage) :
    Option C.IndMsg → Option (CArray UInt8) → ErrorCode × Option (CArray UInt8) :=
  encodeImpl indMsgFrom (IndMsg.pack td)

def decodeIndMsg (td : AperType Asn.IndicationMessage) :
    Option Bytes → Option C.IndMsg → ErrorCode × Option C.IndMsg :=
  decodeImpl (IndMsg.unpack td) {} IndMsg.toC {}

def encodeCtrlHdr (td : AperType Asn.ControlHeader) :
    Option C.CtrlHdr → Option (CArray UInt8) → ErrorCode × Option (CArray UInt8) :=
  encodeImpl ctrlHdrFrom (CtrlHdr.pack td)

def decodeCtrlHdr (td : AperType Asn.ControlHeader) :
    Option Bytes → Option C.CtrlHdr → ErrorCode × Option C.CtrlHdr :=
  decodeImpl (CtrlHdr.unpack td) {} CtrlHdr.toC {}

def encodeCtrlMsg (td : AperType Asn.ControlMessage) :
    Option C.CtrlMsg → Option (CArray UInt8) → ErrorCode × Option (CArray UInt8) :=
  encodeImpl ctrlMsgFrom (CtrlMsg.pack td)

def decodeCtrlMsg (td : AperType Asn.ControlMessage) :
    Option Bytes → Option C.CtrlMsg → ErrorCode × Option C.CtrlMsg :=
  decodeImpl (CtrlMsg.unpack td) {} CtrlMsg.toC {}

def encodeCtrlOutcome (td : AperType Asn.ControlOutcome) :
    Option C.CtrlOutcome → Option (CArray UInt8) → ErrorCode × Option (CArray UInt8) :=
  encodeImpl ctrlOutcomeFrom (CtrlOutcome.pack td)

def decodeCtrlOutcome (td : AperType Asn.ControlOutcome) :
    Option Bytes → Option C.CtrlOutcome → ErrorCode × Option C.CtrlOutcome :=
  decodeImpl (CtrlOutcome.unpack td) {} CtrlOutcome.toC {}

def encodeRanFunctionDefinition (td : AperType Asn.RanFunctionDefinition) :
    Option C.RanFunctionDefinition → Option (CArray UInt8) → ErrorCode × Option (CArray UInt8) :=
  encodeImpl ranFunctionDefinitionFrom (RanFunctionDefinition.pack td)

def decodeRanFunctionDefinition (td : AperType Asn.RanFunctionDefinition) :
    Option Bytes → Option C.RanFunctionDefinition → ErrorCode × Option C.RanFunctionDefinition :=
  decodeImpl (RanFunctionDefinition.unpack td) {} RanFunctionDefinition.toC {}

end LibE3.E2smDapp
