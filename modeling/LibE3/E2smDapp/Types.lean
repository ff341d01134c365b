import LibE3.Types

/-!
# E2SM-DAPP types

The structures of `e2sm_dapp.hpp`, each with its `operator==`: the value of a field that is absent is
not compared, and `ext` never is. A `printable_string` and an octet string are lists of bytes. A
CHOICE of several formats is an inductive type, with `null` for `nulltype`; a CHOICE of one format
is that format.
-/

namespace LibE3.E2smDapp

inductive AsnCode
  | encodeFail | decodeFail | success
  deriving DecidableEq, Repr

/-- `fixed_octstring<3>`. -/
structure Octets3 where
  first : UInt8 := 0
  second : UInt8 := 0
  third : UInt8 := 0
  deriving DecidableEq, Repr

def Octets3.toList (o : Octets3) : Bytes := [o.first, o.second, o.third]

/-! ## Information elements -/

structure RanFunctionName where
  ext : Bool := false
  ranFunctionInstancePresent : Bool := false
  ranFunctionShortName : Bytes := []
  ranFunctionE2smOId : Bytes := []
  ranFunctionDescription : Bytes := []
  ranFunctionInstance : Int64 := 0
  deriving Repr

instance : BEq RanFunctionName where
  beq s o := s.ranFunctionInstancePresent == o.ranFunctionInstancePresent
    && s.ranFunctionShortName == o.ranFunctionShortName
    && s.ranFunctionE2smOId == o.ranFunctionE2smOId
    && s.ranFunctionDescription == o.ranFunctionDescription
    && (!s.ranFunctionInstancePresent || s.ranFunctionInstance == o.ranFunctionInstance)

structure DappE3SubscriptionItem where
  ext : Bool := false
  dappId : UInt64 := 0
  subscribedE3RanFunctions : List UInt64 := []
  deriving Repr

instance : BEq DappE3SubscriptionItem where
  beq s o := s.dappId == o.dappId && s.subscribedE3RanFunctions == o.subscribedE3RanFunctions

structure ReportItem where
  ext : Bool := false
  dappE3SubscriptionsPresent : Bool := false
  ricReportStyleType : Int64 := 0
  ricReportStyleName : Bytes := []
  ricIndHdrFormatType : Int64 := 0
  ricIndMsgFormatType : Int64 := 0
  dappE3Subscriptions : List DappE3SubscriptionItem := []
  deriving Repr

instance : BEq ReportItem where
  beq s o := s.dappE3SubscriptionsPresent == o.dappE3SubscriptionsPresent
    && s.ricReportStyleType == o.ricReportStyleType
    && s.ricReportStyleName == o.ricReportStyleName
    && s.ricIndHdrFormatType == o.ricIndHdrFormatType
    && s.ricIndMsgFormatType == o.ricIndMsgFormatType
    && (!s.dappE3SubscriptionsPresent || s.dappE3Subscriptions == o.dappE3Subscriptions)

structure CtrlItem where
  ext : Bool := false
  dappE3SubscriptionsPresent : Bool := false
  ricCtrlStyleType : Int64 := 0
  ricCtrlStyleName : Bytes := []
  ricCtrlHdrFormatType : Int64 := 0
  ricCtrlMsgFormatType : Int64 := 0
  ricCtrlOutcomeFormatType : Int64 := 0
  dappE3Subscriptions : List DappE3SubscriptionItem := []
  deriving Repr

instance : BEq CtrlItem where
  beq s o := s.dappE3SubscriptionsPresent == o.dappE3SubscriptionsPresent
    && s.ricCtrlStyleType == o.ricCtrlStyleType
    && s.ricCtrlStyleName == o.ricCtrlStyleName
    && s.ricCtrlHdrFormatType == o.ricCtrlHdrFormatType
    && s.ricCtrlMsgFormatType == o.ricCtrlMsgFormatType
    && s.ricCtrlOutcomeFormatType == o.ricCtrlOutcomeFormatType
    && (!s.dappE3SubscriptionsPresent || s.dappE3Subscriptions == o.dappE3Subscriptions)

structure DefinitionEventTrigger where
  ext : Bool := false
  deriving Repr

structure Report where
  ext : Bool := false
  ricReportStyleList : List ReportItem := []
  deriving Repr

instance : BEq Report where
  beq s o := s.ricReportStyleList == o.ricReportStyleList

structure Ctrl where
  ext : Bool := false
  ricCtrlStyleList : List CtrlItem := []
  deriving Repr

instance : BEq Ctrl where
  beq s o := s.ricCtrlStyleList == o.ricCtrlStyleList

/-! ## Formats -/

structure IndHdrFormat1 where
  ext : Bool := false
  nodeCuDuIdPresent : Bool := false
  timestampPresent : Bool := false
  sequenceIdPresent : Bool := false
  ranFunctionId : UInt64 := 0
  dappId : UInt64 := 0
  nodeType : UInt8 := 0
  nodePlmnId : Octets3 := {}
  nodeNbId : UInt64 := 0
  nodeCuDuId : UInt64 := 0
  timestamp : Int64 := 0
  sequenceId : Int64 := 0
  deriving Repr

instance : BEq IndHdrFormat1 where
  beq s o := s.nodeCuDuIdPresent == o.nodeCuDuIdPresent
    && s.timestampPresent == o.timestampPresent
    && s.sequenceIdPresent == o.sequenceIdPresent
    && s.ranFunctionId == o.ranFunctionId
    && s.dappId == o.dappId
    && s.nodeType == o.nodeType
    && s.nodePlmnId == o.nodePlmnId
    && s.nodeNbId == o.nodeNbId
    && (!s.nodeCuDuIdPresent || s.nodeCuDuId == o.nodeCuDuId)
    && (!s.timestampPresent || s.timestamp == o.timestamp)
    && (!s.sequenceIdPresent || s.sequenceId == o.sequenceId)

structure IndHdrFormat2 where
  ext : Bool := false
  nodeCuDuIdPresent : Bool := false
  timestampPresent : Bool := false
  sequenceIdPresent : Bool := false
  nodeType : UInt8 := 0
  nodePlmnId : Octets3 := {}
  nodeNbId : UInt64 := 0
  nodeCuDuId : UInt64 := 0
  timestamp : Int64 := 0
  sequenceId : Int64 := 0
  deriving Repr

instance : BEq IndHdrFormat2 where
  beq s o := s.nodeCuDuIdPresent == o.nodeCuDuIdPresent
    && s.timestampPresent == o.timestampPresent
    && s.sequenceIdPresent == o.sequenceIdPresent
    && s.nodeType == o.nodeType
    && s.nodePlmnId == o.nodePlmnId
    && s.nodeNbId == o.nodeNbId
    && (!s.nodeCuDuIdPresent || s.nodeCuDuId == o.nodeCuDuId)
    && (!s.timestampPresent || s.timestamp == o.timestamp)
    && (!s.sequenceIdPresent || s.sequenceId == o.sequenceId)

inductive IndHdrFormats
  | null
  | format1 (f : IndHdrFormat1)
  | format2 (f : IndHdrFormat2)
  deriving Repr

instance : BEq IndHdrFormats where
  beq
    | .null, .null => true
    | .format1 f, .format1 g => f == g
    | .format2 f, .format2 g => f == g
    | _, _ => false

/-- `e2sm_dapp_ind_msg_format1_s` and `e2sm_dapp_ctrl_msg_format1_s`, which have the same fields. -/
structure MsgFormat1 where
  ext : Bool := false
  dataSize : UInt16 := 0
  data : Bytes := []
  deriving Repr

instance : BEq MsgFormat1 where
  beq s o := s.dataSize == o.dataSize && s.data == o.data

structure IndMsgFormat2 where
  ext : Bool := false
  dappE3Subscriptions : List DappE3SubscriptionItem := []
  deriving Repr

instance : BEq IndMsgFormat2 where
  beq s o := s.dappE3Subscriptions == o.dappE3Subscriptions

inductive IndMsgFormats
  | null
  | format1 (f : MsgFormat1)
  | format2 (f : IndMsgFormat2)
  deriving Repr

instance : BEq IndMsgFormats where
  beq
    | .null, .null => true
    | .format1 f, .format1 g => f == g
    | .format2 f, .format2 g => f == g
    | _, _ => false

structure CtrlHdrFormat1 where
  ext : Bool := false
  timestampPresent : Bool := false
  sequenceIdPresent : Bool := false
  ranFunctionId : UInt64 := 0
  dappId : UInt64 := 0
  timestamp : Int64 := 0
  sequenceId : Int64 := 0
  deriving Repr

instance : BEq CtrlHdrFormat1 where
  beq s o := s.timestampPresent == o.timestampPresent
    && s.sequenceIdPresent == o.sequenceIdPresent
    && s.ranFunctionId == o.ranFunctionId
    && s.dappId == o.dappId
    && (!s.timestampPresent || s.timestamp == o.timestamp)
    && (!s.sequenceIdPresent || s.sequenceId == o.sequenceId)

structure CtrlOutcomeFormat1 where
  ext : Bool := false
  timestampPresent : Bool := false
  sequenceIdPresent : Bool := false
  e3CtrlOutcomePresent : Bool := false
  timestamp : Int64 := 0
  sequenceId : Int64 := 0
  e3CtrlOutcome : Bytes := []
  deriving Repr

instance : BEq CtrlOutcomeFormat1 where
  beq s o := s.timestampPresent == o.timestampPresent
    && s.sequenceIdPresent == o.sequenceIdPresent
    && s.e3CtrlOutcomePresent == o.e3CtrlOutcomePresent
    && (!s.timestampPresent || s.timestamp == o.timestamp)
    && (!s.sequenceIdPresent || s.sequenceId == o.sequenceId)
    && (!s.e3CtrlOutcomePresent || s.e3CtrlOutcome == o.e3CtrlOutcome)

/-! ## Top-level types -/

structure EventTrigger where
  ext : Bool := false
  deriving Repr

instance : BEq EventTrigger where
  beq _ _ := true

structure ActionDefinition where
  ext : Bool := false
  ricStyleType : Int64 := 0
  deriving Repr

instance : BEq ActionDefinition where
  beq s o := s.ricStyleType == o.ricStyleType

structure IndHdr where
  ext : Bool := false
  ricIndHdrFormats : IndHdrFormats := .null
  deriving Repr

instance : BEq IndHdr where
  beq s o := s.ricIndHdrFormats == o.ricIndHdrFormats

structure IndMsg where
  ext : Bool := false
  ricIndMsgFormats : IndMsgFormats := .null
  deriving Repr

instance : BEq IndMsg where
  beq s o := s.ricIndMsgFormats == o.ricIndMsgFormats

structure CtrlHdr where
  ext : Bool := false
  ricCtrlHdrFormats : CtrlHdrFormat1 := {}
  deriving Repr

instance : BEq CtrlHdr where
  beq s o := s.ricCtrlHdrFormats == o.ricCtrlHdrFormats

structure CtrlMsg where
  ext : Bool := false
  ricCtrlMsgFormats : MsgFormat1 := {}
  deriving Repr

instance : BEq CtrlMsg where
  beq s o := s.ricCtrlMsgFormats == o.ricCtrlMsgFormats

structure CtrlOutcome where
  ext : Bool := false
  ricCtrlOutcomeFormats : CtrlOutcomeFormat1 := {}
  deriving Repr

instance : BEq CtrlOutcome where
  beq s o := s.ricCtrlOutcomeFormats == o.ricCtrlOutcomeFormats

structure RanFunctionDefinition where
  ext : Bool := false
  ranFunctionDefinitionEventTriggerPresent : Bool := false
  ranFunctionDefinitionReportPresent : Bool := false
  ranFunctionDefinitionCtrlPresent : Bool := false
  ranFunctionName : RanFunctionName := {}
  ranFunctionDefinitionEventTrigger : DefinitionEventTrigger := {}
  ranFunctionDefinitionReport : Report := {}
  ranFunctionDefinitionCtrl : Ctrl := {}
  deriving Repr

instance : BEq RanFunctionDefinition where
  beq s o :=
    s.ranFunctionDefinitionEventTriggerPresent == o.ranFunctionDefinitionEventTriggerPresent
    && s.ranFunctionDefinitionReportPresent == o.ranFunctionDefinitionReportPresent
    && s.ranFunctionDefinitionCtrlPresent == o.ranFunctionDefinitionCtrlPresent
    && s.ranFunctionName == o.ranFunctionName
    && (!s.ranFunctionDefinitionReportPresent
      || s.ranFunctionDefinitionReport == o.ranFunctionDefinitionReport)
    && (!s.ranFunctionDefinitionCtrlPresent
      || s.ranFunctionDefinitionCtrl == o.ranFunctionDefinitionCtrl)

end LibE3.E2smDapp
