import LibE3.E2smDapp.Codec
import LibE3.Lib.Partial
import Mathlib.Algebra.Group.Int.Defs
import Mathlib.Algebra.Group.Nat.Defs

/-!
# The grammar of E2SM-DAPP

The root constraints of the grammar, as predicates on the structures that asn1c generates, and the
value of the grammar that each structure of the library stands for. A builder succeeds exactly on
what stands for one, but for an outcome that is longer than asn1c takes.
-/

namespace LibE3.E2smDapp

open Partial

/-! ## Root constraints -/

/-- `INTEGER (0..4294967295)`. -/
def IsU32 (v : UInt64) : Prop := v.toNat ≤ 4294967295

def printableAlphabet : Bytes :=
  text "ABCDEFGHIJKLMNOPQRSTUVWXYZabcdefghijklmnopqrstuvwxyz0123456789 '()+,-./:=?"

/-- `PrintableString (SIZE (lo..hi))`. -/
def IsPrintableString (lo hi : ℕ) (s : Bytes) : Prop :=
  lo ≤ s.length ∧ s.length ≤ hi ∧ ∀ c ∈ s, c ∈ printableAlphabet

/-- `SEQUENCE (SIZE (lo..hi)) OF`. -/
def IsSequenceOf {α : Type} (lo hi : ℕ) (P : α → Prop) (l : List α) : Prop :=
  lo ≤ l.length ∧ l.length ≤ hi ∧ ∀ a ∈ l, P a

/-- `INTEGER (0..hi)`. -/
def IsInteger (hi : ℤ) (v : Int64) : Prop := 0 ≤ v.toInt ∧ v.toInt ≤ hi

namespace Asn

def RanFunctionName.InGrammar (s : RanFunctionName) : Prop :=
  IsPrintableString 1 150 s.ranFunctionShortName ∧ IsPrintableString 1 1000 s.ranFunctionE2smOid
    ∧ IsPrintableString 1 150 s.ranFunctionDescription

def DappE3SubscriptionItem.InGrammar (s : DappE3SubscriptionItem) : Prop :=
  IsU32 s.dappId ∧ IsSequenceOf 1 64 IsU32 s.subscribedE3RanFunctions

def IsSubscriptionList (l : DappE3SubscriptionList) : Prop :=
  IsSequenceOf 0 256 DappE3SubscriptionItem.InGrammar l

def ReportItem.InGrammar (s : ReportItem) : Prop :=
  IsPrintableString 1 150 s.ricReportStyleName
    ∧ ∀ l ∈ s.dappE3Subscriptions, IsSubscriptionList l

def ControlItem.InGrammar (s : ControlItem) : Prop :=
  IsPrintableString 1 150 s.ricControlStyleName
    ∧ ∀ l ∈ s.dappE3Subscriptions, IsSubscriptionList l

def RanFunctionDefinition.InGrammar (s : RanFunctionDefinition) : Prop :=
  s.ranFunctionName.InGrammar
    ∧ (∀ l ∈ s.ranFunctionDefinitionReport, IsSequenceOf 1 2 ReportItem.InGrammar l)
    ∧ ∀ l ∈ s.ranFunctionDefinitionControl, IsSequenceOf 1 1 ControlItem.InGrammar l

def EventTrigger.InGrammar (s : EventTrigger) : Prop := s = .format1

def ActionDefinition.InGrammar (s : ActionDefinition) : Prop :=
  s.actionDefinitionFormats = .format1

def IndicationHeaderFormat1.InGrammar (s : IndicationHeaderFormat1) : Prop :=
  IsU32 s.ranFunctionId ∧ IsU32 s.dappId ∧ IsInteger 255 s.nodeType ∧ s.nodePlmnId.length = 3
    ∧ IsU32 s.nodeNbId ∧ ∀ v ∈ s.nodeCuDuId, IsU32 v

def IndicationHeaderFormat2.InGrammar (s : IndicationHeaderFormat2) : Prop :=
  IsInteger 255 s.nodeType ∧ s.nodePlmnId.length = 3 ∧ IsU32 s.nodeNbId
    ∧ ∀ v ∈ s.nodeCuDuId, IsU32 v

def IndicationHeader.InGrammar : IndicationHeader → Prop
  | .nothing => False
  | .format1 f => f.InGrammar
  | .format2 f => f.InGrammar

def MessageFormat1.InGrammar (s : MessageFormat1) : Prop :=
  IsInteger 32768 s.dataSize ∧ 1 ≤ s.data.length ∧ s.data.length ≤ 32768

def IndicationMessage.InGrammar : IndicationMessage → Prop
  | .nothing => False
  | .format1 f => f.InGrammar
  | .format2 subs => IsSubscriptionList subs

def ControlHeaderFormat1.InGrammar (s : ControlHeaderFormat1) : Prop :=
  IsU32 s.ranFunctionId ∧ IsU32 s.dappId

def ControlHeader.InGrammar : ControlHeader → Prop
  | .nothing => False
  | .format1 f => f.InGrammar

def ControlMessage.InGrammar : ControlMessage → Prop
  | .nothing => False
  | .format1 f => f.InGrammar

def ControlOutcome.InGrammar (s : ControlOutcome) : Prop := s ≠ .nothing

end Asn

/-! ## What a structure stands for -/

def given {α : Type} (present : Bool) (v : α) : Option α := if present then some v else none

def DappE3SubscriptionItem.toAsn (s : DappE3SubscriptionItem) : Asn.DappE3SubscriptionItem :=
  ⟨s.dappId, s.subscribedE3RanFunctions⟩

def subscriptionsToAsn (l : List DappE3SubscriptionItem) : Asn.DappE3SubscriptionList :=
  l.map DappE3SubscriptionItem.toAsn

def RanFunctionName.toAsn (s : RanFunctionName) : Asn.RanFunctionName :=
  ⟨s.ranFunctionShortName, s.ranFunctionE2smOId, s.ranFunctionDescription,
    given s.ranFunctionInstancePresent s.ranFunctionInstance⟩

def ReportItem.toAsn (s : ReportItem) : Asn.ReportItem :=
  ⟨s.ricReportStyleType, s.ricReportStyleName, s.ricIndHdrFormatType, s.ricIndMsgFormatType,
    (given s.dappE3SubscriptionsPresent s.dappE3Subscriptions).map subscriptionsToAsn⟩

def CtrlItem.toAsn (s : CtrlItem) : Asn.ControlItem :=
  ⟨s.ricCtrlStyleType, s.ricCtrlStyleName, s.ricCtrlHdrFormatType, s.ricCtrlMsgFormatType,
    s.ricCtrlOutcomeFormatType,
    (given s.dappE3SubscriptionsPresent s.dappE3Subscriptions).map subscriptionsToAsn⟩

def Report.toAsn (s : Report) : List Asn.ReportItem := s.ricReportStyleList.map ReportItem.toAsn

def Ctrl.toAsn (s : Ctrl) : List Asn.ControlItem := s.ricCtrlStyleList.map CtrlItem.toAsn

def RanFunctionDefinition.toAsn (s : RanFunctionDefinition) : Asn.RanFunctionDefinition :=
  ⟨s.ranFunctionName.toAsn, given s.ranFunctionDefinitionEventTriggerPresent (),
    (given s.ranFunctionDefinitionReportPresent s.ranFunctionDefinitionReport).map Report.toAsn,
    (given s.ranFunctionDefinitionCtrlPresent s.ranFunctionDefinitionCtrl).map Ctrl.toAsn⟩

def EventTrigger.toAsn (_ : EventTrigger) : Asn.EventTrigger := .format1

def ActionDefinition.toAsn (s : ActionDefinition) : Asn.ActionDefinition :=
  ⟨s.ricStyleType, .format1⟩

def IndHdrFormat1.toAsn (s : IndHdrFormat1) : Asn.IndicationHeaderFormat1 :=
  ⟨s.ranFunctionId, s.dappId, Int64.ofNat s.nodeType.toNat, s.nodePlmnId.toList, s.nodeNbId,
    given s.nodeCuDuIdPresent s.nodeCuDuId, given s.timestampPresent s.timestamp,
    given s.sequenceIdPresent s.sequenceId⟩

def IndHdrFormat2.toAsn (s : IndHdrFormat2) : Asn.IndicationHeaderFormat2 :=
  ⟨Int64.ofNat s.nodeType.toNat, s.nodePlmnId.toList, s.nodeNbId,
    given s.nodeCuDuIdPresent s.nodeCuDuId, given s.timestampPresent s.timestamp,
    given s.sequenceIdPresent s.sequenceId⟩

def IndHdr.toAsn (s : IndHdr) : Asn.IndicationHeader :=
  match s.ricIndHdrFormats with
  | .null => .nothing
  | .format1 f => .format1 f.toAsn
  | .format2 f => .format2 f.toAsn

def MsgFormat1.toAsn (s : MsgFormat1) : Asn.MessageFormat1 :=
  ⟨Int64.ofNat s.dataSize.toNat, s.data⟩

def IndMsg.toAsn (s : IndMsg) : Asn.IndicationMessage :=
  match s.ricIndMsgFormats with
  | .null => .nothing
  | .format1 f => .format1 f.toAsn
  | .format2 f => .format2 (subscriptionsToAsn f.dappE3Subscriptions)

def CtrlHdr.toAsn (s : CtrlHdr) : Asn.ControlHeader :=
  let f := s.ricCtrlHdrFormats
  .format1 ⟨f.ranFunctionId, f.dappId, given f.timestampPresent f.timestamp,
    given f.sequenceIdPresent f.sequenceId⟩

def CtrlMsg.toAsn (s : CtrlMsg) : Asn.ControlMessage := .format1 s.ricCtrlMsgFormats.toAsn

def CtrlOutcome.toAsn (s : CtrlOutcome) : Asn.ControlOutcome :=
  let f := s.ricCtrlOutcomeFormats
  .format1 ⟨given f.timestampPresent f.timestamp, given f.sequenceIdPresent f.sequenceId,
    given f.e3CtrlOutcomePresent f.e3CtrlOutcome⟩

/-! ## Builders -/

/-- The codes of the letters, the digits and the signs of the alphabet. -/
def printableCodes : List ℕ :=
  List.range' 0x41 26 ++ List.range' 0x61 26 ++ List.range' 0x30 10
    ++ [0x20, 0x27, 0x28, 0x29, 0x2B, 0x2C, 0x2D, 0x2E, 0x2F, 0x3A, 0x3D, 0x3F]

theorem printableAlphabet_eq : printableAlphabet = printableCodes.map UInt8.ofNat := by
  decide +kernel

theorem isPrintableChar_iff_code (c : UInt8) :
    isPrintableChar c = true ↔ c.toNat ∈ printableCodes := by
  simp only [isPrintableChar, printableCodes, Bool.or_eq_true, Bool.and_eq_true,
    decide_eq_true_eq, beq_iff_eq, List.mem_append, List.mem_range'_1, List.mem_cons,
    List.not_mem_nil, or_false, UInt8.le_iff_toNat_le, ← UInt8.toNat_inj, UInt8.reduceToNat]
  omega

theorem isPrintableChar_iff (c : UInt8) : isPrintableChar c = true ↔ c ∈ printableAlphabet := by
  rw [isPrintableChar_iff_code, printableAlphabet_eq, List.mem_map]
  constructor
  · intro h
    exact ⟨c.toNat, h, UInt8.ofNat_toNat⟩
  · rintro ⟨n, hn, rfl⟩
    have hlt : ∀ n ∈ printableCodes, n < 256 := by decide
    rwa [UInt8.toNat_ofNat_of_lt' (hlt n hn)]

theorem validPrintable_iff (s : Bytes) (lo hi : ℕ) :
    validPrintable s lo hi = true ↔ IsPrintableString lo hi s := by
  unfold validPrintable IsPrintableString
  split_ifs with h
  · simp only [false_iff]
    omega
  · rw [List.all_eq_true]
    simp only [isPrintableChar_iff]
    exact ⟨fun hs => ⟨by omega, by omega, hs⟩, fun hs => hs.2.2⟩

theorem setOctets_yields (data : Bytes) : Yields (setOctets data) (data.length ≤ int32Max) data :=
  (Yields.refuse (.pure data)).congr (by rw [and_true, Nat.not_lt])

theorem setPrintable_yields (s : Bytes) (lo : ℕ) {hi : ℕ} (hhi : hi ≤ int32Max) :
    Yields (setPrintable s lo hi) (IsPrintableString lo hi s) s := by
  refine (Yields.refuse (setOctets_yields s)).congr ?_
  rw [Bool.not_eq_false, validPrintable_iff]
  exact and_iff_left_of_imp fun h => Nat.le_trans h.2.1 hhi

theorem setU32_yields (v : UInt64) : Yields (setU32 v) (IsU32 v) v := by
  refine (Yields.check v).congr ?_
  rw [inU32, decide_eq_true_eq, UInt64.le_iff_toNat_le]
  rfl

theorem setLong_yields (v : Int64) : Yields (setLong v) True v :=
  (Yields.check v).congr (iff_true_intro (beq_self_eq_true v))

theorem buildWhen_yields {α β : Type} {build : α → Option β} {P : β → Prop} {g : α → β}
    (h : ∀ a, Yields (build a) (P (g a)) (g a)) (present : Bool) (s : α) :
    Yields (buildWhen present build s) (∀ b ∈ (given present s).map g, P b)
      ((given present s).map g) := by
  cases present
  · exact (Yields.pure none).congr (by simp [given])
  · exact ((h s).map some).congr (by simp [given])

theorem setOptLong_yields (present : Bool) (v : Int64) :
    Yields (setOptLong present v) True (given present v) := by
  cases present
  · exact .pure none
  · exact (Yields.refuse (.pure (some v))).congr (by simp [fitsLong, toLong])

theorem mapM_yields {α β : Type} {build : α → Option β} {P : β → Prop} {g : α → β} {lo hi : ℕ}
    (h : ∀ a, Yields (build a) (P (g a)) (g a)) (l : List α) :
    Yields (if l.length < lo ∨ l.length > hi then none else l.mapM build)
      (IsSequenceOf lo hi P (l.map g)) (l.map g) := by
  refine (Yields.refuse (.mapM h)).congr ?_
  rw [IsSequenceOf, List.length_map, List.forall_mem_map]
  constructor
  · rintro ⟨hlen, hall⟩
    exact ⟨by omega, by omega, hall⟩
  · rintro ⟨hlo, hhi, hall⟩
    exact ⟨by omega, hall⟩

theorem buildSub_yields (s : DappE3SubscriptionItem) :
    Yields (buildSub s) s.toAsn.InGrammar s.toAsn := by
  have hfunctions : Yields (s.subscribedE3RanFunctions.mapM setU32)
      (∀ v ∈ s.subscribedE3RanFunctions, IsU32 v) s.subscribedE3RanFunctions := by
    have h := Yields.mapM (l := s.subscribedE3RanFunctions) setU32_yields
    rwa [List.map_id'] at h
  refine Yields.congr (.refuse (.bind (setU32_yields _) (.bind hfunctions (.pure _)))) ?_
  show _ ↔ IsU32 s.dappId ∧ 1 ≤ s.subscribedE3RanFunctions.length
    ∧ s.subscribedE3RanFunctions.length ≤ 64 ∧ ∀ v ∈ s.subscribedE3RanFunctions, IsU32 v
  unfold kMaxRfPerSub
  constructor
  · rintro ⟨hlen, hid, hall, -⟩
    exact ⟨hid, by omega, by omega, hall⟩
  · rintro ⟨hid, hlo, hhi, hall⟩
    exact ⟨by omega, hid, hall, trivial⟩

theorem buildSubs_yields (l : List DappE3SubscriptionItem) :
    Yields (buildSubs l) (Asn.IsSubscriptionList (subscriptionsToAsn l)) (subscriptionsToAsn l) := by
  refine Yields.congr (.refuse (.mapM buildSub_yields)) ?_
  rw [Asn.IsSubscriptionList, IsSequenceOf, subscriptionsToAsn, List.length_map,
    List.forall_mem_map, Nat.not_lt]
  exact ⟨fun h => ⟨Nat.zero_le _, h⟩, And.right⟩

theorem buildOptSubs_yields (present : Bool) (l : List DappE3SubscriptionItem) :
    Yields (buildOptSubs present l)
      (∀ a ∈ (given present l).map subscriptionsToAsn, Asn.IsSubscriptionList a)
      ((given present l).map subscriptionsToAsn) := by
  have heq : buildOptSubs present l = buildWhen present buildSubs l := by cases present <;> rfl
  rw [heq]
  exact buildWhen_yields buildSubs_yields present l

theorem buildWhen_yields_self {α : Type} {build : α → Option α} {P : α → Prop}
    (h : ∀ a, Yields (build a) (P a) a) (present : Bool) (s : α) :
    Yields (buildWhen present build s) (∀ a ∈ given present s, P a) (given present s) := by
  have hmap := buildWhen_yields (g := id) h present s
  rwa [Option.map_id] at hmap

theorem RanFunctionName.build_yields (s : RanFunctionName) :
    Yields s.build s.toAsn.InGrammar s.toAsn := by
  refine Yields.congr (.bind (setPrintable_yields _ 1 (by decide))
    (.bind (setPrintable_yields _ 1 (by decide)) (.bind (setPrintable_yields _ 1 (by decide))
      (.bind (setOptLong_yields _ _) (.pure _))))) ?_
  simp only [and_true]
  exact Iff.rfl

theorem ReportItem.build_yields (s : ReportItem) :
    Yields s.build s.toAsn.InGrammar s.toAsn := by
  refine Yields.congr (.bind (setLong_yields _) (.bind (setPrintable_yields _ 1 (by decide))
    (.bind (setLong_yields _) (.bind (setLong_yields _)
      (.bind (buildOptSubs_yields _ _) (.pure _)))))) ?_
  simp only [true_and, and_true]
  exact Iff.rfl

theorem CtrlItem.build_yields (s : CtrlItem) : Yields s.build s.toAsn.InGrammar s.toAsn := by
  refine Yields.congr (.bind (setLong_yields _) (.bind (setPrintable_yields _ 1 (by decide))
    (.bind (setLong_yields _) (.bind (setLong_yields _) (.bind (setLong_yields _)
      (.bind (buildOptSubs_yields _ _) (.pure _))))))) ?_
  simp only [true_and, and_true]
  exact Iff.rfl

theorem Report.build_yields (s : Report) :
    Yields s.build (IsSequenceOf 1 2 Asn.ReportItem.InGrammar s.toAsn) s.toAsn :=
  mapM_yields ReportItem.build_yields s.ricReportStyleList

theorem Ctrl.build_yields (s : Ctrl) :
    Yields s.build (IsSequenceOf 1 1 Asn.ControlItem.InGrammar s.toAsn) s.toAsn :=
  mapM_yields CtrlItem.build_yields s.ricCtrlStyleList

theorem RanFunctionDefinition.build_yields (s : RanFunctionDefinition) :
    Yields s.build s.toAsn.InGrammar s.toAsn := by
  refine Yields.congr (.bind s.ranFunctionName.build_yields
    (.bind (buildWhen_yields Report.build_yields _ _)
      (.bind (buildWhen_yields Ctrl.build_yields _ _) (.pure _)))) ?_
  simp only [and_true]
  exact Iff.rfl

theorem isInteger_ofNat {n : ℕ} {hi : ℤ} (hn : n < 2 ^ 63) :
    IsInteger hi (Int64.ofNat n) ↔ (n : ℤ) ≤ hi := by
  rw [IsInteger, Int64.toInt_ofNat_of_lt hn]
  omega

theorem isInteger_nodeType (v : UInt8) : IsInteger 255 (Int64.ofNat v.toNat) := by
  have hv := v.toNat_lt
  rw [isInteger_ofNat (by omega)]
  omega

theorem IndHdrFormat1.build_yields (s : IndHdrFormat1) :
    Yields s.build s.toAsn.InGrammar s.toAsn := by
  refine Yields.congr (.bind (setU32_yields _) (.bind (setU32_yields _) (.bind (setU32_yields _)
    (.bind (setOctets_yields _) (.bind (buildWhen_yields_self setU32_yields _ _)
      (.bind (setOptLong_yields _ _) (.bind (setOptLong_yields _ _) (.pure _)))))))) ?_
  have hplmn : s.nodePlmnId.toList.length ≤ int32Max := by simp [Octets3.toList, int32Max]
  constructor
  · rintro ⟨hran, hdapp, hnb, -, hcudu, -⟩
    exact ⟨hran, hdapp, isInteger_nodeType _, rfl, hnb, hcudu⟩
  · rintro ⟨hran, hdapp, -, -, hnb, hcudu⟩
    exact ⟨hran, hdapp, hnb, hplmn, hcudu, trivial, trivial, trivial⟩

theorem IndHdrFormat2.build_yields (s : IndHdrFormat2) :
    Yields s.build s.toAsn.InGrammar s.toAsn := by
  refine Yields.congr (.bind (setU32_yields _) (.bind (setOctets_yields _)
    (.bind (buildWhen_yields_self setU32_yields _ _) (.bind (setOptLong_yields _ _)
      (.bind (setOptLong_yields _ _) (.pure _)))))) ?_
  have hplmn : s.nodePlmnId.toList.length ≤ int32Max := by simp [Octets3.toList, int32Max]
  constructor
  · rintro ⟨hnb, -, hcudu, -⟩
    exact ⟨isInteger_nodeType _, rfl, hnb, hcudu⟩
  · rintro ⟨-, -, hnb, hcudu⟩
    exact ⟨hnb, hplmn, hcudu, trivial, trivial, trivial⟩

theorem buildData_yields (s : MsgFormat1) :
    Yields (buildData s.dataSize s.data) s.toAsn.InGrammar s.toAsn := by
  refine Yields.congr (.refuse (.map _ (setOctets_yields s.data))) ?_
  have hsize := s.dataSize.toNat_lt
  have hempty : s.data = [] ↔ s.data.length = 0 := List.length_eq_zero_iff.symm
  show _ ↔ IsInteger 32768 (Int64.ofNat s.dataSize.toNat) ∧ 1 ≤ s.data.length
    ∧ s.data.length ≤ 32768
  rw [isInteger_ofNat (by omega), hempty]
  unfold kMaxPayload int32Max
  omega

end LibE3.E2smDapp
