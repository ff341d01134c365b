import LibE3.Proofs.E2smGrammar

/-!
# Reading E2SM-DAPP

A converter succeeds exactly on the values of the grammar. What it reads stands for the value it was
read from, and a structure whose value is read back is equal to it, but for what `operator==` does
not compare.
-/

namespace LibE3.E2smDapp

open Partial

/-! ## Values -/

theorem getU32_yields (v : UInt64) : Yields (getU32 v) (IsU32 v) v := by
  refine (Yields.refuse (.pure v)).congr ?_
  rw [and_true, gt_iff_lt, UInt64.lt_iff_toNat_lt, Nat.not_lt]
  rfl

theorem getPrintable_yields (s : Bytes) (lo hi : ℕ) :
    Yields (getPrintable s lo hi) (IsPrintableString lo hi s) s := by
  refine (Yields.refuse (.pure s)).congr ?_
  rw [and_true, Bool.not_eq_false, validPrintable_iff]

theorem getOpt_yields {α β : Type} {get : α → Option β} {P : α → Prop} {g : α → β}
    (h : ∀ a, Yields (get a) (P a) (g a)) (absent : β) (o : Option α) :
    Yields (getOpt get absent o) (∀ a ∈ o, P a) (o.isSome, (o.map g).getD absent) := by
  cases o with
  | none => exact (Yields.pure _).congr (by simp)
  | some a => exact ((h a).map _).congr (by simp)

theorem getOptLong_eq (o : Option Int64) : getOptLong o = (o.isSome, o.getD 0) := by
  cases o <;> rfl

theorem getNodeType_yields (v : Int64) :
    Yields (getNodeType v) (IsInteger 255 v) (UInt8.ofNat v.toInt.toNat) := by
  refine (Yields.refuse (.pure _)).congr ?_
  rw [and_true, gt_iff_lt, Int64.lt_iff_toInt_lt, Int64.lt_iff_toInt_lt]
  have hzero : (0 : Int64).toInt = 0 := by decide
  have hmax : (255 : Int64).toInt = 255 := by decide
  rw [hzero, hmax, IsInteger]
  omega

def Octets3.ofList (l : Bytes) : Octets3 := ⟨l.getD 0 0, l.getD 1 0, l.getD 2 0⟩

theorem getPlmn_yields : ∀ l : Bytes, Yields (getPlmn l) (l.length = 3) (Octets3.ofList l)
  | [a, b, c] => (Yields.pure (⟨a, b, c⟩ : Octets3)).congr (by simp)
  | [] => fun d => by simp [getPlmn]
  | [_] => fun d => by simp [getPlmn]
  | [_, _] => fun d => by simp [getPlmn]
  | _ :: _ :: _ :: _ :: _ => fun d => by simp [getPlmn]

/-! ## What is read -/

def DappE3SubscriptionItem.ofAsn (s : Asn.DappE3SubscriptionItem) : DappE3SubscriptionItem :=
  { dappId := s.dappId, subscribedE3RanFunctions := s.subscribedE3RanFunctions }

def subscriptionsOfAsn (l : Asn.DappE3SubscriptionList) : List DappE3SubscriptionItem :=
  l.map DappE3SubscriptionItem.ofAsn

def RanFunctionName.ofAsn (s : Asn.RanFunctionName) : RanFunctionName where
  ranFunctionShortName := s.ranFunctionShortName
  ranFunctionE2smOId := s.ranFunctionE2smOid
  ranFunctionDescription := s.ranFunctionDescription
  ranFunctionInstancePresent := s.ranFunctionInstance.isSome
  ranFunctionInstance := s.ranFunctionInstance.getD 0

def ReportItem.ofAsn (s : Asn.ReportItem) : ReportItem where
  ricReportStyleType := s.ricReportStyleType
  ricReportStyleName := s.ricReportStyleName
  ricIndHdrFormatType := s.ricIndicationHeaderFormatType
  ricIndMsgFormatType := s.ricIndicationMessageFormatType
  dappE3SubscriptionsPresent := s.dappE3Subscriptions.isSome
  dappE3Subscriptions := (s.dappE3Subscriptions.map subscriptionsOfAsn).getD []

def CtrlItem.ofAsn (s : Asn.ControlItem) : CtrlItem where
  ricCtrlStyleType := s.ricControlStyleType
  ricCtrlStyleName := s.ricControlStyleName
  ricCtrlHdrFormatType := s.ricControlHeaderFormatType
  ricCtrlMsgFormatType := s.ricControlMessageFormatType
  ricCtrlOutcomeFormatType := s.ricControlOutcomeFormatType
  dappE3SubscriptionsPresent := s.dappE3Subscriptions.isSome
  dappE3Subscriptions := (s.dappE3Subscriptions.map subscriptionsOfAsn).getD []

def Report.ofAsn (l : List Asn.ReportItem) : Report :=
  { ricReportStyleList := l.map ReportItem.ofAsn }

def Ctrl.ofAsn (l : List Asn.ControlItem) : Ctrl :=
  { ricCtrlStyleList := l.map CtrlItem.ofAsn }

def RanFunctionDefinition.ofAsn (s : Asn.RanFunctionDefinition) : RanFunctionDefinition where
  ranFunctionName := RanFunctionName.ofAsn s.ranFunctionName
  ranFunctionDefinitionEventTriggerPresent := s.ranFunctionDefinitionEventTrigger.isSome
  ranFunctionDefinitionReportPresent := s.ranFunctionDefinitionReport.isSome
  ranFunctionDefinitionReport := (s.ranFunctionDefinitionReport.map Report.ofAsn).getD {}
  ranFunctionDefinitionCtrlPresent := s.ranFunctionDefinitionControl.isSome
  ranFunctionDefinitionCtrl := (s.ranFunctionDefinitionControl.map Ctrl.ofAsn).getD {}

def IndHdrFormat1.ofAsn (s : Asn.IndicationHeaderFormat1) : IndHdrFormat1 where
  ranFunctionId := s.ranFunctionId
  dappId := s.dappId
  nodeType := UInt8.ofNat s.nodeType.toInt.toNat
  nodePlmnId := Octets3.ofList s.nodePlmnId
  nodeNbId := s.nodeNbId
  nodeCuDuIdPresent := s.nodeCuDuId.isSome
  nodeCuDuId := s.nodeCuDuId.getD 0
  timestampPresent := s.timestamp.isSome
  timestamp := s.timestamp.getD 0
  sequenceIdPresent := s.sequenceId.isSome
  sequenceId := s.sequenceId.getD 0

def IndHdrFormat2.ofAsn (s : Asn.IndicationHeaderFormat2) : IndHdrFormat2 where
  nodeType := UInt8.ofNat s.nodeType.toInt.toNat
  nodePlmnId := Octets3.ofList s.nodePlmnId
  nodeNbId := s.nodeNbId
  nodeCuDuIdPresent := s.nodeCuDuId.isSome
  nodeCuDuId := s.nodeCuDuId.getD 0
  timestampPresent := s.timestamp.isSome
  timestamp := s.timestamp.getD 0
  sequenceIdPresent := s.sequenceId.isSome
  sequenceId := s.sequenceId.getD 0

def MsgFormat1.ofAsn (s : Asn.MessageFormat1) : MsgFormat1 :=
  { dataSize := UInt16.ofNat s.dataSize.toInt.toNat, data := s.data }

def CtrlHdrFormat1.ofAsn (s : Asn.ControlHeaderFormat1) : CtrlHdrFormat1 where
  ranFunctionId := s.ranFunctionId
  dappId := s.dappId
  timestampPresent := s.timestamp.isSome
  timestamp := s.timestamp.getD 0
  sequenceIdPresent := s.sequenceId.isSome
  sequenceId := s.sequenceId.getD 0

def CtrlOutcomeFormat1.ofAsn (s : Asn.ControlOutcomeFormat1) : CtrlOutcomeFormat1 where
  timestampPresent := s.timestamp.isSome
  timestamp := s.timestamp.getD 0
  sequenceIdPresent := s.sequenceId.isSome
  sequenceId := s.sequenceId.getD 0
  e3CtrlOutcomePresent := s.e3ControlOutcome.isSome
  e3CtrlOutcome := s.e3ControlOutcome.getD []

theorem getSub_yields (s : Asn.DappE3SubscriptionItem) :
    Yields (getSub s) s.InGrammar (DappE3SubscriptionItem.ofAsn s) := by
  have hfunctions : Yields (s.subscribedE3RanFunctions.mapM getU32)
      (∀ v ∈ s.subscribedE3RanFunctions, IsU32 v) s.subscribedE3RanFunctions := by
    have h := Yields.mapM (l := s.subscribedE3RanFunctions) getU32_yields
    rwa [List.map_id'] at h
  refine Yields.congr (.bind (getU32_yields _) (.refuse (.bind hfunctions (.pure _)))) ?_
  unfold Asn.DappE3SubscriptionItem.InGrammar IsSequenceOf kMaxRfPerSub
  constructor
  · rintro ⟨hid, hlen, hall, -⟩
    exact ⟨hid, by omega, by omega, hall⟩
  · rintro ⟨hid, hlo, hhi, hall⟩
    exact ⟨hid, by omega, hall, trivial⟩

theorem getSubs_yields (l : Asn.DappE3SubscriptionList) :
    Yields (getSubs l) (Asn.IsSubscriptionList l) (subscriptionsOfAsn l) := by
  refine Yields.congr (.refuse (.mapM getSub_yields)) ?_
  rw [Asn.IsSubscriptionList, IsSequenceOf, Nat.not_lt]
  exact ⟨fun h => ⟨Nat.zero_le _, h⟩, And.right⟩

theorem RanFunctionName.fromAsn_yields (s : Asn.RanFunctionName) :
    Yields (fromAsn s) s.InGrammar (ofAsn s) := by
  unfold fromAsn
  rw [getOptLong_eq]
  refine Yields.congr (.bind (getPrintable_yields _ _ _) (.bind (getPrintable_yields _ _ _)
    (.bind (getPrintable_yields _ _ _) (.pure _)))) ?_
  rw [and_true]
  exact Iff.rfl

theorem ReportItem.fromAsn_yields (s : Asn.ReportItem) :
    Yields (fromAsn s) s.InGrammar (ofAsn s) := by
  refine Yields.congr (.bind (getPrintable_yields _ _ _)
    (.bind (getOpt_yields getSubs_yields [] _) (.pure _))) ?_
  rw [and_true]
  exact Iff.rfl

theorem CtrlItem.fromAsn_yields (s : Asn.ControlItem) :
    Yields (fromAsn s) s.InGrammar (ofAsn s) := by
  refine Yields.congr (.bind (getPrintable_yields _ _ _)
    (.bind (getOpt_yields getSubs_yields [] _) (.pure _))) ?_
  rw [and_true]
  exact Iff.rfl

theorem getSection_yields {α β γ : Type} {get : α → Option β} {P : α → Prop} {g : α → β}
    {lo hi : ℕ} (h : ∀ a, Yields (get a) (P a) (g a)) (mk : List β → γ) (l : List α) :
    Yields (if l.length < lo ∨ l.length > hi then none else (l.mapM get).map mk)
      (IsSequenceOf lo hi P l) (mk (l.map g)) := by
  refine Yields.congr (.refuse (.map mk (.mapM h))) ?_
  unfold IsSequenceOf
  constructor
  · rintro ⟨hlen, hall⟩
    exact ⟨by omega, by omega, hall⟩
  · rintro ⟨hlo, hhi, hall⟩
    exact ⟨by omega, hall⟩

theorem getReport_yields (l : List Asn.ReportItem) :
    Yields (getReport l) (IsSequenceOf 1 2 Asn.ReportItem.InGrammar l) (Report.ofAsn l) :=
  getSection_yields ReportItem.fromAsn_yields _ l

theorem getCtrl_yields (l : List Asn.ControlItem) :
    Yields (getCtrl l) (IsSequenceOf 1 1 Asn.ControlItem.InGrammar l) (Ctrl.ofAsn l) :=
  getSection_yields CtrlItem.fromAsn_yields _ l

theorem RanFunctionDefinition.fromAsn_yields (s : Asn.RanFunctionDefinition) :
    Yields (fromAsn s) s.InGrammar (ofAsn s) := by
  refine Yields.congr (.bind (RanFunctionName.fromAsn_yields _)
    (.bind (getOpt_yields getReport_yields {} _)
      (.bind (getOpt_yields getCtrl_yields {} _) (.pure _)))) ?_
  rw [and_true]
  exact Iff.rfl

theorem getOptU32_yields (o : Option UInt64) :
    Yields (getOptU32 o) (∀ v ∈ o, IsU32 v) (o.isSome, o.getD 0) := by
  have h := getOpt_yields (g := id) getU32_yields 0 o
  rwa [Option.map_id] at h

theorem IndHdrFormat1.fromAsn_yields (s : Asn.IndicationHeaderFormat1) :
    Yields (fromAsn s) s.InGrammar (ofAsn s) := by
  unfold fromAsn
  rw [getOptLong_eq, getOptLong_eq]
  refine Yields.congr (.bind (getU32_yields _) (.bind (getU32_yields _)
    (.bind (getNodeType_yields _) (.bind (getPlmn_yields _) (.bind (getU32_yields _)
      (.bind (getOptU32_yields _) (.pure _))))))) ?_
  rw [and_true]
  exact Iff.rfl

theorem IndHdrFormat2.fromAsn_yields (s : Asn.IndicationHeaderFormat2) :
    Yields (fromAsn s) s.InGrammar (ofAsn s) := by
  unfold fromAsn
  rw [getOptLong_eq, getOptLong_eq]
  refine Yields.congr (.bind (getNodeType_yields _) (.bind (getPlmn_yields _)
    (.bind (getU32_yields _) (.bind (getOptU32_yields _) (.pure _))))) ?_
  rw [and_true]
  exact Iff.rfl

theorem getData_yields (s : Asn.MessageFormat1) :
    Yields (getData s.dataSize s.data) s.InGrammar (MsgFormat1.ofAsn s) := by
  refine (Yields.refuse (.pure _)).congr ?_
  have hzero : (0 : Int64).toInt = 0 := by decide
  rw [and_true, Int64.lt_iff_toInt_lt, hzero, Asn.MessageFormat1.InGrammar, IsInteger]
  unfold kMaxPayload
  omega

theorem CtrlHdrFormat1.fromAsn_yields (s : Asn.ControlHeaderFormat1) :
    Yields (fromAsn s) s.InGrammar (ofAsn s) := by
  unfold fromAsn
  rw [getOptLong_eq, getOptLong_eq]
  refine Yields.congr (.bind (getU32_yields _) (.bind (getU32_yields _) (.pure _))) ?_
  rw [and_true]
  exact Iff.rfl

theorem CtrlOutcomeFormat1.fromAsn_yields (s : Asn.ControlOutcomeFormat1) :
    Yields (fromAsn s) True (ofAsn s) := by
  unfold fromAsn
  rw [getOptLong_eq, getOptLong_eq]
  exact .pure _

/-! ## There and back -/

@[simp] theorem given_isSome_getD {α : Type} (o : Option α) (d : α) :
    given o.isSome (o.getD d) = o := by
  cases o <;> rfl

theorem given_isSome_map {α β : Type} (g : α → β) (o : Option α) (d : β) :
    given o.isSome ((o.map g).getD d) = o.map g := by
  cases o <;> rfl

@[simp] theorem isSome_given {α : Type} (p : Bool) (v : α) : (given p v).isSome = p := by
  cases p <;> rfl

theorem given_getD_beq {α : Type} [BEq α] [ReflBEq α] (p : Bool) (v d : α) :
    (!p || (given p v).getD d == v) = true := by
  cases p
  · rfl
  · exact BEq.rfl

theorem toAsn_subscriptionsOfAsn (l : Asn.DappE3SubscriptionList) :
    subscriptionsToAsn (subscriptionsOfAsn l) = l := by
  rw [subscriptionsToAsn, subscriptionsOfAsn, List.map_map]
  exact List.map_id' l

theorem map_given_isSome {α β : Type} {f : β → α} {g : α → β} (h : ∀ a, f (g a) = a)
    (o : Option α) (d : β) : (given o.isSome ((o.map g).getD d)).map f = o := by
  rw [given_isSome_map, Option.map_map, show f ∘ g = id from funext h, Option.map_id]
  rfl

theorem RanFunctionName.toAsn_ofAsn (s : Asn.RanFunctionName) : (ofAsn s).toAsn = s := by
  simp [toAsn, ofAsn]

theorem ReportItem.toAsn_ofAsn (s : Asn.ReportItem) : (ofAsn s).toAsn = s := by
  simp [toAsn, ofAsn, map_given_isSome toAsn_subscriptionsOfAsn]

theorem CtrlItem.toAsn_ofAsn (s : Asn.ControlItem) : (ofAsn s).toAsn = s := by
  simp [toAsn, ofAsn, map_given_isSome toAsn_subscriptionsOfAsn]

theorem Report.toAsn_ofAsn (l : List Asn.ReportItem) : (ofAsn l).toAsn = l := by
  simp [toAsn, ofAsn, Function.comp_def, ReportItem.toAsn_ofAsn]

theorem Ctrl.toAsn_ofAsn (l : List Asn.ControlItem) : (ofAsn l).toAsn = l := by
  simp [toAsn, ofAsn, Function.comp_def, CtrlItem.toAsn_ofAsn]

theorem RanFunctionDefinition.toAsn_ofAsn (s : Asn.RanFunctionDefinition) :
    (ofAsn s).toAsn = s := by
  have htrigger : given s.ranFunctionDefinitionEventTrigger.isSome ()
      = s.ranFunctionDefinitionEventTrigger := by
    cases s.ranFunctionDefinitionEventTrigger <;> rfl
  simp [toAsn, ofAsn, RanFunctionName.toAsn_ofAsn, htrigger, map_given_isSome Report.toAsn_ofAsn,
    map_given_isSome Ctrl.toAsn_ofAsn]

theorem ofNat_toInt {v : Int64} {hi : ℤ} (h : IsInteger hi v) : Int64.ofNat v.toInt.toNat = v := by
  obtain ⟨hzero, -⟩ := h
  have hlt := v.toInt_lt
  rw [← Int64.toInt_inj, Int64.toInt_ofNat_of_lt (by omega)]
  omega

theorem ofNat_nodeType {v : Int64} (h : IsInteger 255 v) :
    Int64.ofNat (UInt8.ofNat v.toInt.toNat).toNat = v := by
  have hle := h.2
  rw [UInt8.toNat_ofNat_of_lt' (show v.toInt.toNat < 256 by omega), ofNat_toInt h]

theorem ofNat_dataSize {v : Int64} (h : IsInteger 32768 v) :
    Int64.ofNat (UInt16.ofNat v.toInt.toNat).toNat = v := by
  have hle := h.2
  rw [UInt16.toNat_ofNat_of_lt' (show v.toInt.toNat < 65536 by omega), ofNat_toInt h]

theorem toList_ofList : ∀ {l : Bytes}, l.length = 3 → (Octets3.ofList l).toList = l
  | [_, _, _], _ => rfl

theorem IndHdrFormat1.toAsn_ofAsn {s : Asn.IndicationHeaderFormat1} (h : s.InGrammar) :
    (ofAsn s).toAsn = s := by
  obtain ⟨-, -, htype, hplmn, -⟩ := h
  simp only [toAsn, ofAsn, ofNat_nodeType htype, toList_ofList hplmn, given_isSome_getD]

theorem IndHdrFormat2.toAsn_ofAsn {s : Asn.IndicationHeaderFormat2} (h : s.InGrammar) :
    (ofAsn s).toAsn = s := by
  obtain ⟨htype, hplmn, -⟩ := h
  simp only [toAsn, ofAsn, ofNat_nodeType htype, toList_ofList hplmn, given_isSome_getD]

theorem MsgFormat1.toAsn_ofAsn {s : Asn.MessageFormat1} (h : s.InGrammar) :
    (ofAsn s).toAsn = s := by
  simp only [toAsn, ofAsn, ofNat_dataSize h.1]

/-! ## Equality -/

theorem list_beq_of {α : Type} [BEq α] {f : α → α} (h : ∀ a, (f a == a) = true) :
    ∀ l : List α, (l.map f == l) = true
  | [] => rfl
  | a :: l => by
    rw [List.map_cons, List.cons_beq_cons, h a, list_beq_of h l]
    rfl

theorem subscriptions_beq (l : List DappE3SubscriptionItem) :
    (subscriptionsOfAsn (subscriptionsToAsn l) == l) = true := by
  rw [subscriptionsOfAsn, subscriptionsToAsn, List.map_map]
  refine list_beq_of (fun a => ?_) l
  show (a.dappId == a.dappId && a.subscribedE3RanFunctions == a.subscribedE3RanFunctions) = true
  rw [BEq.rfl, BEq.rfl, Bool.and_self]

theorem given_map_beq {α β : Type} [BEq α] {f : α → β} {g : β → α}
    (h : ∀ a, (g (f a) == a) = true) (p : Bool) (v d : α) :
    (!p || (((given p v).map f).map g).getD d == v) = true := by
  cases p
  · rfl
  · exact h v

theorem RanFunctionName.beq_toAsn (s : RanFunctionName) : (ofAsn s.toAsn == s) = true := by
  change (_ && _) = true
  simp only [ofAsn, toAsn, isSome_given, given_getD_beq, BEq.rfl, Bool.and_self]

theorem ReportItem.beq_toAsn (s : ReportItem) : (ofAsn s.toAsn == s) = true := by
  change (_ && _) = true
  simp only [ofAsn, toAsn, Option.isSome_map, isSome_given, given_map_beq subscriptions_beq,
    BEq.rfl, Bool.and_self]

theorem CtrlItem.beq_toAsn (s : CtrlItem) : (ofAsn s.toAsn == s) = true := by
  change (_ && _) = true
  simp only [ofAsn, toAsn, Option.isSome_map, isSome_given, given_map_beq subscriptions_beq,
    BEq.rfl, Bool.and_self]

theorem Report.beq_toAsn (s : Report) : (ofAsn s.toAsn == s) = true := by
  change ((s.ricReportStyleList.map _).map _ == s.ricReportStyleList) = true
  rw [List.map_map]
  exact list_beq_of ReportItem.beq_toAsn _

theorem Ctrl.beq_toAsn (s : Ctrl) : (ofAsn s.toAsn == s) = true := by
  change ((s.ricCtrlStyleList.map _).map _ == s.ricCtrlStyleList) = true
  rw [List.map_map]
  exact list_beq_of CtrlItem.beq_toAsn _

theorem RanFunctionDefinition.beq_toAsn (s : RanFunctionDefinition) :
    (ofAsn s.toAsn == s) = true := by
  change (_ && _) = true
  simp only [ofAsn, toAsn, Option.isSome_map, isSome_given, RanFunctionName.beq_toAsn,
    given_map_beq Report.beq_toAsn, given_map_beq Ctrl.beq_toAsn, BEq.rfl, Bool.and_self]

theorem ofNat_toInt_ofNat {n : ℕ} (h : n < 2 ^ 63) : (Int64.ofNat n).toInt.toNat = n := by
  rw [Int64.toInt_ofNat_of_lt h, Int.toNat_natCast]

theorem nodeType_ofNat (v : UInt8) : UInt8.ofNat (Int64.ofNat v.toNat).toInt.toNat = v := by
  have hlt := v.toNat_lt
  rw [ofNat_toInt_ofNat (by omega), UInt8.ofNat_toNat]

theorem dataSize_ofNat (v : UInt16) : UInt16.ofNat (Int64.ofNat v.toNat).toInt.toNat = v := by
  have hlt := v.toNat_lt
  rw [ofNat_toInt_ofNat (by omega), UInt16.ofNat_toNat]

theorem IndHdrFormat1.beq_toAsn (s : IndHdrFormat1) : (ofAsn s.toAsn == s) = true := by
  change (_ && _) = true
  simp only [ofAsn, toAsn, nodeType_ofNat, isSome_given, given_getD_beq]
  simp [Octets3.toList, Octets3.ofList]

theorem IndHdrFormat2.beq_toAsn (s : IndHdrFormat2) : (ofAsn s.toAsn == s) = true := by
  change (_ && _) = true
  simp only [ofAsn, toAsn, nodeType_ofNat, isSome_given, given_getD_beq]
  simp [Octets3.toList, Octets3.ofList]

theorem MsgFormat1.beq_toAsn (s : MsgFormat1) : (ofAsn s.toAsn == s) = true := by
  change (_ && _) = true
  simp only [ofAsn, toAsn, dataSize_ofNat, BEq.rfl, Bool.and_self]

end LibE3.E2smDapp
