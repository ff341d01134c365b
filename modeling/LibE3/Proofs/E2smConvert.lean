import LibE3.E2smDapp.CApi
import LibE3.Proofs.E2smReading

/-!
# C structures and the values they correspond to

Each C structure has one value that it corresponds to, and one normal form: what is not in use is
zero, and each array is a copy of what is read through it. A conversion from C refuses only lengths
beyond the limits and null pointers. A conversion to C gives the normal form of what the value was
converted from.
-/

namespace LibE3.E2smDapp

open Partial

/-! ## Arrays -/

namespace CArray

variable {α : Type}

def Consistent (a : CArray α) : Prop := a.len ≤ (a.data.getD []).length

/-- The array is within the bound, and there is memory unless it is empty. -/
def Fits (max : Option ℕ) (a : CArray α) : Prop :=
  (∀ m ∈ max, a.len ≤ m) ∧ ¬ (a.len ≠ 0 ∧ a.data.isNone)

theorem length_read {a : CArray α} (h : a.Consistent) : a.read.length = a.len :=
  List.length_take_of_le h

theorem fits_of_consistent {a : CArray α} {max : Option ℕ} (h : a.Consistent)
    (hmax : ∀ m ∈ max, a.read.length ≤ m) : a.Fits max := by
  refine ⟨fun m hm => length_read h ▸ hmax m hm, ?_⟩
  rintro ⟨hlen, hdata⟩
  rw [Option.isNone_iff_eq_none] at hdata
  rw [Consistent, hdata] at h
  exact hlen (Nat.le_zero.mp h)

theorem checked_yields (a : CArray α) : Yields a.checked.toOption (a.Fits none) a.read :=
  Yields.congr (.refuseE (.pure _)) (by simp [Fits])

theorem bounded_yields (a : CArray α) (max : ℕ) :
    Yields (a.bounded max).toOption (a.Fits (some max)) a.read := by
  refine Yields.congr (.refuseE (.refuseE (.pure _))) ?_
  simp [Fits]

end CArray

/-! ## Arrays in use -/

abbrev ArrayProp := {α : Type} → Option ℕ → CArray α → Prop

section Each

variable (P : ArrayProp)

def eachSub (s : C.SubItem) : Prop := P (some kMaxRfPerSub) s.ranFunctions

def eachList {α : Type} (max : ℕ) (each : α → Prop) (a : CArray α) : Prop :=
  P (some max) a ∧ ∀ s ∈ a.read, each s

def eachSubs (s : CArray C.SubItem) : Prop := eachList P kMaxSubs (eachSub P) s

def eachName (s : C.RanFunctionName) : Prop :=
  P (some kNameMax) s.shortName ∧ P (some kOidMax) s.e2smOid ∧ P (some kNameMax) s.description

def eachReportStyle (s : C.ReportStyle) : Prop :=
  P (some kNameMax) s.name ∧ (s.hasDappE3Subscriptions = true → eachSubs P s.dappE3Subscriptions)

def eachCtrlStyle (s : C.CtrlStyle) : Prop :=
  P (some kNameMax) s.name ∧ (s.hasDappE3Subscriptions = true → eachSubs P s.dappE3Subscriptions)

def eachDefinition (s : C.RanFunctionDefinition) : Prop :=
  eachName P s.name
    ∧ (s.hasReport = true → eachList P kMaxReportSty (eachReportStyle P) s.reportStyles)
    ∧ (s.hasCtrl = true → eachList P kMaxCtrlSty (eachCtrlStyle P) s.ctrlStyles)

def eachIndMsg (s : C.IndMsg) : Prop :=
  (s.format = 1 → P (some kMaxPayload) s.frmt1) ∧ (s.format = 2 → eachSubs P s.frmt2)

def eachCtrlMsg (s : C.CtrlMsg) : Prop := P (some kMaxPayload) s.data

def eachCtrlOutcome (s : C.CtrlOutcome) : Prop :=
  s.hasE3ControlOutcome = true → P none s.e3ControlOutcome

end Each

/-! ## The corresponding value -/

namespace C

def SubItem.value (s : SubItem) : DappE3SubscriptionItem where
  dappId := s.dappId.toUInt64
  subscribedE3RanFunctions := s.ranFunctions.read.map UInt32.toUInt64

def subsValue (s : CArray SubItem) : List DappE3SubscriptionItem := s.read.map SubItem.value

def RanFunctionName.value (s : RanFunctionName) : E2smDapp.RanFunctionName where
  ranFunctionShortName := s.shortName.read
  ranFunctionE2smOId := s.e2smOid.read
  ranFunctionDescription := s.description.read
  ranFunctionInstancePresent := s.hasInstance
  ranFunctionInstance := s.inst

def ReportStyle.value (s : ReportStyle) : ReportItem where
  ricReportStyleType := s.reportStyleType
  ricReportStyleName := s.name.read
  ricIndHdrFormatType := s.indHdrFormatType
  ricIndMsgFormatType := s.indMsgFormatType
  dappE3SubscriptionsPresent := s.hasDappE3Subscriptions
  dappE3Subscriptions := if s.hasDappE3Subscriptions then subsValue s.dappE3Subscriptions else []

def CtrlStyle.value (s : CtrlStyle) : CtrlItem where
  ricCtrlStyleType := s.ctrlStyleType
  ricCtrlStyleName := s.name.read
  ricCtrlHdrFormatType := s.ctrlHdrFormatType
  ricCtrlMsgFormatType := s.ctrlMsgFormatType
  ricCtrlOutcomeFormatType := s.ctrlOutcomeFormatType
  dappE3SubscriptionsPresent := s.hasDappE3Subscriptions
  dappE3Subscriptions := if s.hasDappE3Subscriptions then subsValue s.dappE3Subscriptions else []

def RanFunctionDefinition.value (s : RanFunctionDefinition) : E2smDapp.RanFunctionDefinition where
  ranFunctionName := s.name.value
  ranFunctionDefinitionEventTriggerPresent := s.hasEventTrigger
  ranFunctionDefinitionReportPresent := s.hasReport
  ranFunctionDefinitionReport :=
    { ricReportStyleList := if s.hasReport then s.reportStyles.read.map ReportStyle.value else [] }
  ranFunctionDefinitionCtrlPresent := s.hasCtrl
  ranFunctionDefinitionCtrl :=
    { ricCtrlStyleList := if s.hasCtrl then s.ctrlStyles.read.map CtrlStyle.value else [] }

def EventTrigger.value (_ : EventTrigger) : E2smDapp.EventTrigger := {}

def ActionDefinition.value (s : ActionDefinition) : E2smDapp.ActionDefinition :=
  { ricStyleType := s.ricStyleType }

def IndHdr.value (s : IndHdr) : E2smDapp.IndHdr :=
  if s.format = 1 then { ricIndHdrFormats := .format1 (indHdrFormat1From s.frmt1) }
  else { ricIndHdrFormats := .format2 (indHdrFormat2From s.frmt2) }

def IndMsg.value (s : IndMsg) : E2smDapp.IndMsg :=
  if s.format = 1 then { ricIndMsgFormats := .format1 (msgFormat1 s.frmt1.read) }
  else { ricIndMsgFormats := .format2 { dappE3Subscriptions := subsValue s.frmt2 } }

def CtrlHdr.value (s : CtrlHdr) : E2smDapp.CtrlHdr where
  ricCtrlHdrFormats :=
    { ranFunctionId := s.ranFunctionId.toUInt64
      dappId := s.dappId.toUInt64
      timestampPresent := s.hasTimestamp
      timestamp := s.timestamp
      sequenceIdPresent := s.hasSequenceId
      sequenceId := s.sequenceId }

def CtrlMsg.value (s : CtrlMsg) : E2smDapp.CtrlMsg := { ricCtrlMsgFormats := msgFormat1 s.data.read }

def CtrlOutcome.value (s : CtrlOutcome) : E2smDapp.CtrlOutcome where
  ricCtrlOutcomeFormats :=
    { timestampPresent := s.hasTimestamp
      timestamp := s.timestamp
      sequenceIdPresent := s.hasSequenceId
      sequenceId := s.sequenceId
      e3CtrlOutcomePresent := s.hasE3ControlOutcome
      e3CtrlOutcome := if s.hasE3ControlOutcome then s.e3ControlOutcome.read else [] }

end C

theorem subFrom_yields (s : C.SubItem) :
    Yields (subFrom s).toOption (eachSub CArray.Fits s) s.value :=
  Yields.congr (.bindE (CArray.bounded_yields _ _) (.pure _)) (and_true _).to_iff

theorem subsFrom_yields (s : CArray C.SubItem) :
    Yields (subsFrom s).toOption (eachSubs CArray.Fits s) (C.subsValue s) :=
  .bindE (CArray.bounded_yields _ _) (.mapME subFrom_yields)

theorem nameFrom_yields (s : C.RanFunctionName) :
    Yields (nameFrom s).toOption (eachName CArray.Fits s) s.value := by
  refine Yields.congr (.bindE (CArray.bounded_yields _ _) (.bindE (CArray.bounded_yields _ _)
    (.bindE (CArray.bounded_yields _ _) (.pure _)))) ?_
  rw [and_true]
  exact Iff.rfl

theorem reportStyleFrom_yields (s : C.ReportStyle) :
    Yields (reportStyleFrom s).toOption (eachReportStyle CArray.Fits s) s.value := by
  refine Yields.congr (.bindE (CArray.bounded_yields _ _)
    (.bindE (.whenE _ (subsFrom_yields _)) (.pure _))) ?_
  rw [and_true]
  exact Iff.rfl

theorem ctrlStyleFrom_yields (s : C.CtrlStyle) :
    Yields (ctrlStyleFrom s).toOption (eachCtrlStyle CArray.Fits s) s.value := by
  refine Yields.congr (.bindE (CArray.bounded_yields _ _)
    (.bindE (.whenE _ (subsFrom_yields _)) (.pure _))) ?_
  rw [and_true]
  exact Iff.rfl

theorem stylesFrom_yields {α β : Type} {convert : α → Except CError β} {each : α → Prop}
    {value : α → β} (h : ∀ s, Yields (convert s).toOption (each s) (value s)) (has : Bool)
    (styles : CArray α) (max : ℕ) :
    Yields (stylesFrom has styles max convert).toOption
      (has = true → eachList CArray.Fits max each styles)
      (if has then styles.read.map value else []) :=
  .whenE has (.bindE (CArray.bounded_yields _ _) (.mapME h))

theorem ranFunctionDefinitionFrom_yields (s : C.RanFunctionDefinition) :
    Yields (ranFunctionDefinitionFrom s).toOption (eachDefinition CArray.Fits s) s.value := by
  refine Yields.congr (.bindE (nameFrom_yields _)
    (.bindE (stylesFrom_yields reportStyleFrom_yields _ _ _)
      (.bindE (stylesFrom_yields ctrlStyleFrom_yields _ _ _) (.pure _)))) ?_
  rw [and_true]
  exact Iff.rfl

theorem indHdrFrom_yields (s : C.IndHdr) :
    Yields (indHdrFrom s).toOption (s.format = 1 ∨ s.format = 2) s.value := by
  unfold indHdrFrom C.IndHdr.value
  split_ifs with h1 h2
  · exact (Yields.pure _).congr (by simp [h1])
  · exact (Yields.pure _).congr (by simp [h2])
  · exact fun d => ⟨fun h => (nomatch h), fun h => (h.1.elim h1 h2).elim⟩

theorem indMsgFrom_yields (s : C.IndMsg) :
    Yields (indMsgFrom s).toOption ((s.format = 1 ∨ s.format = 2) ∧ eachIndMsg CArray.Fits s)
      s.value := by
  unfold indMsgFrom C.IndMsg.value eachIndMsg
  split_ifs with h1 h2
  · exact Yields.congr (.bindE (CArray.bounded_yields _ _) (.pure _)) (by simp [h1])
  · exact Yields.congr (.bindE (subsFrom_yields _) (.pure _)) (by simp [h2])
  · exact fun d => ⟨fun h => (nomatch h), fun h => (h.1.1.elim h1 h2).elim⟩

theorem ctrlMsgFrom_yields (s : C.CtrlMsg) :
    Yields (ctrlMsgFrom s).toOption (s.format = 1 ∧ eachCtrlMsg CArray.Fits s) s.value := by
  refine Yields.congr (.refuseE (.bindE (CArray.bounded_yields _ _) (.pure _))) ?_
  rw [and_true, not_not]
  exact Iff.rfl

theorem ctrlOutcomeFrom_yields (s : C.CtrlOutcome) :
    Yields (ctrlOutcomeFrom s).toOption (s.format = 1 ∧ eachCtrlOutcome CArray.Fits s)
      s.value := by
  refine Yields.congr (.refuseE (.bindE (.whenE _ (CArray.checked_yields _)) (.pure _))) ?_
  rw [and_true, not_not]
  exact Iff.rfl

/-! ## The normal form -/

def CArray.normal {α : Type} (a : CArray α) : CArray α := .ofList a.read

namespace C

def SubItem.normal (s : SubItem) : SubItem := { s with ranFunctions := s.ranFunctions.normal }

def subsNormal (s : CArray SubItem) : CArray SubItem := .ofList (s.read.map SubItem.normal)

def IndHdrFormat1.normal (s : IndHdrFormat1) : IndHdrFormat1 :=
  { s with
    nodeCuDuId := if s.hasNodeCuDuId then s.nodeCuDuId else 0
    timestamp := if s.hasTimestamp then s.timestamp else 0
    sequenceId := if s.hasSequenceId then s.sequenceId else 0 }

def IndHdrFormat2.normal (s : IndHdrFormat2) : IndHdrFormat2 :=
  { s with
    nodeCuDuId := if s.hasNodeCuDuId then s.nodeCuDuId else 0
    timestamp := if s.hasTimestamp then s.timestamp else 0
    sequenceId := if s.hasSequenceId then s.sequenceId else 0 }

def IndHdr.normal (s : IndHdr) : IndHdr :=
  { s with
    frmt1 := if s.format = 1 then s.frmt1.normal else {}
    frmt2 := if s.format = 2 then s.frmt2.normal else {} }

def IndMsg.normal (s : IndMsg) : IndMsg :=
  { s with
    frmt1 := if s.format = 1 then s.frmt1.normal else {}
    frmt2 := if s.format = 2 then subsNormal s.frmt2 else {} }

def CtrlHdr.normal (s : CtrlHdr) : CtrlHdr :=
  { s with
    timestamp := if s.hasTimestamp then s.timestamp else 0
    sequenceId := if s.hasSequenceId then s.sequenceId else 0 }

def CtrlMsg.normal (s : CtrlMsg) : CtrlMsg := { s with data := s.data.normal }

def CtrlOutcome.normal (s : CtrlOutcome) : CtrlOutcome :=
  { s with
    timestamp := if s.hasTimestamp then s.timestamp else 0
    sequenceId := if s.hasSequenceId then s.sequenceId else 0
    e3ControlOutcome := if s.hasE3ControlOutcome then s.e3ControlOutcome.normal else {} }

def ReportStyle.normal (s : ReportStyle) : ReportStyle :=
  { s with
    name := s.name.normal
    dappE3Subscriptions :=
      if s.hasDappE3Subscriptions then subsNormal s.dappE3Subscriptions else {} }

def CtrlStyle.normal (s : CtrlStyle) : CtrlStyle :=
  { s with
    name := s.name.normal
    dappE3Subscriptions :=
      if s.hasDappE3Subscriptions then subsNormal s.dappE3Subscriptions else {} }

def RanFunctionName.normal (s : RanFunctionName) : RanFunctionName :=
  { s with
    shortName := s.shortName.normal
    e2smOid := s.e2smOid.normal
    description := s.description.normal
    inst := if s.hasInstance then s.inst else 0 }

def RanFunctionDefinition.normal (s : RanFunctionDefinition) : RanFunctionDefinition :=
  { s with
    name := s.name.normal
    reportStyles :=
      if s.hasReport then .ofList (s.reportStyles.read.map ReportStyle.normal) else {}
    ctrlStyles := if s.hasCtrl then .ofList (s.ctrlStyles.read.map CtrlStyle.normal) else {} }

end C

/-! ## To C -/

theorem subToC_value (s : C.SubItem) : subToC s.value = s.normal := by
  simp [subToC, C.SubItem.value, C.SubItem.normal, CArray.normal, Function.comp_def]

theorem subsToC_value (s : CArray C.SubItem) : subsToC (C.subsValue s) = C.subsNormal s := by
  rw [subsToC, C.subsValue, List.map_map, C.subsNormal]
  congr 2
  exact funext subToC_value

theorem reportStyle_toC_value (s : C.ReportStyle) : s.value.toC = s.normal := by
  cases h : s.hasDappE3Subscriptions <;>
    simp [ReportItem.toC, C.ReportStyle.value, C.ReportStyle.normal, CArray.normal, h, subsToC_value]

theorem ctrlStyle_toC_value (s : C.CtrlStyle) : s.value.toC = s.normal := by
  cases h : s.hasDappE3Subscriptions <;>
    simp [CtrlItem.toC, C.CtrlStyle.value, C.CtrlStyle.normal, CArray.normal, h, subsToC_value]

theorem ranFunctionDefinition_toC_value (s : C.RanFunctionDefinition) :
    s.value.toC = .ok s.normal := by
  have hname : s.name.value.toC = s.name.normal := rfl
  have hreport : ReportItem.toC ∘ C.ReportStyle.value = C.ReportStyle.normal :=
    funext reportStyle_toC_value
  have hctrl : CtrlItem.toC ∘ C.CtrlStyle.value = C.CtrlStyle.normal := funext ctrlStyle_toC_value
  cases hr : s.hasReport <;> cases hc : s.hasCtrl <;>
    simp [RanFunctionDefinition.toC, Report.toC, Ctrl.toC, C.RanFunctionDefinition.value,
      C.RanFunctionDefinition.normal, hname, hreport, hctrl, hr, hc]

theorem indHdrFormat1_toC_from (s : C.IndHdrFormat1) : (indHdrFormat1From s).toC = s.normal := by
  simp only [indHdrFormat1From, IndHdrFormat1.toC, C.IndHdrFormat1.normal,
    UInt32.toUInt32_toUInt64]
  rfl

theorem indHdrFormat2_toC_from (s : C.IndHdrFormat2) : (indHdrFormat2From s).toC = s.normal := by
  simp only [indHdrFormat2From, IndHdrFormat2.toC, C.IndHdrFormat2.normal,
    UInt32.toUInt32_toUInt64]
  rfl

theorem indHdr_toC_value {s : C.IndHdr} (h : s.format = 1 ∨ s.format = 2) :
    s.value.toC = .ok s.normal := by
  rcases h with h | h <;>
    simp [C.IndHdr.value, IndHdr.toC, C.IndHdr.normal, h, indHdrFormat1_toC_from,
      indHdrFormat2_toC_from]

theorem indMsg_toC_value {s : C.IndMsg} (h : s.format = 1 ∨ s.format = 2) :
    s.value.toC = .ok s.normal := by
  rcases h with h | h <;>
    simp [C.IndMsg.value, IndMsg.toC, C.IndMsg.normal, h, msgFormat1, CArray.normal, subsToC_value]

theorem ctrlHdr_toC_value {s : C.CtrlHdr} (h : s.format = 1) : s.value.toC = .ok s.normal := by
  simp only [C.CtrlHdr.value, CtrlHdr.toC, C.CtrlHdr.normal, h, UInt32.toUInt32_toUInt64]
  rfl

theorem ctrlOutcome_toC_value {s : C.CtrlOutcome} (h : s.format = 1) :
    s.value.toC = .ok s.normal := by
  cases ho : s.hasE3ControlOutcome <;>
    simp [C.CtrlOutcome.value, CtrlOutcome.toC, C.CtrlOutcome.normal, h, ho, CArray.normal]

/-! ## What is seen of a value -/

@[simp] theorem ite_given_getD {α : Type} (p : Bool) (v d z : α) :
    (if p then (given p v).getD d else z) = if p then v else z := by
  cases p <;> rfl

theorem subsToC_ofAsn (l : List DappE3SubscriptionItem) :
    subsToC (subscriptionsOfAsn (subscriptionsToAsn l)) = subsToC l := by
  rw [subsToC, subscriptionsOfAsn, subscriptionsToAsn, List.map_map, List.map_map]
  rfl

theorem ite_given_map {α β γ : Type} {toAsn : α → β} {ofAsn : β → α} {toC : α → γ}
    (h : ∀ a, toC (ofAsn (toAsn a)) = toC a) (p : Bool) (v d : α) (z : γ) :
    (if p then toC ((((given p v).map toAsn).map ofAsn).getD d) else z)
      = if p then toC v else z := by
  cases p
  · rfl
  · exact h v

theorem ReportItem.toC_ofAsn (s : ReportItem) : (ofAsn s.toAsn).toC = s.toC := by
  simp only [toC, ofAsn, toAsn, Option.isSome_map, isSome_given, ite_given_map subsToC_ofAsn]

theorem CtrlItem.toC_ofAsn (s : CtrlItem) : (ofAsn s.toAsn).toC = s.toC := by
  simp only [toC, ofAsn, toAsn, Option.isSome_map, isSome_given, ite_given_map subsToC_ofAsn]

theorem RanFunctionName.toC_ofAsn (s : RanFunctionName) : (ofAsn s.toAsn).toC = s.toC := by
  simp only [toC, ofAsn, toAsn, isSome_given, ite_given_getD]

theorem Report.toC_ofAsn (s : Report) : (ofAsn s.toAsn).toC = s.toC := by
  rw [toC, ofAsn, toAsn, List.map_map, List.map_map]
  exact congrArg _ (List.map_congr_left fun s _ => s.toC_ofAsn)

theorem Ctrl.toC_ofAsn (s : Ctrl) : (ofAsn s.toAsn).toC = s.toC := by
  rw [toC, ofAsn, toAsn, List.map_map, List.map_map]
  exact congrArg _ (List.map_congr_left fun s _ => s.toC_ofAsn)

theorem RanFunctionDefinition.toC_ofAsn (s : RanFunctionDefinition) :
    (ofAsn s.toAsn).toC = s.toC := by
  simp only [toC, ofAsn, toAsn, Option.isSome_map, isSome_given, RanFunctionName.toC_ofAsn,
    ite_given_map Report.toC_ofAsn, ite_given_map Ctrl.toC_ofAsn]

theorem IndHdrFormat1.toC_ofAsn (s : IndHdrFormat1) : (ofAsn s.toAsn).toC = s.toC := by
  have hplmn : Octets3.ofList s.nodePlmnId.toList = s.nodePlmnId := rfl
  simp only [toC, ofAsn, toAsn, nodeType_ofNat, hplmn, isSome_given, ite_given_getD]
  cases s.nodeCuDuIdPresent <;> rfl

theorem IndHdrFormat2.toC_ofAsn (s : IndHdrFormat2) : (ofAsn s.toAsn).toC = s.toC := by
  have hplmn : Octets3.ofList s.nodePlmnId.toList = s.nodePlmnId := rfl
  simp only [toC, ofAsn, toAsn, nodeType_ofNat, hplmn, isSome_given, ite_given_getD]
  cases s.nodeCuDuIdPresent <;> rfl

/-! ## What is in the grammar fits -/

def isConsistent : ArrayProp := fun _ a => a.Consistent

theorem fits_of_length {α : Type} {a : CArray α} {max : ℕ} (h : isConsistent (some max) a)
    (hmax : a.read.length ≤ max) : a.Fits (some max) :=
  CArray.fits_of_consistent h fun _ hm => Option.some_inj.mp hm ▸ hmax

theorem fits_of_printable {a : CArray UInt8} {lo max : ℕ} (h : isConsistent (some max) a)
    (hg : IsPrintableString lo max a.read) : a.Fits (some max) :=
  fits_of_length h hg.2.1

theorem fits_of_sequence {α β : Type} {each fits : α → Prop} {P : β → Prop} {value : α → β}
    {lo max : ℕ} (hfits : ∀ s, each s → P (value s) → fits s) {a : CArray α}
    (h : eachList isConsistent max each a) (hg : IsSequenceOf lo max P (a.read.map value)) :
    eachList CArray.Fits max fits a := by
  obtain ⟨-, hle, hall⟩ := hg
  rw [List.length_map] at hle
  exact ⟨fits_of_length h.1 hle,
    fun s hs => hfits s (h.2 s hs) (hall _ (List.mem_map_of_mem hs))⟩

theorem sub_fits (s : C.SubItem) (h : eachSub isConsistent s) (hg : s.value.toAsn.InGrammar) :
    eachSub CArray.Fits s := by
  obtain ⟨-, -, hle, -⟩ := hg
  simp only [DappE3SubscriptionItem.toAsn, C.SubItem.value, List.length_map] at hle
  exact fits_of_length h hle

theorem subs_fits {s : CArray C.SubItem} (h : eachSubs isConsistent s)
    (hg : Asn.IsSubscriptionList (subscriptionsToAsn (C.subsValue s))) :
    eachSubs CArray.Fits s := by
  rw [subscriptionsToAsn, C.subsValue, List.map_map] at hg
  exact fits_of_sequence sub_fits h hg

theorem reportStyle_fits (s : C.ReportStyle) (h : eachReportStyle isConsistent s)
    (hg : s.value.toAsn.InGrammar) : eachReportStyle CArray.Fits s := by
  refine ⟨fits_of_printable h.1 hg.1, fun hhas => subs_fits (h.2 hhas) (hg.2 _ ?_)⟩
  simp [ReportItem.toAsn, C.ReportStyle.value, hhas, given]

theorem ctrlStyle_fits (s : C.CtrlStyle) (h : eachCtrlStyle isConsistent s)
    (hg : s.value.toAsn.InGrammar) : eachCtrlStyle CArray.Fits s := by
  refine ⟨fits_of_printable h.1 hg.1, fun hhas => subs_fits (h.2 hhas) (hg.2 _ ?_)⟩
  simp [CtrlItem.toAsn, C.CtrlStyle.value, hhas, given]

theorem definition_fits {s : C.RanFunctionDefinition} (h : eachDefinition isConsistent s)
    (hg : s.value.toAsn.InGrammar) : eachDefinition CArray.Fits s := by
  obtain ⟨⟨hshort, hoid, hdescription⟩, hreport, hctrl⟩ := h
  obtain ⟨⟨gshort, goid, gdescription⟩, greport, gctrl⟩ := hg
  refine ⟨⟨fits_of_printable hshort gshort, fits_of_printable hoid goid,
    fits_of_printable hdescription gdescription⟩, fun hhas => ?_, fun hhas => ?_⟩
  · refine fits_of_sequence reportStyle_fits (hreport hhas) (greport _ ?_)
    simp [RanFunctionDefinition.toAsn, C.RanFunctionDefinition.value, hhas, given, Report.toAsn,
      Function.comp_def]
  · refine fits_of_sequence ctrlStyle_fits (hctrl hhas) (gctrl _ ?_)
    simp [RanFunctionDefinition.toAsn, C.RanFunctionDefinition.value, hhas, given, Ctrl.toAsn,
      Function.comp_def]

theorem indMsg_fits {s : C.IndMsg} (h : eachIndMsg isConsistent s) (hg : s.value.toAsn.InGrammar) :
    eachIndMsg CArray.Fits s := by
  refine ⟨fun h1 => ?_, fun h2 => ?_⟩
  · rw [C.IndMsg.value, if_pos h1] at hg
    exact fits_of_length (h.1 h1) hg.2.2
  · rw [C.IndMsg.value, if_neg (by rw [h2]; decide)] at hg
    exact subs_fits (h.2 h2) hg

end LibE3.E2smDapp
