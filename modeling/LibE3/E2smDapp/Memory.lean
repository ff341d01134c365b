import LibE3.E2smDapp.CApi
import LibE3.Lib.Blocks
import LibE3.Lib.InPlace

/-!
# The memory of the decoders of E2SM-DAPP

The decoding half of `e2sm_dapp_c.cpp` with its allocations. A pointer to memory that was allocated
is a block of the heap with its cells, and a conversion fills the output where it is: what it has
attached before an allocation fails stays attached, for `decode_impl` to release. The memory that
`unpack` takes is some number of blocks that have owners which free them on every path; where there
are not enough of them it fails as it does on bytes that it cannot read.
-/

namespace LibE3.E2smDapp.Mem

/-! ## Structures with pointers -/

structure Block (α : Type) where
  id : ℕ
  cells : List α
  deriving DecidableEq, Repr

/-- A pointer, null or to a block, and a length. -/
structure Buffer (α : Type) where
  data : Option (Block α) := none
  len : ℕ := 0
  deriving DecidableEq, Repr

structure SubItem where
  dappId : UInt32 := 0
  ranFunctions : Buffer UInt32 := {}
  deriving DecidableEq, Repr

structure IndMsg where
  format : UInt32 := 0
  frmt1 : Buffer UInt8 := {}
  frmt2 : Buffer SubItem := {}
  deriving DecidableEq, Repr

structure CtrlMsg where
  format : UInt32 := 0
  data : Buffer UInt8 := {}
  deriving DecidableEq, Repr

structure CtrlOutcome where
  format : UInt32 := 0
  hasTimestamp : Bool := false
  timestamp : Int64 := 0
  hasSequenceId : Bool := false
  sequenceId : Int64 := 0
  hasE3ControlOutcome : Bool := false
  e3ControlOutcome : Buffer UInt8 := {}
  deriving DecidableEq, Repr

structure ReportStyle where
  reportStyleType : Int64 := 0
  name : Buffer UInt8 := {}
  indHdrFormatType : Int64 := 0
  indMsgFormatType : Int64 := 0
  hasDappE3Subscriptions : Bool := false
  dappE3Subscriptions : Buffer SubItem := {}
  deriving DecidableEq, Repr

structure CtrlStyle where
  ctrlStyleType : Int64 := 0
  name : Buffer UInt8 := {}
  ctrlHdrFormatType : Int64 := 0
  ctrlMsgFormatType : Int64 := 0
  ctrlOutcomeFormatType : Int64 := 0
  hasDappE3Subscriptions : Bool := false
  dappE3Subscriptions : Buffer SubItem := {}
  deriving DecidableEq, Repr

structure RanFunctionName where
  shortName : Buffer UInt8 := {}
  e2smOid : Buffer UInt8 := {}
  description : Buffer UInt8 := {}
  hasInstance : Bool := false
  inst : Int64 := 0
  deriving DecidableEq, Repr

structure RanFunctionDefinition where
  name : RanFunctionName := {}
  hasEventTrigger : Bool := false
  hasReport : Bool := false
  reportStyles : Buffer ReportStyle := {}
  hasCtrl : Bool := false
  ctrlStyles : Buffer CtrlStyle := {}
  deriving DecidableEq, Repr

/-! ## To C -/

/-- A conversion that fills its output in place. -/
abbrev Into (σ α : Type) : Type := InPlace CError Heap σ α

open InPlace

section

variable {σ α : Type}

/-- `alloc_array`: nothing is allocated for an array without elements. -/
def allocArray (n : ℕ) (zero : α) : Into σ (Option (Block α)) :=
  if n = 0 then pure none
  else call fun h =>
    match h.alloc with
    | (none, h) => (fail .smErrorMemory, h)
    | (some id, h) => (.ok (some ⟨id, List.replicate n zero⟩), h)

/-- The block after `memcpy`, or after the loop that copies the elements. -/
def copied (p : Option (Block α)) (src : List α) : Option (Block α) :=
  p.map fun b => { b with cells := src }

def setBytes (src : Bytes) : Into (Buffer UInt8) Unit := do
  let p ← allocArray src.length 0
  assign fun _ => { data := copied p src, len := src.length }

/-- The elements of an array, in place. -/
def Buffer.modify (b : Buffer α) (i : ℕ) (f : α → α) : Buffer α :=
  { b with data := b.data.map fun blk => { blk with cells := blk.cells.modify i f } }

/-- A conversion into the element with the index `i` of an array. -/
def element (zero : α) (i : ℕ) (m : Into α Unit) : Into (Buffer α) Unit :=
  part (fun b => ((b.data.bind fun blk => blk.cells[i]?).getD zero))
    (fun a b => b.modify i fun _ => a) m

end

/-- One round of the loop of `subs_to_c`. The item counts only when it is complete. -/
def subToC (i : ℕ) (s : DappE3SubscriptionItem) : Into (Buffer SubItem) Unit := do
  assign fun out => out.modify i fun o => { o with dappId := s.dappId.toUInt32 }
  let functions ← allocArray s.subscribedE3RanFunctions.length 0
  assign fun out =>
    { out.modify i fun o =>
        { o with
          ranFunctions :=
            { data := copied functions (s.subscribedE3RanFunctions.map UInt64.toUInt32)
              len := s.subscribedE3RanFunctions.length } } with
      len := i + 1 }

def subsToC (l : List DappE3SubscriptionItem) : Into (Buffer SubItem) Unit := do
  let items ← allocArray l.length {}
  assign fun _ => { data := items, len := 0 }
  forEach subToC 0 l

/-- The arrays of styles: the count is set before the elements are filled. -/
def stylesToC {α β : Type} (zero : β) (fill : α → Into β Unit) (l : List α) :
    Into (Buffer β) Unit := do
  let styles ← allocArray l.length zero
  assign fun _ => { data := styles, len := l.length }
  forEach (fun i s => element zero i (fill s)) 0 l

def reportStyleToC (s : ReportItem) : Into ReportStyle Unit := do
  assign fun o =>
    { o with
      reportStyleType := s.ricReportStyleType
      indHdrFormatType := s.ricIndHdrFormatType
      indMsgFormatType := s.ricIndMsgFormatType }
  part ReportStyle.name (fun b o => { o with name := b }) (setBytes s.ricReportStyleName)
  assign fun o => { o with hasDappE3Subscriptions := s.dappE3SubscriptionsPresent }
  if s.dappE3SubscriptionsPresent then
    part ReportStyle.dappE3Subscriptions (fun b o => { o with dappE3Subscriptions := b })
      (subsToC s.dappE3Subscriptions)

def ctrlStyleToC (s : CtrlItem) : Into CtrlStyle Unit := do
  assign fun o =>
    { o with
      ctrlStyleType := s.ricCtrlStyleType
      ctrlHdrFormatType := s.ricCtrlHdrFormatType
      ctrlMsgFormatType := s.ricCtrlMsgFormatType
      ctrlOutcomeFormatType := s.ricCtrlOutcomeFormatType }
  part CtrlStyle.name (fun b o => { o with name := b }) (setBytes s.ricCtrlStyleName)
  assign fun o => { o with hasDappE3Subscriptions := s.dappE3SubscriptionsPresent }
  if s.dappE3SubscriptionsPresent then
    part CtrlStyle.dappE3Subscriptions (fun b o => { o with dappE3Subscriptions := b })
      (subsToC s.dappE3Subscriptions)

def nameToC (s : E2smDapp.RanFunctionName) : Into RanFunctionName Unit := do
  part RanFunctionName.shortName (fun b o => { o with shortName := b })
    (setBytes s.ranFunctionShortName)
  part RanFunctionName.e2smOid (fun b o => { o with e2smOid := b })
    (setBytes s.ranFunctionE2smOId)
  part RanFunctionName.description (fun b o => { o with description := b })
    (setBytes s.ranFunctionDescription)
  assign fun o =>
    { o with
      hasInstance := s.ranFunctionInstancePresent
      inst := if s.ranFunctionInstancePresent then s.ranFunctionInstance else 0 }

/-- A structure without pointers is assigned as a whole; what is thrown is thrown before. -/
def plainToC {σ : Type} (value : Except CError σ) : Into σ Unit :=
  match value with
  | .ok c => assign fun _ => c
  | .error e => throw e

theorem internalError_ne_success : ErrorCode.internalError ≠ .success := by decide

/-- Without a format, `std::get` throws after the format is set. -/
def indMsgToC (s : E2smDapp.IndMsg) : Into IndMsg Unit :=
  match s.ricIndMsgFormats with
  | .format1 f => do
    assign fun d => { d with format := 1 }
    part IndMsg.frmt1 (fun b d => { d with frmt1 := b }) (setBytes f.data)
  | .format2 f => do
    assign fun d => { d with format := 2 }
    part IndMsg.frmt2 (fun b d => { d with frmt2 := b }) (subsToC f.dappE3Subscriptions)
  | .null => do
    assign fun d => { d with format := 2 }
    throw ⟨.internalError, internalError_ne_success⟩

def ctrlMsgToC (s : E2smDapp.CtrlMsg) : Into CtrlMsg Unit := do
  assign fun d => { d with format := 1 }
  part CtrlMsg.data (fun b d => { d with data := b }) (setBytes s.ricCtrlMsgFormats.data)

def ctrlOutcomeToC (s : E2smDapp.CtrlOutcome) : Into CtrlOutcome Unit := do
  let f := s.ricCtrlOutcomeFormats
  assign fun d =>
    { d with
      format := 1
      hasTimestamp := f.timestampPresent
      timestamp := if f.timestampPresent then f.timestamp else 0
      hasSequenceId := f.sequenceIdPresent
      sequenceId := if f.sequenceIdPresent then f.sequenceId else 0
      hasE3ControlOutcome := f.e3CtrlOutcomePresent }
  if f.e3CtrlOutcomePresent then
    part CtrlOutcome.e3ControlOutcome (fun b d => { d with e3ControlOutcome := b })
      (setBytes f.e3CtrlOutcome)

/-- The report of a definition, if there is one. -/
def reportToC (s : E2smDapp.RanFunctionDefinition) : Into RanFunctionDefinition Unit := do
  assign fun d => { d with hasReport := s.ranFunctionDefinitionReportPresent }
  if s.ranFunctionDefinitionReportPresent then
    part RanFunctionDefinition.reportStyles (fun b d => { d with reportStyles := b })
      (stylesToC {} reportStyleToC s.ranFunctionDefinitionReport.ricReportStyleList)

/-- The control of a definition, if there is one. -/
def ctrlToC (s : E2smDapp.RanFunctionDefinition) : Into RanFunctionDefinition Unit := do
  assign fun d => { d with hasCtrl := s.ranFunctionDefinitionCtrlPresent }
  if s.ranFunctionDefinitionCtrlPresent then
    part RanFunctionDefinition.ctrlStyles (fun b d => { d with ctrlStyles := b })
      (stylesToC {} ctrlStyleToC s.ranFunctionDefinitionCtrl.ricCtrlStyleList)

def ranFunctionDefinitionToC (s : E2smDapp.RanFunctionDefinition) :
    Into RanFunctionDefinition Unit := do
  part RanFunctionDefinition.name (fun n d => { d with name := n }) (nameToC s.ranFunctionName)
  assign fun d => { d with hasEventTrigger := s.ranFunctionDefinitionEventTriggerPresent }
  reportToC s
  ctrlToC s

/-! ## Release -/

/-- `std::free` of a pointer. -/
def freeData {α : Type} (h : Heap) (b : Buffer α) : Heap := h.free (b.data.map Block.id)

/-- `release` of bytes. -/
def releaseBytes (h : Heap) (b : Buffer UInt8) : Heap × Buffer UInt8 := (freeData h b, {})

/-- `release` of an array: what its elements hold, as many as its length says, and then the array. -/
def releaseArray {α : Type} (element : Heap → α → Heap) (h : Heap) (b : Buffer α) :
    Heap × Buffer α :=
  match b.data with
  | none => (h, {})
  | some blk => (((blk.cells.take b.len).foldl element h).free (some blk.id), {})

/-- `release` of a list of subscriptions. -/
def releaseSubs : Heap → Buffer SubItem → Heap × Buffer SubItem :=
  releaseArray fun h o => freeData h o.ranFunctions

def releaseReportStyles : Heap → Buffer ReportStyle → Heap × Buffer ReportStyle :=
  releaseArray fun h o => (releaseSubs (releaseBytes h o.name).1 o.dappE3Subscriptions).1

def releaseCtrlStyles : Heap → Buffer CtrlStyle → Heap × Buffer CtrlStyle :=
  releaseArray fun h o => (releaseSubs (releaseBytes h o.name).1 o.dappE3Subscriptions).1

def releaseDef (h : Heap) (v : RanFunctionDefinition) : Heap × RanFunctionDefinition :=
  let h := (releaseBytes h v.name.shortName).1
  let h := (releaseBytes h v.name.e2smOid).1
  let h := (releaseBytes h v.name.description).1
  let h := (releaseReportStyles h v.reportStyles).1
  let h := (releaseCtrlStyles h v.ctrlStyles).1
  (h, {})

/-- `release_out` of a structure without pointers. -/
def releaseNothing {σ : Type} (h : Heap) (v : σ) : Heap × σ := (h, v)

def releaseIndMsg (h : Heap) (d : IndMsg) : Heap × IndMsg :=
  let (h, frmt1) := releaseBytes h d.frmt1
  let (h, frmt2) := releaseSubs h d.frmt2
  (h, { d with frmt1 := frmt1, frmt2 := frmt2 })

def releaseCtrlMsg (h : Heap) (d : CtrlMsg) : Heap × CtrlMsg :=
  let (h, data) := releaseBytes h d.data
  (h, { d with data := data })

def releaseCtrlOutcome (h : Heap) (d : CtrlOutcome) : Heap × CtrlOutcome :=
  let (h, outcome) := releaseBytes h d.e3ControlOutcome
  (h, { d with e3ControlOutcome := outcome })

/-! ## Decoding -/

/-- What a decoder returns, with the heap and the output that it leaves. -/
structure Decoded (σ : Type) where
  code : ErrorCode
  heap : Heap
  out : Option σ

/-- The body of each `decode`. For these bytes `unpack` takes `n` blocks, and none where there are no
bytes. What it leaves is destroyed with the value, before an error is caught. -/
def decodeImpl {Cpp COut : Type} (unpack : Cpp → Option Bytes → AsnCode × Cpp) (fresh : Cpp)
    (convert : Cpp → Into COut Unit) (releaseOut : Heap → COut → Heap × COut) (zero : COut)
    (n : ℕ) (h : Heap) (buf : Option Bytes) (out : Option COut) : Decoded COut :=
  match out with
  | none => ⟨.invalidParam, h, none⟩
  | some _ =>
    match buf with
    | none => ⟨.invalidParam, h, some zero⟩
    | some bytes =>
      let n := if bytes = [] then 0 else n
      let (own, h) := h.allocUpTo n
      if own.length < n then ⟨.decodeFailed, h.freeAll own, some zero⟩
      else
        match unpack fresh (some bytes) with
        | (.success, v) =>
          match convert v (h, zero) with
          | (.ok _, h, d) => ⟨.success, h.freeAll own, some d⟩
          | (.error e, h, d) => ⟨e.code, (releaseOut (h.freeAll own) d).1, some zero⟩
        | (_, _) => ⟨.decodeFailed, h.freeAll own, some zero⟩

/-- The body of each `free`: what the structure holds is released, and the structure is zeroed. -/
def freeImpl {σ : Type} (release : Heap → σ → Heap × σ) (zero : σ) (h : Heap) :
    Option σ → Heap × Option σ
  | none => (h, none)
  | some v => ((release h v).1, some zero)

section

variable (n : ℕ) (h : Heap) (buf : Option Bytes)

def decodeEventTrigger (td : AperType Asn.EventTrigger) :
    Option C.EventTrigger → Decoded C.EventTrigger :=
  decodeImpl (EventTrigger.unpack td) {} (fun v => plainToC v.toC) releaseNothing {} n h buf

def decodeActionDefinition (td : AperType Asn.ActionDefinition) :
    Option C.ActionDefinition → Decoded C.ActionDefinition :=
  decodeImpl (ActionDefinition.unpack td) {} (fun v => plainToC v.toC) releaseNothing {} n h
    buf

def decodeIndHdr (td : AperType Asn.IndicationHeader) : Option C.IndHdr → Decoded C.IndHdr :=
  decodeImpl (IndHdr.unpack td) {} (fun v => plainToC v.toC) releaseNothing {} n h buf

def decodeIndMsg (td : AperType Asn.IndicationMessage) : Option IndMsg → Decoded IndMsg :=
  decodeImpl (IndMsg.unpack td) {} indMsgToC releaseIndMsg {} n h buf

def decodeCtrlHdr (td : AperType Asn.ControlHeader) : Option C.CtrlHdr → Decoded C.CtrlHdr :=
  decodeImpl (CtrlHdr.unpack td) {} (fun v => plainToC v.toC) releaseNothing {} n h buf

def decodeCtrlMsg (td : AperType Asn.ControlMessage) : Option CtrlMsg → Decoded CtrlMsg :=
  decodeImpl (CtrlMsg.unpack td) {} ctrlMsgToC releaseCtrlMsg {} n h buf

def decodeCtrlOutcome (td : AperType Asn.ControlOutcome) :
    Option CtrlOutcome → Decoded CtrlOutcome :=
  decodeImpl (CtrlOutcome.unpack td) {} ctrlOutcomeToC releaseCtrlOutcome {} n h buf

def decodeRanFunctionDefinition (td : AperType Asn.RanFunctionDefinition) :
    Option RanFunctionDefinition → Decoded RanFunctionDefinition :=
  decodeImpl (RanFunctionDefinition.unpack td) {} ranFunctionDefinitionToC releaseDef {} n h
    buf

end

def freeEventTrigger : Heap → Option C.EventTrigger → Heap × Option C.EventTrigger :=
  freeImpl releaseNothing {}

def freeActionDefinition : Heap → Option C.ActionDefinition → Heap × Option C.ActionDefinition :=
  freeImpl releaseNothing {}

def freeIndHdr : Heap → Option C.IndHdr → Heap × Option C.IndHdr := freeImpl releaseNothing {}

def freeIndMsg : Heap → Option IndMsg → Heap × Option IndMsg := freeImpl releaseIndMsg {}

def freeCtrlHdr : Heap → Option C.CtrlHdr → Heap × Option C.CtrlHdr := freeImpl releaseNothing {}

def freeCtrlMsg : Heap → Option CtrlMsg → Heap × Option CtrlMsg := freeImpl releaseCtrlMsg {}

def freeCtrlOutcome : Heap → Option CtrlOutcome → Heap × Option CtrlOutcome :=
  freeImpl releaseCtrlOutcome {}

def freeRanFunctionDefinition :
    Heap → Option RanFunctionDefinition → Heap × Option RanFunctionDefinition :=
  freeImpl releaseDef {}

end LibE3.E2smDapp.Mem
