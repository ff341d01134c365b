import LibE3.Proofs.E2smCodec
import LibE3.Proofs.E2smConvert

/-!
# The law of the C API of E2SM-DAPP

For each of the eight kinds of structure: the encoder accepts exactly the structures whose value is
packed, the decoder reads the bytes back as the structure in its normal form, and an error leaves
the output all zero. A null input is the exception: the encoder returns before it clears the output.
-/

namespace LibE3.E2smDapp

open Partial

/-! ## The eight kinds -/

namespace Kind

abbrev C : Kind → Type
  | .eventTrigger => C.EventTrigger
  | .actionDefinition => C.ActionDefinition
  | .indHdr => C.IndHdr
  | .indMsg => C.IndMsg
  | .ctrlHdr => C.CtrlHdr
  | .ctrlMsg => C.CtrlMsg
  | .ctrlOutcome => C.CtrlOutcome
  | .ranFunctionDefinition => C.RanFunctionDefinition

def encode : (k : Kind) → AperType k.Asn → Option k.C → Option (CArray UInt8) →
    ErrorCode × Option (CArray UInt8)
  | .eventTrigger => encodeEventTrigger
  | .actionDefinition => encodeActionDefinition
  | .indHdr => encodeIndHdr
  | .indMsg => encodeIndMsg
  | .ctrlHdr => encodeCtrlHdr
  | .ctrlMsg => encodeCtrlMsg
  | .ctrlOutcome => encodeCtrlOutcome
  | .ranFunctionDefinition => encodeRanFunctionDefinition

def decode : (k : Kind) → AperType k.Asn → Option Bytes → Option k.C → ErrorCode × Option k.C
  | .eventTrigger => decodeEventTrigger
  | .actionDefinition => decodeActionDefinition
  | .indHdr => decodeIndHdr
  | .indMsg => decodeIndMsg
  | .ctrlHdr => decodeCtrlHdr
  | .ctrlMsg => decodeCtrlMsg
  | .ctrlOutcome => decodeCtrlOutcome
  | .ranFunctionDefinition => decodeRanFunctionDefinition

def zero : (k : Kind) → k.C
  | .eventTrigger => {}
  | .actionDefinition => {}
  | .indHdr => {}
  | .indMsg => {}
  | .ctrlHdr => {}
  | .ctrlMsg => {}
  | .ctrlOutcome => {}
  | .ranFunctionDefinition => {}

def Known : (k : Kind) → k.C → Prop
  | .eventTrigger => fun s => s.format = 1
  | .actionDefinition => fun s => s.format = 1
  | .indHdr => fun s => s.format = 1 ∨ s.format = 2
  | .indMsg => fun s => s.format = 1 ∨ s.format = 2
  | .ctrlHdr => fun s => s.format = 1
  | .ctrlMsg => fun s => s.format = 1
  | .ctrlOutcome => fun s => s.format = 1
  | .ranFunctionDefinition => fun _ => True

def Each (P : ArrayProp) : (k : Kind) → k.C → Prop
  | .eventTrigger => fun _ => True
  | .actionDefinition => fun _ => True
  | .indHdr => fun _ => True
  | .indMsg => eachIndMsg P
  | .ctrlHdr => fun _ => True
  | .ctrlMsg => eachCtrlMsg P
  | .ctrlOutcome => eachCtrlOutcome P
  | .ranFunctionDefinition => eachDefinition P

/-- Each array in use is as long as its length says. -/
def Consistent (k : Kind) (s : k.C) : Prop := Each isConsistent k s

/-- The value that a structure of a known format corresponds to. -/
def value : (k : Kind) → k.C → k.Cpp
  | .eventTrigger => C.EventTrigger.value
  | .actionDefinition => C.ActionDefinition.value
  | .indHdr => C.IndHdr.value
  | .indMsg => C.IndMsg.value
  | .ctrlHdr => C.CtrlHdr.value
  | .ctrlMsg => C.CtrlMsg.value
  | .ctrlOutcome => C.CtrlOutcome.value
  | .ranFunctionDefinition => C.RanFunctionDefinition.value

/-- What is not in use is zero. -/
def normal : (k : Kind) → k.C → k.C
  | .eventTrigger => id
  | .actionDefinition => id
  | .indHdr => C.IndHdr.normal
  | .indMsg => C.IndMsg.normal
  | .ctrlHdr => C.CtrlHdr.normal
  | .ctrlMsg => C.CtrlMsg.normal
  | .ctrlOutcome => C.CtrlOutcome.normal
  | .ranFunctionDefinition => C.RanFunctionDefinition.normal

/-! ## Conversions -/

def ofC : (k : Kind) → k.C → Except CError k.Cpp
  | .eventTrigger => eventTriggerFrom
  | .actionDefinition => actionDefinitionFrom
  | .indHdr => indHdrFrom
  | .indMsg => indMsgFrom
  | .ctrlHdr => ctrlHdrFrom
  | .ctrlMsg => ctrlMsgFrom
  | .ctrlOutcome => ctrlOutcomeFrom
  | .ranFunctionDefinition => ranFunctionDefinitionFrom

def toC : (k : Kind) → k.Cpp → Except CError k.C
  | .eventTrigger => EventTrigger.toC
  | .actionDefinition => ActionDefinition.toC
  | .indHdr => IndHdr.toC
  | .indMsg => IndMsg.toC
  | .ctrlHdr => CtrlHdr.toC
  | .ctrlMsg => CtrlMsg.toC
  | .ctrlOutcome => CtrlOutcome.toC
  | .ranFunctionDefinition => RanFunctionDefinition.toC

def fresh : (k : Kind) → k.Cpp
  | .eventTrigger => {}
  | .actionDefinition => {}
  | .indHdr => {}
  | .indMsg => {}
  | .ctrlHdr => {}
  | .ctrlMsg => {}
  | .ctrlOutcome => {}
  | .ranFunctionDefinition => {}

theorem encode_eq (k : Kind) (td : AperType k.Asn) :
    k.encode td = encodeImpl k.ofC (k.pack td) := by
  cases k <;> rfl

theorem decode_eq (k : Kind) (td : AperType k.Asn) :
    k.decode td = decodeImpl (k.unpack td) k.fresh k.toC k.zero := by
  cases k <;> rfl

theorem ofC_yields (k : Kind) (s : k.C) :
    Yields (k.ofC s).toOption (k.Known s ∧ Each CArray.Fits k s) (k.value s) := by
  cases k with
  | eventTrigger => exact Yields.congr (.refuseE (.pure _)) (by rw [not_not]; exact Iff.rfl)
  | actionDefinition => exact Yields.congr (.refuseE (.pure _)) (by rw [not_not]; exact Iff.rfl)
  | indHdr => exact (indHdrFrom_yields s).congr (and_true _).symm.to_iff
  | indMsg => exact indMsgFrom_yields s
  | ctrlHdr => exact Yields.congr (.refuseE (.pure _)) (by rw [not_not]; exact Iff.rfl)
  | ctrlMsg => exact ctrlMsgFrom_yields s
  | ctrlOutcome => exact ctrlOutcomeFrom_yields s
  | ranFunctionDefinition =>
    exact (ranFunctionDefinitionFrom_yields s).congr (true_and _).symm.to_iff

theorem fits_of_inGrammar (k : Kind) {s : k.C} (h : k.Consistent s)
    (hg : k.InGrammar (k.toAsn (k.value s))) : Each CArray.Fits k s := by
  cases k with
  | indMsg => exact indMsg_fits h hg
  | ctrlMsg => exact fits_of_length h hg.2.2
  | ctrlOutcome => exact fun hhas => CArray.fits_of_consistent (h hhas) fun m hm => (nomatch hm)
  | ranFunctionDefinition => exact definition_fits h hg
  | _ => trivial

theorem toC_value (k : Kind) {s : k.C} (h : k.Known s) :
    k.toC (k.value s) = .ok (k.normal s) := by
  cases k with
  | eventTrigger => exact congrArg (fun n => Except.ok (C.EventTrigger.mk n)) (Eq.symm h)
  | actionDefinition =>
    exact congrArg (fun n => Except.ok (C.ActionDefinition.mk n s.ricStyleType)) (Eq.symm h)
  | indHdr => exact indHdr_toC_value h
  | indMsg => exact indMsg_toC_value h
  | ctrlHdr => exact ctrlHdr_toC_value h
  | ctrlMsg => exact congrArg (fun n => Except.ok (C.CtrlMsg.mk n s.data.normal)) (Eq.symm h)
  | ctrlOutcome => exact ctrlOutcome_toC_value h
  | ranFunctionDefinition => exact ranFunctionDefinition_toC_value s

theorem toC_ofAsn (k : Kind) (d : k.Cpp) : k.toC (k.ofAsn (k.toAsn d)) = k.toC d := by
  cases k with
  | eventTrigger => rfl
  | actionDefinition => rfl
  | indHdr =>
    obtain ⟨ext, _ | f | f⟩ := d
    · rfl
    · simp only [toC, ofAsn, toAsn, IndHdr.toC, IndHdr.toAsn, f.toC_ofAsn]
    · simp only [toC, ofAsn, toAsn, IndHdr.toC, IndHdr.toAsn, f.toC_ofAsn]
  | indMsg =>
    obtain ⟨ext, _ | f | f⟩ := d
    · rfl
    · rfl
    · simp only [toC, ofAsn, toAsn, IndMsg.toC, IndMsg.toAsn, subsToC_ofAsn]
  | ctrlHdr =>
    simp only [toC, ofAsn, toAsn, CtrlHdr.toC, CtrlHdr.toAsn, CtrlHdrFormat1.ofAsn, isSome_given,
      ite_given_getD]
  | ctrlMsg => rfl
  | ctrlOutcome =>
    simp only [toC, ofAsn, toAsn, CtrlOutcome.toC, CtrlOutcome.toAsn, CtrlOutcomeFormat1.ofAsn,
      isSome_given, ite_given_getD]
    cases d.ricCtrlOutcomeFormats.e3CtrlOutcomePresent <;> rfl
  | ranFunctionDefinition => exact d.toC_ofAsn

end Kind

/-! ## Encoding -/

variable {k : Kind} {td : AperType k.Asn}

theorem encode_cases (htd : td.Lossless k.InGrammar) (s : k.C) (out : CArray UInt8) :
    (∃ code, code ≠ .success ∧ k.encode td (some s) (some out) = (code, some {})
        ∧ ¬ (Kind.Each CArray.Fits k s ∧ k.Known s ∧ (k.pack td (k.value s) []).1 = .success))
      ∨ ∃ bytes, bytes ≠ [] ∧ td.decode bytes = some (k.toAsn (k.value s))
        ∧ k.InGrammar (k.toAsn (k.value s)) ∧ k.Known s
        ∧ (k.pack td (k.value s) []).1 = .success
        ∧ k.encode td (some s) (some out) = (.success, some ⟨some bytes, bytes.length⟩) := by
  rw [k.encode_eq]
  cases hof : k.ofC s with
  | error e =>
    left
    refine ⟨e.code, e.isError, by simp only [encodeImpl, hof], ?_⟩
    rintro ⟨hfits, hknown, -⟩
    rw [(k.ofC_yields s).eq_ok ⟨hknown, hfits⟩] at hof
    cases hof
  | ok d =>
    have hsome : (k.ofC s).toOption = some d := by rw [hof]; rfl
    obtain ⟨hknown, -⟩ := (k.ofC_yields s).holds hsome
    obtain rfl := (k.ofC_yields s).value hsome
    by_cases hpack : (k.pack td (k.value s) []).1 = .success
    · right
      obtain ⟨hg, hshort⟩ := (pack_success_iff htd _ _).mp hpack
      obtain ⟨bytes, hne, hdecode, hbytes⟩ := pack_of_inGrammar htd hg hshort
      refine ⟨bytes, hne, hdecode, hg, hknown, hpack, ?_⟩
      simp only [encodeImpl, hof, hbytes, CArray.ofList, if_neg hne]
    · left
      refine ⟨.encodeFailed, by decide, ?_, fun h => hpack h.2.2⟩
      rw [pack_success_iff htd] at hpack
      simp only [encodeImpl, hof, pack_of_none ((k.fill_yields _).eq_none hpack)]

theorem decode_of_encoded {bytes : Bytes} (hne : bytes ≠ []) {s : k.C}
    (hdecode : td.decode bytes = some (k.toAsn (k.value s)))
    (hg : k.InGrammar (k.toAsn (k.value s))) (hknown : k.Known s) (prior : k.C) :
    k.decode td (some bytes) (some prior) = (.success, some (k.normal s)) := by
  rw [k.decode_eq]
  simp only [decodeImpl, unpack_of_decode hne hdecode hg k.fresh, k.toC_ofAsn, k.toC_value hknown]

theorem decodeImpl_failed {Cpp COut : Type} {unpack : Cpp → Option Bytes → AsnCode × Cpp}
    {fresh : Cpp} {convert : Cpp → Except CError COut} {zero : COut} :
    ∀ {buf : Option Bytes} {out : Option COut},
      (decodeImpl unpack fresh convert zero buf out).1 ≠ .success →
      ∀ o ∈ (decodeImpl unpack fresh convert zero buf out).2, o = zero
  | _, none, _, o, ho => (nomatch ho)
  | none, some _, _, o, ho => (Option.some_inj.mp ho).symm
  | some bytes, some prior, h, o, ho => by
    unfold decodeImpl at h ho
    dsimp only at h ho
    split at ho
    · split at ho
      · exact (Option.some_inj.mp ho).symm
      · rename_i hunpack _ c hconvert
        simp only [hunpack, hconvert] at h
        exact absurd rfl h
    · exact (Option.some_inj.mp ho).symm

/-! ## The law -/

structure EncodeLaw (td : AperType k.Asn) (input : Option k.C) (out : Option (CArray UInt8)) :
    Prop where
  accepts : ∀ s o, input = some s → out = some o → k.Consistent s →
    ((k.encode td input out).1 = .success
      ↔ k.Known s ∧ (k.pack td (k.value s) []).1 = .success)
  readBack : ∀ s b prior, input = some s → k.Consistent s →
    k.encode td input out = (.success, some b) → ∃ bytes, b = ⟨some bytes, bytes.length⟩
      ∧ k.decode td (some bytes) (some prior) = (.success, some (k.normal s))
  zeroed : (k.encode td input out).1 ≠ .success → ∀ o ∈ (k.encode td input out).2, o = {}

def DecodeLaw (td : AperType k.Asn) (buf : Option Bytes) (out : Option k.C) : Prop :=
  (k.decode td buf out).1 ≠ .success → ∀ o ∈ (k.decode td buf out).2, o = k.zero

theorem encode_null (out : Option (CArray UInt8)) :
    k.encode td none out = (.invalidParam, out) := by
  rw [k.encode_eq]
  rfl

theorem encodeLaw_of_some (htd : td.Lossless k.InGrammar) (s : k.C) :
    ∀ out : Option (CArray UInt8), EncodeLaw td (some s) out
  | none => by
    have hencode : k.encode td (some s) none = (.invalidParam, none) := by
      rw [k.encode_eq]
      rfl
    refine ⟨fun _ _ _ h => (nomatch h), fun _ b _ _ _ h => ?_, fun _ o ho => ?_⟩
    · rw [hencode] at h
      cases h
    · rw [hencode] at ho
      cases ho
  | some out => by
    rcases encode_cases htd s out with ⟨code, hcode, hencode, hnot⟩
      | ⟨bytes, hne, hdecode, hg, hknown, hpack, hencode⟩
    · refine ⟨fun s' _ hs _ hc => ?_, fun _ b _ _ _ h => ?_, fun _ o ho => ?_⟩
      · obtain rfl := Option.some_inj.mp hs
        rw [hencode]
        refine ⟨fun h => absurd h hcode, fun h => absurd ⟨?_, h⟩ hnot⟩
        exact k.fits_of_inGrammar hc ((pack_success_iff htd _ _).mp h.2).1
      · rw [hencode] at h
        exact absurd (congrArg Prod.fst h) hcode
      · rw [hencode] at ho
        exact (Option.some_inj.mp ho).symm
    · refine ⟨fun s' _ hs _ _ => ?_, fun s' b prior hs _ h => ?_, fun h => ?_⟩
      · obtain rfl := Option.some_inj.mp hs
        rw [hencode]
        exact ⟨fun _ => ⟨hknown, hpack⟩, fun _ => rfl⟩
      · obtain rfl := Option.some_inj.mp hs
        rw [hencode, Prod.mk.injEq, Option.some_inj] at h
        exact ⟨bytes, h.2.symm, decode_of_encoded hne hdecode hg hknown prior⟩
      · rw [hencode] at h
        exact absurd rfl h

theorem encodeLaw_null_iff (out : Option (CArray UInt8)) :
    EncodeLaw td none out ↔ ∀ o ∈ out, o = {} := by
  constructor
  · intro h
    have hzeroed := h.zeroed
    rw [encode_null] at hzeroed
    exact hzeroed fun h => (nomatch h)
  · intro h
    refine ⟨fun _ _ hs => (nomatch hs), fun _ _ _ hs => (nomatch hs), fun _ => ?_⟩
    rw [encode_null]
    exact h

/-- The law holds for each kind of structure, but for an encoder whose input is null while its output
is not zero already. -/
theorem c_api_law_iff (k : Kind) {td : AperType k.Asn} (htd : td.Lossless k.InGrammar)
    (input : Option k.C) (out : Option (CArray UInt8)) (buf : Option Bytes) (prior : Option k.C) :
    (EncodeLaw td input out ↔ (input = none → ∀ o ∈ out, o = {})) ∧ DecodeLaw td buf prior := by
  constructor
  · cases input with
    | none => exact (encodeLaw_null_iff out).trans ⟨fun h _ => h, fun h => h rfl⟩
    | some s => exact iff_of_true (encodeLaw_of_some htd s out) fun h => (nomatch h)
  · unfold DecodeLaw
    rw [k.decode_eq]
    exact decodeImpl_failed

/-! ### A control message -/

def cMessage : C.CtrlMsg := { format := 1, data := ⟨some [1, 2, 3, 0x5a], 3⟩ }

theorem cMessage_law : ctrlMsgAper.Lossless (Kind.InGrammar .ctrlMsg)
    ∧ Kind.Consistent .ctrlMsg cMessage
    ∧ encodeCtrlMsg ctrlMsgAper (some cMessage) (some ⟨none, 7⟩)
      = (.success, some ⟨some [0, 0, 3, 0, 2, 1, 2, 3], 8⟩)
    ∧ EncodeLaw (k := .ctrlMsg) ctrlMsgAper (some cMessage) (some ⟨none, 7⟩)
    ∧ DecodeLaw (k := .ctrlMsg) ctrlMsgAper none (some cMessage) := by
  have h := c_api_law_iff .ctrlMsg ctrlMsgAper_lossless (some cMessage) (some ⟨none, 7⟩) none
    (some cMessage)
  refine ⟨ctrlMsgAper_lossless, ?_, by decide +kernel, h.1.mpr fun hnull => (nomatch hnull), h.2⟩
  show 3 ≤ 4
  decide

/-- What the output held stays, and the decoder clears it. -/
theorem null_input_kept : encodeCtrlMsg ctrlMsgAper none (some ⟨some [0x5a], 1⟩)
      = (.invalidParam, some ⟨some [0x5a], 1⟩)
    ∧ decodeCtrlMsg ctrlMsgAper none (some cMessage) = (.invalidParam, some {})
    ∧ ¬ EncodeLaw (k := .ctrlMsg) ctrlMsgAper none (some ⟨some [0x5a], 1⟩) := by
  refine ⟨rfl, rfl, fun h => ?_⟩
  have hzero := (encodeLaw_null_iff _).mp h _ rfl
  cases hzero

end LibE3.E2smDapp
