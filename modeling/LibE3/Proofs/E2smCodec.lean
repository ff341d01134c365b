import LibE3.Proofs.E2smReading

/-!
# The law of the E2SM-DAPP codec

For each of the eight top-level types: a value is packed exactly when it is in the grammar, the
bytes are read back as an equal value, whatever is read can be packed again, and a failure leaves
nothing behind. The control outcome is the exception: its payload has no bound in the grammar,
`set_octets` has one, and the converter has none.
-/

namespace LibE3.E2smDapp

open Partial

/-! ## The eight types -/

inductive Kind
  | eventTrigger | actionDefinition | indHdr | indMsg | ctrlHdr | ctrlMsg | ctrlOutcome
  | ranFunctionDefinition
  deriving DecidableEq, Repr

namespace Kind

abbrev Cpp : Kind → Type
  | .eventTrigger => EventTrigger
  | .actionDefinition => ActionDefinition
  | .indHdr => IndHdr
  | .indMsg => IndMsg
  | .ctrlHdr => CtrlHdr
  | .ctrlMsg => CtrlMsg
  | .ctrlOutcome => CtrlOutcome
  | .ranFunctionDefinition => RanFunctionDefinition

abbrev Asn : Kind → Type
  | .eventTrigger => Asn.EventTrigger
  | .actionDefinition => Asn.ActionDefinition
  | .indHdr => Asn.IndicationHeader
  | .indMsg => Asn.IndicationMessage
  | .ctrlHdr => Asn.ControlHeader
  | .ctrlMsg => Asn.ControlMessage
  | .ctrlOutcome => Asn.ControlOutcome
  | .ranFunctionDefinition => Asn.RanFunctionDefinition

def pack : (k : Kind) → AperType k.Asn → k.Cpp → Bytes → AsnCode × Bytes
  | .eventTrigger => EventTrigger.pack
  | .actionDefinition => ActionDefinition.pack
  | .indHdr => IndHdr.pack
  | .indMsg => IndMsg.pack
  | .ctrlHdr => CtrlHdr.pack
  | .ctrlMsg => CtrlMsg.pack
  | .ctrlOutcome => CtrlOutcome.pack
  | .ranFunctionDefinition => RanFunctionDefinition.pack

def unpack : (k : Kind) → AperType k.Asn → k.Cpp → Option Bytes → AsnCode × k.Cpp
  | .eventTrigger => EventTrigger.unpack
  | .actionDefinition => ActionDefinition.unpack
  | .indHdr => IndHdr.unpack
  | .indMsg => IndMsg.unpack
  | .ctrlHdr => CtrlHdr.unpack
  | .ctrlMsg => CtrlMsg.unpack
  | .ctrlOutcome => CtrlOutcome.unpack
  | .ranFunctionDefinition => RanFunctionDefinition.unpack

/-- `operator==`. -/
def equal : (k : Kind) → k.Cpp → k.Cpp → Bool
  | .eventTrigger => fun a b => a == b
  | .actionDefinition => fun a b => a == b
  | .indHdr => fun a b => a == b
  | .indMsg => fun a b => a == b
  | .ctrlHdr => fun a b => a == b
  | .ctrlMsg => fun a b => a == b
  | .ctrlOutcome => fun a b => a == b
  | .ranFunctionDefinition => fun a b => a == b

def InGrammar : (k : Kind) → k.Asn → Prop
  | .eventTrigger => Asn.EventTrigger.InGrammar
  | .actionDefinition => Asn.ActionDefinition.InGrammar
  | .indHdr => Asn.IndicationHeader.InGrammar
  | .indMsg => Asn.IndicationMessage.InGrammar
  | .ctrlHdr => Asn.ControlHeader.InGrammar
  | .ctrlMsg => Asn.ControlMessage.InGrammar
  | .ctrlOutcome => Asn.ControlOutcome.InGrammar
  | .ranFunctionDefinition => Asn.RanFunctionDefinition.InGrammar

/-- The value of the grammar that a value stands for. -/
def toAsn : (k : Kind) → k.Cpp → k.Asn
  | .eventTrigger => EventTrigger.toAsn
  | .actionDefinition => ActionDefinition.toAsn
  | .indHdr => IndHdr.toAsn
  | .indMsg => IndMsg.toAsn
  | .ctrlHdr => CtrlHdr.toAsn
  | .ctrlMsg => CtrlMsg.toAsn
  | .ctrlOutcome => CtrlOutcome.toAsn
  | .ranFunctionDefinition => RanFunctionDefinition.toAsn

/-- No outcome is longer than `INT32_MAX`. -/
def Short : (k : Kind) → k.Asn → Prop
  | .ctrlOutcome => fun s => ∀ f, s = .format1 f → ∀ o ∈ f.e3ControlOutcome, o.length ≤ int32Max
  | .eventTrigger => fun _ => True
  | .actionDefinition => fun _ => True
  | .indHdr => fun _ => True
  | .indMsg => fun _ => True
  | .ctrlHdr => fun _ => True
  | .ctrlMsg => fun _ => True
  | .ranFunctionDefinition => fun _ => True

/-! ## Structures -/

def fill : (k : Kind) → k.Cpp → Option k.Asn
  | .eventTrigger => EventTrigger.fill
  | .actionDefinition => ActionDefinition.fill
  | .indHdr => IndHdr.fill
  | .indMsg => IndMsg.fill
  | .ctrlHdr => CtrlHdr.fill
  | .ctrlMsg => CtrlMsg.fill
  | .ctrlOutcome => CtrlOutcome.fill
  | .ranFunctionDefinition => RanFunctionDefinition.build

def convert : (k : Kind) → k.Asn → Option k.Cpp
  | .eventTrigger => EventTrigger.convert
  | .actionDefinition => ActionDefinition.convert
  | .indHdr => IndHdr.convert
  | .indMsg => IndMsg.convert
  | .ctrlHdr => CtrlHdr.convert
  | .ctrlMsg => CtrlMsg.convert
  | .ctrlOutcome => CtrlOutcome.convert
  | .ranFunctionDefinition => RanFunctionDefinition.fromAsn

theorem pack_eq (k : Kind) (td : AperType k.Asn) (v : k.Cpp) (out : Bytes) :
    k.pack td v out = packPdu td out (k.fill v) := by
  cases k <;> rfl

theorem unpack_eq (k : Kind) (td : AperType k.Asn) (self : k.Cpp) (data : Option Bytes) :
    k.unpack td self data = unpackPdu td data self k.convert := by
  cases k <;> rfl

theorem ctrlHdr_fill_yields (v : CtrlHdr) : Yields v.fill v.toAsn.InGrammar v.toAsn := by
  refine Yields.congr (.map _ (.bind (setU32_yields _) (.bind (setU32_yields _)
    (.bind (setOptLong_yields _ _) (.bind (setOptLong_yields _ _) (.pure _)))))) ?_
  simp only [and_true]
  exact Iff.rfl

theorem ctrlOutcome_fill_yields (v : CtrlOutcome) :
    Yields v.fill (v.toAsn.InGrammar ∧ Short .ctrlOutcome v.toAsn) v.toAsn := by
  refine Yields.congr (.map _ (.bind (setOptLong_yields _ _) (.bind (setOptLong_yields _ _)
    (.bind (buildWhen_yields_self setOctets_yields _ _) (.pure _))))) ?_
  constructor
  · rintro ⟨-, -, hshort, -⟩
    refine ⟨fun h => (nomatch h), fun f hf => ?_⟩
    obtain rfl := Asn.ControlOutcome.format1.inj hf
    exact hshort
  · rintro ⟨-, hshort⟩
    exact ⟨trivial, trivial, hshort _ rfl, trivial⟩

theorem fill_yields (k : Kind) (v : k.Cpp) :
    Yields (k.fill v) (k.InGrammar (k.toAsn v) ∧ k.Short (k.toAsn v)) (k.toAsn v) := by
  cases k with
  | eventTrigger => exact (Yields.pure _).congr (by simp [InGrammar, Asn.EventTrigger.InGrammar,
      toAsn, EventTrigger.toAsn, Short])
  | actionDefinition =>
    exact Yields.congr (.bind (setLong_yields _) (.pure _)) (by simp [InGrammar,
      Asn.ActionDefinition.InGrammar, toAsn, ActionDefinition.toAsn, Short])
  | indHdr =>
    obtain ⟨ext, _ | f | f⟩ := v
    · exact fun d => ⟨fun h => (nomatch h), fun h => h.1.1.elim⟩
    · exact (f.build_yields.map _).congr (and_true _).symm.to_iff
    · exact (f.build_yields.map _).congr (and_true _).symm.to_iff
  | indMsg =>
    obtain ⟨ext, _ | f | f⟩ := v
    · exact fun d => ⟨fun h => (nomatch h), fun h => h.1.1.elim⟩
    · exact ((buildData_yields f).map _).congr (and_true _).symm.to_iff
    · exact ((buildSubs_yields _).map _).congr (and_true _).symm.to_iff
  | ctrlHdr => exact (ctrlHdr_fill_yields v).congr (and_true _).symm.to_iff
  | ctrlMsg => exact ((buildData_yields _).map _).congr (and_true _).symm.to_iff
  | ctrlOutcome => exact ctrlOutcome_fill_yields v
  | ranFunctionDefinition => exact (v.build_yields).congr (and_true _).symm.to_iff

/-- The value that is read; where the alternative is not known, the one a new object has. -/
def ofAsn : (k : Kind) → k.Asn → k.Cpp
  | .eventTrigger => fun _ => {}
  | .actionDefinition => fun s => { ricStyleType := s.ricStyleType }
  | .indHdr => fun
    | .nothing => {}
    | .format1 f => { ricIndHdrFormats := .format1 (IndHdrFormat1.ofAsn f) }
    | .format2 f => { ricIndHdrFormats := .format2 (IndHdrFormat2.ofAsn f) }
  | .indMsg => fun
    | .nothing => {}
    | .format1 f => { ricIndMsgFormats := .format1 (MsgFormat1.ofAsn f) }
    | .format2 subs =>
      { ricIndMsgFormats := .format2 { dappE3Subscriptions := subscriptionsOfAsn subs } }
  | .ctrlHdr => fun
    | .nothing => {}
    | .format1 f => { ricCtrlHdrFormats := CtrlHdrFormat1.ofAsn f }
  | .ctrlMsg => fun
    | .nothing => {}
    | .format1 f => { ricCtrlMsgFormats := MsgFormat1.ofAsn f }
  | .ctrlOutcome => fun
    | .nothing => {}
    | .format1 f => { ricCtrlOutcomeFormats := CtrlOutcomeFormat1.ofAsn f }
  | .ranFunctionDefinition => RanFunctionDefinition.ofAsn

theorem convert_yields (k : Kind) (s : k.Asn) :
    Yields (k.convert s) (k.InGrammar s) (k.ofAsn s) := by
  have nothing : ∀ {α : Type} {p : Prop} {v : α}, ¬ p → Yields none p v :=
    fun hp d => ⟨fun h => (nomatch h), fun h => absurd h.1 hp⟩
  cases k with
  | eventTrigger =>
    cases s with
    | nothing => exact nothing fun h => (nomatch h)
    | format1 => exact (Yields.pure _).congr (iff_of_true trivial rfl)
  | actionDefinition =>
    obtain ⟨styleType, _ | _⟩ := s
    · exact nothing fun h => (nomatch h)
    · exact (Yields.pure _).congr (iff_of_true trivial rfl)
  | indHdr =>
    cases s with
    | nothing => exact nothing id
    | format1 f => exact (IndHdrFormat1.fromAsn_yields f).map _
    | format2 f => exact (IndHdrFormat2.fromAsn_yields f).map _
  | indMsg =>
    cases s with
    | nothing => exact nothing id
    | format1 f => exact (getData_yields f).map _
    | format2 subs => exact (getSubs_yields subs).map _
  | ctrlHdr =>
    cases s with
    | nothing => exact nothing id
    | format1 f => exact (CtrlHdrFormat1.fromAsn_yields f).map _
  | ctrlMsg =>
    cases s with
    | nothing => exact nothing id
    | format1 f => exact (getData_yields f).map _
  | ctrlOutcome =>
    cases s with
    | nothing => exact nothing fun h => h rfl
    | format1 f =>
      exact ((CtrlOutcomeFormat1.fromAsn_yields f).map _).congr
        (iff_of_true trivial fun h => (nomatch h))
  | ranFunctionDefinition => exact RanFunctionDefinition.fromAsn_yields s

theorem toAsn_ofAsn (k : Kind) {s : k.Asn} (h : k.InGrammar s) : k.toAsn (k.ofAsn s) = s := by
  cases k with
  | eventTrigger => exact Eq.symm h
  | actionDefinition =>
    obtain ⟨styleType, _ | _⟩ := s
    · exact nomatch h
    · rfl
  | indHdr =>
    cases s with
    | nothing => exact h.elim
    | format1 f => exact congrArg _ (IndHdrFormat1.toAsn_ofAsn h)
    | format2 f => exact congrArg _ (IndHdrFormat2.toAsn_ofAsn h)
  | indMsg =>
    cases s with
    | nothing => exact h.elim
    | format1 f => exact congrArg _ (MsgFormat1.toAsn_ofAsn h)
    | format2 subs => exact congrArg _ (toAsn_subscriptionsOfAsn subs)
  | ctrlHdr =>
    cases s with
    | nothing => exact h.elim
    | format1 f => simp [toAsn, ofAsn, CtrlHdr.toAsn, CtrlHdrFormat1.ofAsn]
  | ctrlMsg =>
    cases s with
    | nothing => exact h.elim
    | format1 f => exact congrArg _ (MsgFormat1.toAsn_ofAsn h)
  | ctrlOutcome =>
    cases s with
    | nothing => exact absurd rfl h
    | format1 f => simp [toAsn, ofAsn, CtrlOutcome.toAsn, CtrlOutcomeFormat1.ofAsn]
  | ranFunctionDefinition => exact RanFunctionDefinition.toAsn_ofAsn s

theorem equal_ofAsn (k : Kind) (v : k.Cpp) : k.equal (k.ofAsn (k.toAsn v)) v = true := by
  cases k with
  | eventTrigger => rfl
  | actionDefinition => exact BEq.rfl (a := v.ricStyleType)
  | indHdr =>
    obtain ⟨ext, _ | f | f⟩ := v
    · rfl
    · exact f.beq_toAsn
    · exact f.beq_toAsn
  | indMsg =>
    obtain ⟨ext, _ | f | f⟩ := v
    · rfl
    · exact f.beq_toAsn
    · exact subscriptions_beq f.dappE3Subscriptions
  | ctrlHdr =>
    change (_ && _) = true
    simp only [ofAsn, toAsn, CtrlHdr.toAsn, CtrlHdrFormat1.ofAsn, isSome_given, given_getD_beq,
      BEq.rfl, Bool.and_self]
  | ctrlMsg => exact v.ricCtrlMsgFormats.beq_toAsn
  | ctrlOutcome =>
    change (_ && _) = true
    simp only [ofAsn, toAsn, CtrlOutcome.toAsn, CtrlOutcomeFormat1.ofAsn, isSome_given,
      given_getD_beq, BEq.rfl, Bool.and_self]
  | ranFunctionDefinition => exact v.beq_toAsn

theorem short_of_not_inGrammar (k : Kind) {s : k.Asn} (h : ¬ k.InGrammar s) : k.Short s := by
  cases k with
  | ctrlOutcome =>
    rintro f rfl
    exact absurd (fun hf => (nomatch hf)) h
  | _ => trivial

end Kind

/-! ## Bytes -/

/-- asn1c checks the constraints of the grammar, encodes every value of it, and reads it back. -/
structure AperType.Lossless {T : Type} (td : AperType T) (InGrammar : T → Prop) : Prop where
  check : ∀ s, td.checkConstraints s = true ↔ InGrammar s
  encode : ∀ s, InGrammar s → ∃ bytes, bytes ≠ [] ∧ td.encode s = ((bytes.length : ℤ), bytes)
    ∧ td.decode bytes = some s

variable {k : Kind} {td : AperType k.Asn}

theorem pack_of_none {v : k.Cpp} (h : k.fill v = none) (out : Bytes) :
    k.pack td v out = (.encodeFail, []) := by
  rw [k.pack_eq, h]
  rfl

/-- What is in the grammar and short is packed, into bytes that decode to what it stands for. -/
theorem pack_of_inGrammar (htd : td.Lossless k.InGrammar) {v : k.Cpp}
    (hv : k.InGrammar (k.toAsn v)) (hshort : k.Short (k.toAsn v)) :
    ∃ bytes, bytes ≠ [] ∧ td.decode bytes = some (k.toAsn v)
      ∧ ∀ out, k.pack td v out = (.success, bytes) := by
  obtain ⟨bytes, hne, hencode, hdecode⟩ := htd.encode _ hv
  refine ⟨bytes, hne, hdecode, fun out => ?_⟩
  rw [k.pack_eq, (k.fill_yields v).eq_some ⟨hv, hshort⟩]
  simp only [packPdu, encodePdu, (htd.check _).mpr hv, hencode, Bool.true_eq_false, if_false, hne]
  rw [if_neg (by simp)]

theorem pack_success_iff (htd : td.Lossless k.InGrammar) (v : k.Cpp) (out : Bytes) :
    (k.pack td v out).1 = .success ↔ k.InGrammar (k.toAsn v) ∧ k.Short (k.toAsn v) := by
  constructor
  · intro h
    by_contra hv
    rw [pack_of_none ((k.fill_yields v).eq_none hv)] at h
    cases h
  · rintro ⟨hv, hshort⟩
    obtain ⟨bytes, -, -, hpack⟩ := pack_of_inGrammar htd hv hshort
    rw [hpack]

theorem pack_failed (htd : td.Lossless k.InGrammar) {v : k.Cpp} {out : Bytes}
    (h : (k.pack td v out).1 ≠ .success) : (k.pack td v out).2 = [] := by
  rw [Ne, pack_success_iff htd] at h
  rw [pack_of_none ((k.fill_yields v).eq_none h)]

theorem unpack_of_decode {bytes : Bytes} (hne : bytes ≠ []) {s : k.Asn}
    (hdecode : td.decode bytes = some s) (hs : k.InGrammar s) (self : k.Cpp) :
    k.unpack td self (some bytes) = (.success, k.ofAsn s) := by
  rw [k.unpack_eq]
  cases bytes with
  | nil => exact absurd rfl hne
  | cons b bytes => simp only [unpackPdu, hdecode, (k.convert_yields s).eq_some hs]

theorem unpack_cases (td : AperType k.Asn) (self : k.Cpp) (data : Option Bytes) :
    k.unpack td self data = (.decodeFail, self)
      ∨ ∃ bytes s, data = some bytes ∧ bytes ≠ [] ∧ td.decode bytes = some s ∧ k.InGrammar s
        ∧ k.unpack td self data = (.success, k.ofAsn s) := by
  rw [k.unpack_eq]
  match data with
  | none => exact .inl rfl
  | some [] => exact .inl rfl
  | some (b :: bytes) =>
    cases hdecode : td.decode (b :: bytes) with
    | none =>
      left
      simp only [unpackPdu, hdecode]
    | some s =>
      cases hconvert : k.convert s with
      | none =>
        left
        simp only [unpackPdu, hdecode, hconvert]
      | some d =>
        right
        refine ⟨_, s, rfl, List.cons_ne_nil b bytes, hdecode, (k.convert_yields s).holds hconvert, ?_⟩
        simp only [unpackPdu, hdecode, hconvert, (k.convert_yields s).value hconvert]

/-! ## The law -/

structure PackLaw (td : AperType k.Asn) (v : k.Cpp) : Prop where
  accepts : ∀ out, (k.pack td v out).1 = .success ↔ k.InGrammar (k.toAsn v)
  readBack : ∀ out bytes self, k.pack td v out = (.success, bytes) →
    ∃ d, k.unpack td self (some bytes) = (.success, d) ∧ k.equal d v = true
  failed : ∀ out, (k.pack td v out).1 ≠ .success → (k.pack td v out).2 = []

structure UnpackLaw (td : AperType k.Asn) (data : Option Bytes) : Prop where
  packs : ∀ self d out, k.unpack td self data = (.success, d) → (k.pack td d out).1 = .success
  failed : ∀ self, (k.unpack td self data).1 ≠ .success → (k.unpack td self data).2 = self

theorem packLaw_iff (htd : td.Lossless k.InGrammar) (v : k.Cpp) :
    PackLaw td v ↔ k.Short (k.toAsn v) := by
  constructor
  · intro h
    by_cases hv : k.InGrammar (k.toAsn v)
    · exact ((pack_success_iff htd v []).mp ((h.accepts []).mpr hv)).2
    · exact k.short_of_not_inGrammar hv
  · intro hshort
    refine ⟨fun out => ?_, fun out bytes self hpack => ?_, fun out => pack_failed htd⟩
    · rw [pack_success_iff htd]
      exact ⟨And.left, fun hv => ⟨hv, hshort⟩⟩
    · have hsuccess : (k.pack td v out).1 = .success := by rw [hpack]
      obtain ⟨hv, hs⟩ := (pack_success_iff htd v out).mp hsuccess
      obtain ⟨bytes', hne, hdecode, hpack'⟩ := pack_of_inGrammar htd hv hs
      rw [hpack', Prod.mk.injEq] at hpack
      obtain rfl := hpack.2
      exact ⟨_, unpack_of_decode hne hdecode hv self, k.equal_ofAsn v⟩

theorem unpackLaw_iff (htd : td.Lossless k.InGrammar) (data : Option Bytes) :
    UnpackLaw td data ↔ ∀ bytes ∈ data, bytes ≠ [] → ∀ s ∈ td.decode bytes, k.Short s := by
  constructor
  · intro h bytes hdata hne s hs
    by_cases hg : k.InGrammar s
    · have hunpack := unpack_of_decode hne hs hg (k.ofAsn s)
      rw [← Option.mem_def.mp hdata] at hunpack
      have hsuccess := h.packs _ _ [] hunpack
      rw [pack_success_iff htd, k.toAsn_ofAsn hg] at hsuccess
      exact hsuccess.2
    · exact k.short_of_not_inGrammar hg
  · intro hshort
    refine ⟨fun self d out hunpack => ?_, fun self hfailed => ?_⟩
    · rcases unpack_cases td self data with hfail | ⟨bytes, s, hdata, hne, hdecode, hg, hok⟩
      · rw [hfail] at hunpack
        cases hunpack
      · rw [hok, Prod.mk.injEq] at hunpack
        obtain rfl := hunpack.2
        rw [pack_success_iff htd, k.toAsn_ofAsn hg]
        exact ⟨hg, hshort bytes hdata hne s hdecode⟩
    · rcases unpack_cases td self data with hfail | ⟨bytes, s, -, -, -, -, hok⟩
      · rw [hfail]
      · rw [hok] at hfailed
        exact absurd rfl hfailed

/-- For each of the eight types the law holds at the values, and at the byte strings, without an
outcome of more than `INT32_MAX` octets, and at no others. -/
theorem codec_law_iff (k : Kind) {td : AperType k.Asn} (htd : td.Lossless k.InGrammar) (v : k.Cpp)
    (data : Option Bytes) :
    (PackLaw td v ↔ k.Short (k.toAsn v))
      ∧ (UnpackLaw td data ↔ ∀ bytes ∈ data, bytes ≠ [] → ∀ s ∈ td.decode bytes, k.Short s) :=
  ⟨packLaw_iff htd v, unpackLaw_iff htd data⟩

/-! ### A control message -/

def twoOctets (n : ℕ) : Bytes := [UInt8.ofNat (n / 256), UInt8.ofNat (n % 256)]

/-- The aligned encoding of a control message: an octet with the extension bits, the data size, the
length less one, and the data. -/
def ctrlMsgAper : AperType Asn.ControlMessage where
  checkConstraints
    | .nothing => false
    | .format1 f => decide (0 ≤ f.dataSize.toInt ∧ f.dataSize.toInt ≤ 32768 ∧ 1 ≤ f.data.length
      ∧ f.data.length ≤ 32768)
  encode
    | .nothing => (-1, [])
    | .format1 f =>
      let out := 0 :: twoOctets f.dataSize.toInt.toNat ++ twoOctets (f.data.length - 1) ++ f.data
      (out.length, out)
  decode
    | 0 :: a :: b :: c :: d :: rest =>
      let size := a.toNat * 256 + b.toNat
      let length := c.toNat * 256 + d.toNat + 1
      if size ≤ 32768 ∧ length ≤ 32768 ∧ length ≤ rest.length then
        some (.format1 ⟨Int64.ofNat size, rest.take length⟩)
      else none
    | _ => none

theorem twoOctets_value {n : ℕ} (h : n < 65536) :
    (UInt8.ofNat (n / 256)).toNat * 256 + (UInt8.ofNat (n % 256)).toNat = n := by
  rw [UInt8.toNat_ofNat_of_lt' (show n / 256 < 256 by omega),
    UInt8.toNat_ofNat_of_lt' (show n % 256 < 256 by omega)]
  omega

theorem ctrlMsgAper_lossless : ctrlMsgAper.Lossless (Kind.InGrammar .ctrlMsg) := by
  constructor
  · rintro (_ | f)
    · exact ⟨fun h => (nomatch h), False.elim⟩
    · rw [show ctrlMsgAper.checkConstraints (.format1 f) = decide _ from rfl, decide_eq_true_eq]
      show _ ↔ IsInteger 32768 f.dataSize ∧ _
      rw [IsInteger, and_assoc]
  · rintro (_ | f) h
    · exact h.elim
    · obtain ⟨⟨hzero, hle⟩, hpos, hlen⟩ : IsInteger 32768 f.dataSize ∧ 1 ≤ f.data.length
        ∧ f.data.length ≤ 32768 := h
      refine ⟨_, List.cons_ne_nil _ _, rfl, ?_⟩
      show ctrlMsgAper.decode (0 :: _ :: _ :: _ :: _ :: f.data) = _
      simp only [ctrlMsgAper, twoOctets_value (show f.dataSize.toInt.toNat < 65536 by omega),
        twoOctets_value (show f.data.length - 1 < 65536 by omega), Nat.sub_add_cancel hpos]
      rw [if_pos ⟨by omega, hlen, Nat.le_refl _⟩, ofNat_toInt ⟨hzero, hle⟩, List.take_length]

def shortMessage : CtrlMsg := { ricCtrlMsgFormats := { dataSize := 3, data := [1, 2, 3] } }

theorem shortMessage_law : ctrlMsgAper.Lossless (Kind.InGrammar .ctrlMsg)
    ∧ CtrlMsg.pack ctrlMsgAper shortMessage [] = (.success, [0, 0, 3, 0, 2, 1, 2, 3])
    ∧ PackLaw (k := .ctrlMsg) ctrlMsgAper shortMessage
    ∧ UnpackLaw (k := .ctrlMsg) ctrlMsgAper (some [0, 0, 3, 0, 2, 1, 2, 3, 0x99]) := by
  have h := codec_law_iff .ctrlMsg ctrlMsgAper_lossless shortMessage
    (some [0, 0, 3, 0, 2, 1, 2, 3, 0x99])
  refine ⟨ctrlMsgAper_lossless, by decide +kernel, h.1.mpr trivial, h.2.mpr ?_⟩
  exact fun _ _ _ _ _ => trivial

def longOutcome : CtrlOutcome :=
  { ricCtrlOutcomeFormats :=
      { e3CtrlOutcomePresent := true, e3CtrlOutcome := List.replicate 2147483648 0 } }

/-- An outcome of `2 ^ 31` octets is in the grammar, which has no bound, and is not packed. -/
theorem longOutcome_refused : Kind.InGrammar .ctrlOutcome longOutcome.toAsn
    ∧ (∀ td, CtrlOutcome.pack td longOutcome [] = (.encodeFail, []))
    ∧ Kind.convert .ctrlOutcome longOutcome.toAsn = some longOutcome := by
  refine ⟨fun h => (nomatch h), fun td => ?_, rfl⟩
  refine pack_of_none (k := .ctrlOutcome) ((Kind.fill_yields .ctrlOutcome longOutcome).eq_none ?_) []
  rintro ⟨-, hshort⟩
  have hle : (List.replicate 2147483648 (0 : UInt8)).length ≤ int32Max := hshort _ rfl _ rfl
  rw [List.length_replicate] at hle
  exact absurd hle (by decide)

end LibE3.E2smDapp
