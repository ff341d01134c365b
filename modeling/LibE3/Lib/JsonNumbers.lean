import LibE3.Lib.Json
import Mathlib.Algebra.Group.Int.Defs
import Mathlib.Algebra.Group.Nat.Defs
import Mathlib.Data.List.TakeWhile
import Mathlib.Tactic.SplitIfs

/-!
# Numbers in JSON text

A `Numeral` has the parts of a number and its text, and `readNumeral` reads one. An integer that
fits is held as it is; a `FloatFormat` says how a library converts the other numbers.
-/

namespace Json

def isDigit (c : UInt8) : Bool := 0x30 ≤ c && c ≤ 0x39

/-- A run of digits, and the value it stands for. -/
def IsDigits (ds : List UInt8) : Prop := ds ≠ [] ∧ ∀ c ∈ ds, isDigit c = true

def digitsValue (ds : List UInt8) : ℕ := ds.foldl (fun acc c => acc * 10 + (c.toNat - 0x30)) 0

structure Exponent where
  mark : UInt8
  sign : List UInt8
  digits : List UInt8

def Exponent.text (e : Exponent) : List UInt8 := e.mark :: (e.sign ++ e.digits)

structure Exponent.Valid (e : Exponent) : Prop where
  mark : e.mark = 0x65 ∨ e.mark = 0x45
  sign : e.sign = [] ∨ e.sign = [0x2B] ∨ e.sign = [0x2D]
  digits : IsDigits e.digits

/-- The parts of a number. -/
structure Numeral where
  negative : Bool
  digits : List UInt8
  fraction : Option (List UInt8)
  exponent : Option Exponent

namespace Numeral

def fractionText : Option (List UInt8) → List UInt8
  | none => []
  | some ds => 0x2E :: ds

def exponentText : Option Exponent → List UInt8
  | none => []
  | some e => e.text

def text (n : Numeral) : List UInt8 :=
  (if n.negative then [0x2D] else []) ++
    (n.digits ++ (fractionText n.fraction ++ exponentText n.exponent))

/-- No leading zero, and digits in each part that is there. -/
structure Valid (n : Numeral) : Prop where
  digits : IsDigits n.digits
  leading : n.digits.head? = some 0x30 → n.digits = [0x30]
  fraction : ∀ ds ∈ n.fraction, IsDigits ds
  exponent : ∀ e ∈ n.exponent, e.Valid

end Numeral

/-! ## Reading -/

def readDigits (s : List UInt8) : Option (List UInt8 × List UInt8) :=
  if s.takeWhile isDigit = [] then none else some (s.takeWhile isDigit, s.dropWhile isDigit)

def readMinus : List UInt8 → Bool × List UInt8
  | [] => (false, [])
  | c :: s => if c = 0x2D then (true, s) else (false, c :: s)

def readInteger : List UInt8 → Option (List UInt8 × List UInt8)
  | [] => none
  | c :: s => if c = 0x30 then some ([c], s) else readDigits (c :: s)

def readFraction : List UInt8 → Option (Option (List UInt8) × List UInt8)
  | [] => some (none, [])
  | c :: s =>
    if c = 0x2E then (readDigits s).map fun p => (some p.1, p.2) else some (none, c :: s)

def readSign : List UInt8 → List UInt8 × List UInt8
  | [] => ([], [])
  | c :: s => if c = 0x2B ∨ c = 0x2D then ([c], s) else ([], c :: s)

def readExponent : List UInt8 → Option (Option Exponent × List UInt8)
  | [] => some (none, [])
  | c :: s =>
    if c = 0x65 ∨ c = 0x45 then
      (readDigits (readSign s).2).map fun p => (some ⟨c, (readSign s).1, p.1⟩, p.2)
    else some (none, c :: s)

def readNumeral (s : List UInt8) : Option (Numeral × List UInt8) :=
  (readInteger (readMinus s).2).bind fun p =>
    (readFraction p.2).bind fun q =>
      (readExponent q.2).map fun e => (⟨(readMinus s).1, p.1, q.1, e.1⟩, e.2)

/-! ### What is read is a numeral -/

theorem exists_digits {s ds r : List UInt8} (h : readDigits s = some (ds, r)) :
    IsDigits ds ∧ s = ds ++ r := by
  unfold readDigits at h
  split_ifs at h with hnil
  obtain ⟨rfl, rfl⟩ := Prod.mk.inj (Option.some.inj h)
  exact ⟨⟨hnil, fun c hc => List.mem_takeWhile_imp hc⟩, List.takeWhile_append_dropWhile.symm⟩

theorem readMinus_text (s : List UInt8) :
    s = (if (readMinus s).1 then [0x2D] else []) ++ (readMinus s).2 := by
  rcases s with _ | ⟨c, s⟩
  · rfl
  · by_cases hc : c = 0x2D
    · simp [readMinus, hc]
    · simp [readMinus, hc]

theorem exists_integer {s ds r : List UInt8} (h : readInteger s = some (ds, r)) :
    IsDigits ds ∧ (ds.head? = some 0x30 → ds = [0x30]) ∧ s = ds ++ r := by
  rcases s with _ | ⟨c, s⟩
  · cases h
  · rw [readInteger] at h
    split_ifs at h with hc
    · obtain ⟨rfl, rfl⟩ := Prod.mk.inj (Option.some.inj h)
      subst hc
      exact ⟨⟨by simp, by simp [isDigit]⟩, fun _ => rfl, rfl⟩
    · obtain ⟨hds, hs⟩ := exists_digits h
      refine ⟨hds, fun hhead => ?_, hs⟩
      rcases ds with _ | ⟨d, ds⟩
      · cases hhead
      · exact absurd ((List.cons.inj hs).1.trans (Option.some.inj hhead)) hc

theorem exists_fraction {s r : List UInt8} {f : Option (List UInt8)}
    (h : readFraction s = some (f, r)) :
    (∀ ds ∈ f, IsDigits ds) ∧ s = Numeral.fractionText f ++ r := by
  rcases s with _ | ⟨c, s⟩
  · obtain ⟨rfl, rfl⟩ := Prod.mk.inj (Option.some.inj h)
    exact ⟨by simp, rfl⟩
  · rw [readFraction] at h
    split_ifs at h with hc
    · obtain ⟨⟨ds, r'⟩, hds, hp⟩ := Option.map_eq_some_iff.mp h
      obtain ⟨rfl, rfl⟩ := Prod.mk.inj hp
      obtain ⟨hdigits, rfl⟩ := exists_digits hds
      exact ⟨by simpa using hdigits, by rw [hc]; rfl⟩
    · obtain ⟨rfl, rfl⟩ := Prod.mk.inj (Option.some.inj h)
      exact ⟨by simp, rfl⟩

theorem readSign_text (s : List UInt8) :
    ((readSign s).1 = [] ∨ (readSign s).1 = [0x2B] ∨ (readSign s).1 = [0x2D])
      ∧ s = (readSign s).1 ++ (readSign s).2 := by
  rcases s with _ | ⟨c, s⟩
  · exact ⟨.inl rfl, rfl⟩
  · rw [readSign]
    split_ifs with hc
    · exact ⟨.inr (hc.imp (congrArg (· :: [])) (congrArg (· :: []))), rfl⟩
    · exact ⟨.inl rfl, rfl⟩

theorem exists_exponent {s r : List UInt8} {e : Option Exponent}
    (h : readExponent s = some (e, r)) :
    (∀ x ∈ e, x.Valid) ∧ s = Numeral.exponentText e ++ r := by
  rcases s with _ | ⟨c, s⟩
  · obtain ⟨rfl, rfl⟩ := Prod.mk.inj (Option.some.inj h)
    exact ⟨by simp, rfl⟩
  · rw [readExponent] at h
    split_ifs at h with hc
    · obtain ⟨⟨ds, r'⟩, hds, hp⟩ := Option.map_eq_some_iff.mp h
      obtain ⟨rfl, rfl⟩ := Prod.mk.inj hp
      obtain ⟨hdigits, hrest⟩ := exists_digits hds
      obtain ⟨hsign, hs⟩ := readSign_text s
      refine ⟨fun x hx => ?_, ?_⟩
      · obtain rfl := Option.some.inj hx
        exact ⟨hc, hsign, hdigits⟩
      · conv_lhs => rw [hs, hrest]
        simp [Numeral.exponentText, Exponent.text]
    · obtain ⟨rfl, rfl⟩ := Prod.mk.inj (Option.some.inj h)
      exact ⟨by simp, rfl⟩

theorem exists_numeral {s r : List UInt8} {n : Numeral} (h : readNumeral s = some (n, r)) :
    n.Valid ∧ s = n.text ++ r := by
  obtain ⟨⟨ds, r₁⟩, hint, h⟩ := Option.bind_eq_some_iff.mp h
  obtain ⟨⟨f, r₂⟩, hfrac, h⟩ := Option.bind_eq_some_iff.mp h
  obtain ⟨⟨e, r₃⟩, hexp, hp⟩ := Option.map_eq_some_iff.mp h
  obtain ⟨rfl, rfl⟩ := Prod.mk.inj hp
  obtain ⟨hdigits, hleading, hs⟩ := exists_integer hint
  obtain ⟨hfraction, rfl⟩ := exists_fraction hfrac
  obtain ⟨hexponent, rfl⟩ := exists_exponent hexp
  refine ⟨⟨hdigits, hleading, hfraction, hexponent⟩, ?_⟩
  conv_lhs => rw [readMinus_text s, hs]
  simp only [Numeral.text, List.append_assoc]

/-! ### A numeral is read -/

def NoDigit (r : List UInt8) : Prop := ∀ c ∈ r.head?, isDigit c = false

/-- What can follow a number without being read as a part of it. -/
def Ends (r : List UInt8) : Prop :=
  ∀ c ∈ r.head?, isDigit c = false ∧ c ≠ 0x2E ∧ c ≠ 0x65 ∧ c ≠ 0x45

theorem ends_nil : Ends [] := by simp [Ends]

variable {r : List UInt8}

theorem Ends.noDigit (h : Ends r) : NoDigit r := fun c hc => (h c hc).1

theorem readDigits_append {ds r : List UInt8} (hds : IsDigits ds) (hr : NoDigit r) :
    readDigits (ds ++ r) = some (ds, r) := by
  have hnone : r.takeWhile isDigit = [] ∧ r.dropWhile isDigit = r := by
    rcases r with _ | ⟨c, r⟩
    · exact ⟨rfl, rfl⟩
    · have hc := hr c rfl
      simp [hc]
  rw [readDigits, List.takeWhile_append_of_pos hds.2, List.dropWhile_append_of_pos hds.2,
    hnone.1, hnone.2, List.append_nil, if_neg hds.1]

theorem readInteger_append {ds r : List UInt8} (hds : IsDigits ds)
    (hleading : ds.head? = some 0x30 → ds = [0x30]) (hr : NoDigit r) :
    readInteger (ds ++ r) = some (ds, r) := by
  rcases ds with _ | ⟨d, ds⟩
  · exact absurd rfl hds.1
  · rw [List.cons_append, readInteger]
    split_ifs with hd
    · rw [hd] at hleading ⊢
      obtain rfl := (List.cons.inj (hleading rfl)).2
      rfl
    · exact readDigits_append hds hr

theorem readFraction_append {f : Option (List UInt8)} (hf : ∀ ds ∈ f, IsDigits ds) (hr : NoDigit r)
    (hpoint : f = none → r.head? ≠ some 0x2E) :
    readFraction (Numeral.fractionText f ++ r) = some (f, r) := by
  rcases f with _ | ds
  · rcases r with _ | ⟨c, r⟩
    · rfl
    · rw [Numeral.fractionText, List.nil_append, readFraction,
        if_neg fun hc => hpoint rfl (by rw [hc]; rfl)]
  · rw [Numeral.fractionText, List.cons_append, readFraction, if_pos rfl,
      readDigits_append (hf ds rfl) hr]
    rfl

theorem readSign_append {g ds r : List UInt8} (hg : g = [] ∨ g = [0x2B] ∨ g = [0x2D])
    (hds : IsDigits ds) : readSign (g ++ (ds ++ r)) = (g, ds ++ r) := by
  rcases hg with rfl | rfl | rfl
  · rcases ds with _ | ⟨d, ds⟩
    · exact absurd rfl hds.1
    · have hd := hds.2 d List.mem_cons_self
      rw [List.nil_append, List.cons_append, readSign, if_neg]
      rintro (rfl | rfl) <;> simp [isDigit] at hd
  · rfl
  · rfl

theorem readExponent_append {e : Option Exponent} (he : ∀ x ∈ e, x.Valid) (hr : Ends r) :
    readExponent (Numeral.exponentText e ++ r) = some (e, r) := by
  rcases e with _ | e
  · rcases r with _ | ⟨c, r⟩
    · rfl
    · obtain ⟨-, -, hc, hc'⟩ := hr c rfl
      rw [Numeral.exponentText, List.nil_append, readExponent, if_neg]
      rintro (h | h)
      · exact hc h
      · exact hc' h
  · obtain ⟨hmark, hsign, hdigits⟩ := he e rfl
    rw [Numeral.exponentText, Exponent.text, List.cons_append, List.append_assoc, readExponent,
      if_pos hmark, readSign_append hsign hdigits, readDigits_append hdigits hr.noDigit]
    rfl

/-- A fraction or an exponent does not start with a digit, and neither does what follows them. -/
theorem noDigit_exponent {e : Option Exponent} (he : ∀ x ∈ e, x.Valid) (hr : Ends r) :
    NoDigit (Numeral.exponentText e ++ r)
      ∧ (Numeral.exponentText e ++ r).head? ≠ some 0x2E := by
  rcases e with _ | e
  · exact ⟨hr.noDigit, fun h => (hr _ h).2.1 rfl⟩
  · have hmark := (he e rfl).mark
    simp only [NoDigit, Numeral.exponentText, Exponent.text, List.cons_append, List.head?_cons]
    rcases hmark with h | h <;> simp [h, isDigit]

theorem noDigit_fraction {f : Option (List UInt8)} (hr : NoDigit r) :
    NoDigit (Numeral.fractionText f ++ r) := by
  rcases f with _ | ds
  · exact hr
  · simp [NoDigit, Numeral.fractionText, isDigit]

theorem readMinus_append {n : Bool} {ds r : List UInt8} (hds : IsDigits ds) :
    readMinus ((if n then [0x2D] else []) ++ (ds ++ r)) = (n, ds ++ r) := by
  cases n
  · rcases ds with _ | ⟨d, ds⟩
    · exact absurd rfl hds.1
    · have hd := hds.2 d List.mem_cons_self
      simp only [Bool.false_eq_true, if_false, List.nil_append, List.cons_append, readMinus]
      rw [if_neg]
      rintro rfl
      simp [isDigit] at hd
  · rfl

theorem Numeral.Valid.readNumeral {n : Numeral} (h : n.Valid) (hr : Ends r) :
    readNumeral (n.text ++ r) = some (n, r) := by
  obtain ⟨hexp, hpoint⟩ := noDigit_exponent h.exponent hr
  rw [Json.readNumeral, Numeral.text]
  simp only [List.append_assoc]
  rw [readMinus_append h.digits]
  simp only [readInteger_append h.digits h.leading (noDigit_fraction hexp), Option.bind_some,
    readFraction_append h.fraction hexp fun _ => hpoint, readExponent_append h.exponent hr,
    Option.map_some]

theorem Numeral.Valid.mem_text {n : Numeral} (h : n.Valid) {c : UInt8} (hc : c ∈ n.text) :
    isDigit c = true ∨ c = 0x2D ∨ c = 0x2B ∨ c = 0x2E ∨ c = 0x65 ∨ c = 0x45 := by
  simp only [Numeral.text, List.mem_append] at hc
  rcases hc with hc | hc | hc | hc
  · cases hn : n.negative <;> simp [hn] at hc
    simp [hc]
  · exact .inl (h.digits.2 c hc)
  · rcases hf : n.fraction with _ | ds
    · simp [hf, fractionText] at hc
    · rw [hf, fractionText, List.mem_cons] at hc
      rcases hc with rfl | hc
      · simp
      · exact .inl ((h.fraction ds hf).2 c hc)
  · rcases he : n.exponent with _ | e
    · simp [he, exponentText] at hc
    · obtain ⟨hmark, hsign, hdigits⟩ := h.exponent e he
      rw [he, exponentText, Exponent.text, List.mem_cons, List.mem_append] at hc
      rcases hc with rfl | hc | hc
      · rcases hmark with hm | hm <;> simp [hm]
      · rcases hsign with hg | hg | hg <;> simp [hg] at hc <;> simp [hc]
      · exact .inl (hdigits.2 c hc)

/-! ## Values -/

/-- How a library converts the numbers that it does not hold as integers, as the bits of a
`double`: the number nearest to a text, the numeral a number is written as, and its integer part.
What it reads it writes so that it reads it again. -/
structure FloatFormat where
  value : List UInt8 → Option UInt64
  numeral : UInt64 → Numeral
  truncate : UInt64 → ℤ
  valid : ∀ {s b}, value s = some b → (numeral b).Valid
  written : ∀ {s b}, value s = some b → (numeral b).fraction ≠ none ∨ (numeral b).exponent ≠ none
  value_text : ∀ {s b}, value s = some b → value (numeral b).text = some b

/-- A format that reads no number with a fraction or an exponent. -/
def noFloats : FloatFormat where
  value _ := none
  numeral _ := ⟨false, [0x30], none, none⟩
  truncate _ := 0
  valid h := nomatch h
  written h := nomatch h
  value_text h := nomatch h

/-- The value of a number. An integer that is not negative is held without a sign: a library that
keeps `-0` apart compares it equal to `0` and writes it the same. -/
def Numeral.value (fmt : FloatFormat) (n : Numeral) : Option Json :=
  if n.fraction = none ∧ n.exponent = none then
    if n.negative = false ∧ digitsValue n.digits < 2 ^ 64 then
      some (.unsigned (digitsValue n.digits))
    else if n.negative = true ∧ digitsValue n.digits = 0 then some (.unsigned 0)
    else if n.negative = true ∧ digitsValue n.digits ≤ 2 ^ 63 then
      some (.integer (-(digitsValue n.digits : ℤ)))
    else (fmt.value n.text).map .float
  else (fmt.value n.text).map .float

/-! ## Writing -/

def digit (d : ℕ) : UInt8 := (0x30 + d).toUInt8

def decimal (n : ℕ) : List UInt8 :=
  if n < 10 then [digit n] else decimal (n / 10) ++ [digit (n % 10)]
termination_by n

theorem isDigit_digit : ∀ d < 10, isDigit (digit d) = true := by decide

theorem toNat_digit : ∀ d < 10, (digit d).toNat - 0x30 = d := by decide

theorem isDigits_decimal (n : ℕ) : IsDigits (decimal n) := by
  rw [decimal]
  split_ifs with h
  · exact ⟨by simp, by simpa using isDigit_digit n h⟩
  · obtain ⟨-, hall⟩ := isDigits_decimal (n / 10)
    refine ⟨by simp, fun c hc => ?_⟩
    rcases List.mem_append.mp hc with hc | hc
    · exact hall c hc
    · rw [List.mem_singleton.mp hc]
      exact isDigit_digit _ (by omega)
termination_by n

theorem digitsValue_decimal (n : ℕ) : digitsValue (decimal n) = n := by
  rw [decimal]
  split_ifs with h
  · simp [digitsValue, toNat_digit n h]
  · have hrec := digitsValue_decimal (n / 10)
    rw [digitsValue] at hrec ⊢
    rw [List.foldl_append, hrec, List.foldl_cons, List.foldl_nil, toNat_digit _ (by omega)]
    omega
termination_by n

theorem head_digit : ∀ d < 10, digit d = 0x30 → d = 0 := by decide

theorem head_decimal (n : ℕ) (h : (decimal n).head? = some 0x30) : n = 0 := by
  rw [decimal] at h
  split_ifs at h with hn
  · exact head_digit n hn (Option.some.inj h)
  · rcases hd : decimal (n / 10) with _ | ⟨d, ds⟩
    · exact absurd hd (isDigits_decimal (n / 10)).1
    · rw [hd, List.cons_append, List.head?_cons] at h
      have hzero := head_decimal (n / 10) (by rw [hd]; exact h)
      omega
termination_by n

/-- The numeral of an integer. -/
def integerNumeral (negative : Bool) (n : ℕ) : Numeral := ⟨negative, decimal n, none, none⟩

theorem valid_integerNumeral (negative : Bool) (n : ℕ) : (integerNumeral negative n).Valid where
  digits := isDigits_decimal n
  leading h := by
    rw [integerNumeral] at h ⊢
    rw [head_decimal n h]
    simp [decimal, digit]
  fraction := by simp [integerNumeral]
  exponent := by simp [integerNumeral]

theorem value_unsigned (fmt : FloatFormat) {n : ℕ} (h : n < 2 ^ 64) :
    (integerNumeral false n).value fmt = some (.unsigned n) := by
  simp only [Numeral.value, integerNumeral, digitsValue_decimal]
  rw [if_pos ⟨trivial, trivial⟩, if_pos ⟨trivial, h⟩]

theorem value_integer (fmt : FloatFormat) {n : ℕ} (hpos : n ≠ 0) (h : n ≤ 2 ^ 63) :
    (integerNumeral true n).value fmt = some (.integer (-(n : ℤ))) := by
  simp only [Numeral.value, integerNumeral, digitsValue_decimal]
  rw [if_pos ⟨trivial, trivial⟩, if_neg (by simp), if_neg (by simp [hpos]), if_pos ⟨trivial, h⟩]

end Json
