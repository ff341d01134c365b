import LibE3.Lib.JsonText
import Mathlib.Algebra.Order.Floor.Ring
import Mathlib.Data.Rat.Floor
import Mathlib.Tactic.FieldSimp
import Mathlib.Tactic.Linarith
import Mathlib.Tactic.NormNum

/-!
# The number in a text

A numeral stands for a rational number. A library holds this number when it is an integer that fits,
and otherwise what it rounds to: a format `Rounds` if it keeps the order between the numbers and the
integers that a `double` can hold.
-/

namespace Json

/-! ## Numerals -/

def Exponent.value (e : Exponent) : ℤ :=
  if e.sign = [0x2D] then -(digitsValue e.digits : ℤ) else digitsValue e.digits

namespace Numeral

/-- The digits behind the point. -/
def fractionDigits (n : Numeral) : List UInt8 := n.fraction.getD []

def exponentValue (n : Numeral) : ℤ := (n.exponent.map Exponent.value).getD 0

/-- The number that a numeral stands for. -/
def rational (n : Numeral) : ℚ :=
  (if n.negative then -1 else 1) * digitsValue (n.digits ++ n.fractionDigits) *
    10 ^ (n.exponentValue - n.fractionDigits.length)

theorem rational_of_integer {n : Numeral} (hf : n.fraction = none) (he : n.exponent = none) :
    n.rational = (if n.negative then -1 else 1) * digitsValue n.digits := by
  simp [rational, fractionDigits, exponentValue, hf, he]

theorem Valid.text_inj {n n' : Numeral} (h : n.Valid) (h' : n'.Valid) (htext : n.text = n'.text) :
    n = n' := by
  have hread := h.readNumeral ends_nil
  rw [htext, h'.readNumeral ends_nil] at hread
  exact (Prod.mk.inj (Option.some.inj hread)).1.symm

variable {fmt : FloatFormat} {n : Numeral} {j : Json}

/-- An integer that is held as such is the number that was written, and every other number is
converted. -/
theorem value_cases (h : n.value fmt = some j) :
    (∃ k : ℕ, j = .unsigned k ∧ n.rational = k) ∨ (∃ i : ℤ, j = .integer i ∧ n.rational = i) ∨
      ∃ b, j = .float b ∧ fmt.value n.text = some b := by
  unfold value at h
  by_cases hinteger : n.fraction = none ∧ n.exponent = none
  · rw [if_pos hinteger] at h
    have hrational := rational_of_integer hinteger.1 hinteger.2
    split_ifs at h with hpos hzero hneg
    · obtain rfl := Option.some.inj h
      exact .inl ⟨_, rfl, by simp [hrational, hpos.1]⟩
    · obtain rfl := Option.some.inj h
      exact .inl ⟨_, rfl, by simp [hrational, hzero.2]⟩
    · obtain rfl := Option.some.inj h
      exact .inr (.inl ⟨_, rfl, by simp [hrational, hneg.1]⟩)
    · obtain ⟨b, hb, rfl⟩ := Option.map_eq_some_iff.mp h
      exact .inr (.inr ⟨b, rfl, hb⟩)
  · rw [if_neg hinteger] at h
    obtain ⟨b, hb, rfl⟩ := Option.map_eq_some_iff.mp h
    exact .inr (.inr ⟨b, rfl, hb⟩)

end Numeral

/-- The text is of the number `q`. -/
def Writes (t : List UInt8) (q : ℚ) : Prop :=
  ∃ n : Numeral, n.Valid ∧ n.text = t ∧ n.rational = q

theorem writes_text {n : Numeral} (h : n.Valid) {q : ℚ} : Writes n.text q ↔ n.rational = q := by
  constructor
  · rintro ⟨n', hn', htext, hq⟩
    rw [← hn'.text_inj h htext, hq]
  · exact fun hq => ⟨n, h, rfl, hq⟩

theorem not_writes_boolText (b : Bool) (q : ℚ) : ¬ Writes (boolText b) q := by
  rintro ⟨n, hn, htext, -⟩
  obtain ⟨c, t, ht, hc⟩ := hn.head
  rw [ht] at htext
  cases b <;> obtain rfl := (List.cons.inj htext).1 <;> simp [isDigit] at hc

/-! ## Rounding -/

/-- An integer that a `double` holds: one of 53 bits, times a power of two. -/
def IsDouble (k : ℤ) : Prop := ∃ (m : ℤ) (e : ℕ), |m| ≤ 2 ^ 53 ∧ k = m * 2 ^ e

theorem isDouble_of_le {k : ℕ} (h : k ≤ 2 ^ 53) : IsDouble k :=
  ⟨k, 0, by rw [Nat.abs_cast]; exact_mod_cast h, by simp⟩

theorem isDouble_two_pow (e : ℕ) : IsDouble (2 ^ e) := ⟨1, e, by norm_num, by simp⟩

/-- The integer part of a number that is converted is on the same side of every integer that a
`double` holds. -/
structure FloatFormat.Rounds (fmt : FloatFormat) : Prop where
  le_truncate : ∀ {n : Numeral} {b k}, n.Valid → fmt.value n.text = some b → IsDouble k →
    (k : ℚ) ≤ n.rational → k ≤ fmt.truncate b
  truncate_le : ∀ {n : Numeral} {b k}, n.Valid → fmt.value n.text = some b → IsDouble k →
    n.rational ≤ k → fmt.truncate b ≤ k

/-! ## A format that rounds -/

/-- The whole number as a numeral with a fraction. -/
def wholeNumeral (k : ℕ) : Numeral := ⟨false, decimal k, some [0x30], none⟩

theorem valid_wholeNumeral (k : ℕ) : (wholeNumeral k).Valid where
  digits := isDigits_decimal k
  leading := (valid_integerNumeral false k).leading
  fraction := by simp [wholeNumeral, IsDigits, isDigit]
  exponent := by simp [wholeNumeral]

theorem rational_wholeNumeral (k : ℕ) : (wholeNumeral k).rational = k := by
  have hdigits : digitsValue (decimal k ++ [0x30]) = k * 10 := by
    have hk := digitsValue_decimal k
    rw [digitsValue] at hk ⊢
    rw [List.foldl_append, hk]
    simp
  simp [Numeral.rational, Numeral.fractionDigits, Numeral.exponentValue, wholeNumeral, hdigits]

/-- The integer part of a number that is not negative and has at most 53 bits before the point. -/
def wholePart (n : Numeral) : Option UInt64 :=
  if 0 ≤ n.rational ∧ n.rational < 2 ^ 53 then some (UInt64.ofNat ⌊n.rational⌋.toNat) else none

theorem toNat_wholePart {n : Numeral} {b : UInt64} (h : wholePart n = some b) :
    (b.toNat : ℤ) = ⌊n.rational⌋ ∧ b.toNat < 2 ^ 53 := by
  unfold wholePart at h
  split_ifs at h with hn
  obtain rfl := Option.some.inj h
  have hpos : 0 ≤ ⌊n.rational⌋ := Int.floor_nonneg.mpr hn.1
  have hlt : ⌊n.rational⌋ < 2 ^ 53 := Int.floor_lt.mpr (by exact_mod_cast hn.2)
  rw [UInt64.toNat_ofNat', Nat.mod_eq_of_lt (by omega)]
  omega

/-- A format that keeps the integer parts. -/
def wholeParts : FloatFormat where
  value s := (readNumeral s).bind fun p => if p.2 = [] then wholePart p.1 else none
  numeral b := wholeNumeral b.toNat
  truncate b := b.toNat
  valid {_ b} _ := valid_wholeNumeral b.toNat
  written _ := .inl (by simp [wholeNumeral])
  value_text {s b} h := by
    obtain ⟨⟨n, r⟩, -, h⟩ := Option.bind_eq_some_iff.mp h
    split_ifs at h
    have hlt : (b.toNat : ℚ) < 2 ^ 53 := by exact_mod_cast (toNat_wholePart h).2
    have hread := (valid_wholeNumeral b.toNat).readNumeral ends_nil
    rw [List.append_nil] at hread
    rw [hread, Option.bind_some, if_pos rfl, wholePart, rational_wholeNumeral,
      if_pos ⟨Nat.cast_nonneg _, hlt⟩]
    simp

theorem wholeParts_value {n : Numeral} (hn : n.Valid) :
    wholeParts.value n.text = wholePart n := by
  have hread := hn.readNumeral ends_nil
  rw [List.append_nil] at hread
  simp [wholeParts, hread]

theorem wholeParts_rounds : wholeParts.Rounds where
  le_truncate {n b k} hn hb _ hk := by
    rw [wholeParts_value hn] at hb
    exact (Int.le_floor.mpr hk).trans (toNat_wholePart hb).1.ge
  truncate_le {n b k} hn hb _ hk := by
    rw [wholeParts_value hn] at hb
    refine (toNat_wholePart hb).1.le.trans ?_
    exact_mod_cast (Int.floor_le n.rational).trans hk

end Json
