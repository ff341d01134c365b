import LibE3.Encoder.Asn1
import LibE3.Lib.Json
import Mathlib.Algebra.Group.Nat.Defs
import Mathlib.Tactic.SplitIfs

/-!
# The check of UTF-8

`is_utf8` takes the texts that are valid UTF-8 and no others. The check reads a character at a time:
the bytes that pass it as a character of their length are those that `String.utf8EncodeChar` gives.
-/

namespace LibE3

/-! ## The bits of a character -/

theorem toNat_bits (b : UInt8) {mask : UInt8} {k : ℕ} (h : mask.toNat = 2 ^ k - 1) :
    (b &&& mask).toUInt32.toNat = b.toNat % 2 ^ k := by
  rw [UInt8.toNat_toUInt32, UInt8.toNat_and, h]
  exact Nat.and_two_pow_sub_one_eq_mod b.toNat k

theorem isContinuation_iff : ∀ x : BitVec 8,
    x &&& 0xC0#8 = 0x80#8 ↔ 0x80#8 ≤ x ∧ x < 0xC0#8 := by
  decide

theorem isContinuation_iff_toNat (b : UInt8) :
    b &&& 0xC0 = 0x80 ↔ 128 ≤ b.toNat ∧ b.toNat < 192 := by
  rw [← UInt8.toBitVec_inj]
  exact isContinuation_iff b.toBitVec

theorem toNat_codePoint_step {cp : UInt32} {b : UInt8} (h : cp.toNat < 2 ^ 26) :
    (cp <<< 6 ||| (b &&& 0x3F).toUInt32).toNat = cp.toNat * 64 + b.toNat % 64 := by
  have hlow : b.toNat % 2 ^ 6 < 2 ^ 6 := Nat.mod_lt _ (by decide)
  have hshift : (cp <<< 6).toNat = cp.toNat <<< 6 := by
    rw [UInt32.toNat_shiftLeft, Nat.shiftLeft_eq, Nat.shiftLeft_eq]
    exact Nat.mod_eq_of_lt (show cp.toNat * 2 ^ 6 < 2 ^ 32 by omega)
  have hor : (cp <<< 6 ||| (b &&& 0x3F).toUInt32).toNat = cp.toNat * 2 ^ 6 + b.toNat % 2 ^ 6 := by
    rw [UInt32.toNat_or, toNat_bits (k := 6) b rfl, hshift, ← Nat.shiftLeft_add_eq_or_of_lt hlow,
      Nat.shiftLeft_eq]
  exact hor

theorem isCharacter_iff {len : ℕ} {bits : UInt8} {continuation : Bytes} {v : ℕ}
    (hcp : (codePoint bits continuation).toNat = v) :
    isCharacter len bits continuation = true
      ↔ (∀ b ∈ continuation, 128 ≤ b.toNat ∧ b.toNat < 192) ∧ (len = 3 → 0x800 ≤ v)
        ∧ (len = 4 → 0x10000 ≤ v ∧ v ≤ 0x10FFFF) ∧ (v < 0xD800 ∨ 0xDFFF < v) := by
  rw [isCharacter, Bool.and_eq_true, List.all_eq_true, Bool.not_eq_true']
  simp only [Bool.or_eq_false_iff, Bool.and_eq_false_iff, decide_eq_false_iff_not,
    decide_eq_true_eq, UInt32.lt_iff_toNat_lt, UInt32.le_iff_toNat_le, gt_iff_lt, hcp,
    UInt32.reduceToNat, isContinuation_iff_toNat]
  refine and_congr_right fun _ => ?_
  omega

theorem toNat_codePoint_two (c b : UInt8) :
    (codePoint (c &&& 0x1F) [b]).toNat = c.toNat % 32 * 64 + b.toNat % 64 := by
  have hbits : (c &&& 0x1F).toUInt32.toNat = c.toNat % 32 := toNat_bits (k := 5) c rfl
  rw [codePoint, List.foldl_cons, List.foldl_nil, toNat_codePoint_step (by omega), hbits]

theorem toNat_codePoint_three (c b₁ b₂ : UInt8) :
    (codePoint (c &&& 0x0F) [b₁, b₂]).toNat
      = (c.toNat % 16 * 64 + b₁.toNat % 64) * 64 + b₂.toNat % 64 := by
  have hbits : (c &&& 0x0F).toUInt32.toNat = c.toNat % 16 := toNat_bits (k := 4) c rfl
  have hstep := toNat_codePoint_step (b := b₁) (show (c &&& 0x0F).toUInt32.toNat < 2 ^ 26 by omega)
  rw [codePoint, List.foldl_cons, List.foldl_cons, List.foldl_nil,
    toNat_codePoint_step (by omega), hstep, hbits]

theorem toNat_codePoint_four (c b₁ b₂ b₃ : UInt8) :
    (codePoint (c &&& 0x07) [b₁, b₂, b₃]).toNat
      = ((c.toNat % 8 * 64 + b₁.toNat % 64) * 64 + b₂.toNat % 64) * 64 + b₃.toNat % 64 := by
  have hbits : (c &&& 0x07).toUInt32.toNat = c.toNat % 8 := toNat_bits (k := 3) c rfl
  have hstep₁ := toNat_codePoint_step (b := b₁) (show (c &&& 0x07).toUInt32.toNat < 2 ^ 26 by omega)
  have hstep₂ := toNat_codePoint_step (b := b₂)
    (show ((c &&& 0x07).toUInt32 <<< 6 ||| (b₁ &&& 0x3F).toUInt32).toNat < 2 ^ 26 by omega)
  rw [codePoint, List.foldl_cons, List.foldl_cons, List.foldl_cons, List.foldl_nil,
    toNat_codePoint_step (by omega), hstep₂, hstep₁, hbits]

/-! ## Encodings -/

theorem toNat_byte {n : ℕ} (h : n < 256) : (UInt8.ofNat n).toNat = n := by
  rw [UInt8.toNat_ofNat', Nat.mod_eq_of_lt h]

/-- The bytes of the number `v` in UTF-8. -/
def Encoded (v : ℕ) : Bytes → Prop
  | [c] => v < 0x80 ∧ c.toNat = v
  | [c, b] => (0x80 ≤ v ∧ v ≤ 0x7FF) ∧ c.toNat = v / 64 + 0xC0 ∧ b.toNat = v % 64 + 0x80
  | [c, b₁, b₂] => (0x800 ≤ v ∧ v ≤ 0xFFFF) ∧ c.toNat = v / 4096 + 0xE0
      ∧ b₁.toNat = v / 64 % 64 + 0x80 ∧ b₂.toNat = v % 64 + 0x80
  | [c, b₁, b₂, b₃] => (0x10000 ≤ v ∧ v ≤ 0x10FFFF) ∧ c.toNat = v / 262144 + 0xF0
      ∧ b₁.toNat = v / 4096 % 64 + 0x80 ∧ b₂.toNat = v / 64 % 64 + 0x80
      ∧ b₃.toNat = v % 64 + 0x80
  | _ => False

theorem encoded_utf8EncodeChar (ch : Char) : Encoded ch.val.toNat (String.utf8EncodeChar ch) := by
  have hvalid : ch.val.toNat < 0xD800 ∨ 0xDFFF < ch.val.toNat ∧ ch.val.toNat < 0x110000 := ch.valid
  unfold String.utf8EncodeChar
  dsimp only
  split_ifs with h1 h2 h3 <;> dsimp only [Encoded]
  · rw [toNat_byte (by omega)]
    omega
  · rw [toNat_byte (by omega), toNat_byte (by omega)]
    omega
  · rw [toNat_byte (by omega), toNat_byte (by omega), toNat_byte (by omega)]
    omega
  · rw [toNat_byte (by omega), toNat_byte (by omega), toNat_byte (by omega),
      toNat_byte (by omega)]
    omega

theorem Encoded.unique {v : ℕ} {s t : Bytes} (hs : Encoded v s) (ht : Encoded v t) : s = t := by
  unfold Encoded at hs ht
  split at hs <;> split at ht <;>
    first
      | exact hs.elim
      | exact ht.elim
      | omega
      | (simp only [List.cons.injEq, ← UInt8.toNat_inj, and_true]; omega)

theorem exists_utf8EncodeChar_iff {s : Bytes} :
    (∃ ch : Char, String.utf8EncodeChar ch = s) ↔ ∃ v, v.isValidChar ∧ Encoded v s := by
  constructor
  · rintro ⟨ch, rfl⟩
    exact ⟨ch.val.toNat, ch.valid, encoded_utf8EncodeChar ch⟩
  · rintro ⟨v, hv, hs⟩
    exact ⟨Char.ofNatAux v hv, (encoded_utf8EncodeChar _).unique hs⟩

/-! ## One character -/

/-- A first byte of two and a byte that pass the check are a character; so for three and four. -/
theorem character_two_iff {c b : UInt8} :
    (194 ≤ c.toNat ∧ c.toNat ≤ 223) ∧ isCharacter 2 (c &&& 0x1F) [b] = true
      ↔ ∃ ch : Char, String.utf8EncodeChar ch = [c, b] := by
  rw [isCharacter_iff (toNat_codePoint_two c b), List.forall_mem_singleton,
    exists_utf8EncodeChar_iff]
  constructor
  · rintro ⟨hc, hb, -, -, -⟩
    refine ⟨c.toNat % 32 * 64 + b.toNat % 64, ?_, ?_⟩ <;> dsimp only [Nat.isValidChar, Encoded] <;>
      omega
  · rintro ⟨v, hv, hrange, hc, hb⟩
    omega

theorem character_three_iff {c b₁ b₂ : UInt8} :
    (224 ≤ c.toNat ∧ c.toNat ≤ 239) ∧ isCharacter 3 (c &&& 0x0F) [b₁, b₂] = true
      ↔ ∃ ch : Char, String.utf8EncodeChar ch = [c, b₁, b₂] := by
  rw [isCharacter_iff (toNat_codePoint_three c b₁ b₂), List.forall_mem_cons,
    List.forall_mem_singleton, exists_utf8EncodeChar_iff]
  constructor
  · rintro ⟨hc, hb, hlow, -, hscalar⟩
    have := hlow rfl
    refine ⟨(c.toNat % 16 * 64 + b₁.toNat % 64) * 64 + b₂.toNat % 64, ?_, ?_⟩ <;>
      dsimp only [Nat.isValidChar, Encoded] <;> omega
  · rintro ⟨v, hv, hrange, hc, hb₁, hb₂⟩
    unfold Nat.isValidChar at hv
    omega

theorem character_four_iff {c b₁ b₂ b₃ : UInt8} :
    (240 ≤ c.toNat ∧ c.toNat ≤ 244) ∧ isCharacter 4 (c &&& 0x07) [b₁, b₂, b₃] = true
      ↔ ∃ ch : Char, String.utf8EncodeChar ch = [c, b₁, b₂, b₃] := by
  rw [isCharacter_iff (toNat_codePoint_four c b₁ b₂ b₃), List.forall_mem_cons,
    List.forall_mem_cons, List.forall_mem_singleton, exists_utf8EncodeChar_iff]
  constructor
  · rintro ⟨hc, hb, -, hhigh, -⟩
    have := hhigh rfl
    refine ⟨((c.toNat % 8 * 64 + b₁.toNat % 64) * 64 + b₂.toNat % 64) * 64 + b₃.toNat % 64,
      ?_, ?_⟩ <;> dsimp only [Nat.isValidChar, Encoded] <;> omega
  · rintro ⟨v, hv, hrange, hc, hb₁, hb₂, hb₃⟩
    omega

theorem isUtf8_cons (c : UInt8) (rest : Bytes) : isUtf8 (c :: rest) =
    if c.toNat < 128 then isUtf8 rest
    else if 194 ≤ c.toNat ∧ c.toNat ≤ 223 then
      match rest with
      | b₁ :: rest => isCharacter 2 (c &&& 0x1F) [b₁] && isUtf8 rest
      | _ => false
    else if 224 ≤ c.toNat ∧ c.toNat ≤ 239 then
      match rest with
      | b₁ :: b₂ :: rest => isCharacter 3 (c &&& 0x0F) [b₁, b₂] && isUtf8 rest
      | _ => false
    else if 240 ≤ c.toNat ∧ c.toNat ≤ 244 then
      match rest with
      | b₁ :: b₂ :: b₃ :: rest => isCharacter 4 (c &&& 0x07) [b₁, b₂, b₃] && isUtf8 rest
      | _ => false
    else false := by
  rw [isUtf8.eq_def]
  rfl

theorem isUtf8_utf8EncodeChar (ch : Char) (s : Bytes) :
    isUtf8 (String.utf8EncodeChar ch ++ s) = isUtf8 s := by
  have hencoded := encoded_utf8EncodeChar ch
  rcases hbytes : String.utf8EncodeChar ch
    with _ | ⟨c, _ | ⟨b₁, _ | ⟨b₂, _ | ⟨b₃, _ | ⟨b, t⟩⟩⟩⟩⟩ <;> rw [hbytes] at hencoded
  · exact hencoded.elim
  · obtain ⟨hv, hc⟩ := hencoded
    rw [List.singleton_append, isUtf8_cons, if_pos (by omega)]
  · obtain ⟨hc, hchar⟩ := character_two_iff.mpr ⟨ch, hbytes⟩
    rw [List.cons_append, List.singleton_append, isUtf8_cons, if_neg (by omega), if_pos hc]
    dsimp only
    rw [hchar, Bool.true_and]
  · obtain ⟨hc, hchar⟩ := character_three_iff.mpr ⟨ch, hbytes⟩
    rw [List.cons_append, List.cons_append, List.singleton_append, isUtf8_cons, if_neg (by omega),
      if_neg (by omega), if_pos hc]
    dsimp only
    rw [hchar, Bool.true_and]
  · obtain ⟨hc, hchar⟩ := character_four_iff.mpr ⟨ch, hbytes⟩
    rw [List.cons_append, List.cons_append, List.cons_append, List.singleton_append, isUtf8_cons,
      if_neg (by omega), if_neg (by omega), if_neg (by omega), if_pos hc]
    dsimp only
    rw [hchar, Bool.true_and]
  · exact hencoded.elim

theorem isUtf8_flatMap : ∀ chars : List Char, isUtf8 (chars.flatMap String.utf8EncodeChar) = true
  | [] => rfl
  | c :: chars => by
    rw [List.flatMap_cons, isUtf8_utf8EncodeChar]
    exact isUtf8_flatMap chars

theorem exists_char_of_isUtf8 {c : UInt8} {rest : Bytes} (h : isUtf8 (c :: rest) = true) :
    ∃ (ch : Char) (s : Bytes), c :: rest = String.utf8EncodeChar ch ++ s ∧ isUtf8 s = true := by
  rw [isUtf8_cons] at h
  split_ifs at h with h1 h2 h3 h4
  · obtain ⟨ch, hch⟩ := exists_utf8EncodeChar_iff.mpr
      (show ∃ v, v.isValidChar ∧ Encoded v [c] from ⟨c.toNat, .inl (by omega), by omega, rfl⟩)
    exact ⟨ch, rest, by rw [hch]; rfl, h⟩
  · rcases rest with _ | ⟨b₁, s⟩
    · cases h
    · obtain ⟨hchar, hs⟩ := Bool.and_eq_true_iff.mp h
      obtain ⟨ch, hch⟩ := character_two_iff.mp ⟨h2, hchar⟩
      exact ⟨ch, s, by rw [hch]; rfl, hs⟩
  · rcases rest with _ | ⟨b₁, _ | ⟨b₂, s⟩⟩
    · cases h
    · cases h
    · obtain ⟨hchar, hs⟩ := Bool.and_eq_true_iff.mp h
      obtain ⟨ch, hch⟩ := character_three_iff.mp ⟨h3, hchar⟩
      exact ⟨ch, s, by rw [hch]; rfl, hs⟩
  · rcases rest with _ | ⟨b₁, _ | ⟨b₂, _ | ⟨b₃, s⟩⟩⟩
    · cases h
    · cases h
    · cases h
    · obtain ⟨hchar, hs⟩ := Bool.and_eq_true_iff.mp h
      obtain ⟨ch, hch⟩ := character_four_iff.mp ⟨h4, hchar⟩
      exact ⟨ch, s, by rw [hch]; rfl, hs⟩

theorem exists_chars_of_isUtf8 {s : Bytes} (h : isUtf8 s = true) :
    ∃ chars : List Char, s = chars.flatMap String.utf8EncodeChar := by
  induction hlen : s.length using Nat.strong_induction_on generalizing s with
  | _ n ih =>
    rcases s with _ | ⟨c, rest⟩
    · exact ⟨[], rfl⟩
    · obtain ⟨ch, t, hsplit, ht⟩ := exists_char_of_isUtf8 h
      have hlt : t.length < n := by
        have hpos := ch.utf8Size_pos
        have hlength := congrArg List.length hsplit
        rw [List.length_append, String.length_utf8EncodeChar] at hlength
        omega
      obtain ⟨chars, rfl⟩ := ih t.length hlt ht rfl
      exact ⟨ch :: chars, by rw [hsplit, List.flatMap_cons]⟩

theorem exists_chars_of_validUtf8 {s : Bytes} (h : Json.validUtf8 s = true) :
    ∃ chars : List Char, s = chars.flatMap String.utf8EncodeChar := by
  obtain ⟨chars, hchars⟩ := ByteArray.validateUTF8_eq_true_iff.mp h
  have hdata := congrArg (fun b : ByteArray => b.data.toList) hchars
  exact ⟨chars, by simpa [List.utf8Encode] using hdata⟩

theorem isUtf8_of_validUtf8 {s : Bytes} (h : Json.validUtf8 s = true) : isUtf8 s = true := by
  obtain ⟨chars, rfl⟩ := exists_chars_of_validUtf8 h
  exact isUtf8_flatMap chars

end LibE3
