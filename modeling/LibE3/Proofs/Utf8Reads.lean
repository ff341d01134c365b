import LibE3.Encoder.Reads
import LibE3.Proofs.Utf8

/-!
# The check of UTF-8 reads only the bytes it is given

`is_utf8` gets a pointer and a length. It reads no byte at or behind the length, ends, and says
whether the bytes up to the length are valid UTF-8.
-/

namespace LibE3.Reads

open Faults

variable {fuel : ℕ} {text : Bytes} {size : ℕ}

/-- What the loop over the continuation bytes makes of those that are left. -/
def continued (cp : UInt32) : Bytes → Option UInt32
  | [] => some cp
  | b :: bs => if b &&& 0xC0 = 0x80 then continued (cp <<< 6 ||| (b &&& 0x3F).toUInt32) bs else none

theorem continued_eq_foldl (cp : UInt32) (bs : Bytes) :
    continued cp bs = if bs.all (fun b => b &&& 0xC0 = 0x80) then
        some (bs.foldl (fun (cp : UInt32) b => cp <<< 6 ||| (b &&& 0x3F).toUInt32) cp)
      else none := by
  induction bs generalizing cp with
  | nil => rfl
  | cons b bs ih =>
    rw [continued, ih]
    by_cases hb : b &&& 0xC0 = 0x80 <;> simp [hb]

theorem continued_eq (bits : UInt8) (bs : Bytes) :
    continued bits.toUInt32 bs = if bs.all (fun b => b &&& 0xC0 = 0x80) then
        some (codePoint bits bs)
      else none :=
  continued_eq_foldl bits.toUInt32 bs

theorem continuation_eq {i len : ℕ} {cp : UInt32} (hlen : i + len ≤ (text.take size).length)
    (hfuel : len < fuel) :
    loop (continuationTurn text size i len) fuel (1, cp)
      = .ok (continued cp (((text.take size).drop (i + 1)).take (len - 1))) := by
  refine loop_eq (s := (1, cp)) (μ := fun s => len - s.1)
    (f := fun s => continued s.2 (((text.take size).drop (i + s.1)).take (len - s.1)))
    (fun s => ?_) (by dsimp only; omega)
  obtain ⟨k, cp⟩ := s
  rw [continuationTurn]
  by_cases hk : k < len
  · have hlt : i + k < (text.take size).length := by omega
    have hbytes : ((text.take size).drop (i + k)).take (len - k)
        = (text.take size)[i + k]
          :: ((text.take size).drop (i + (k + 1))).take (len - (k + 1)) := by
      rw [List.drop_eq_getElem_cons hlt, show len - k = len - (k + 1) + 1 by omega,
        List.take_succ_cons]
      rfl
    have heq := congrArg (continued cp) hbytes
    rw [continued] at heq
    rw [if_pos hk, byteAt, read_of_lt hlt, ok_bind, ite_not]
    split_ifs at heq ⊢
    · exact ⟨by dsimp only; omega, heq⟩
    · exact heq
  · rw [if_neg hk]
    show continued cp (((text.take size).drop (i + k)).take (len - k)) = some cp
    rw [show len - k = 0 by omega, List.take_zero, continued]

theorem characterTurn_eq {i len : ℕ} (bits : UInt8) (hsize : size ≤ text.length)
    (hfuel : size < fuel) :
    characterTurn fuel text size i len bits
      = .ok (if i + len ≤ size
          ∧ isCharacter len bits (((text.take size).drop (i + 1)).take (len - 1)) = true then
            .running (i + len)
          else .returned false) := by
  rw [characterTurn]
  by_cases hlen : i + len ≤ size
  · have hgiven : (text.take size).length = size := List.length_take_of_le hsize
    rw [if_neg (by omega), continuation_eq (by omega) (by omega), ok_bind, continued_eq]
    simp only [hlen, true_and, isCharacter]
    generalize ((text.take size).drop (i + 1)).take (len - 1) = bs
    generalize codePoint bits bs = cp
    rcases hall : bs.all (fun b => b &&& 0xC0 = 0x80) with _ | _
    · rfl
    · rw [if_pos rfl, Bool.true_and, Bool.or_assoc]
      simp only [← Bool.decide_and, ← Bool.decide_or, Bool.not_eq_true', decide_eq_false_iff_not]
      split_ifs
      · rfl
      · rfl
  · rw [if_pos (by omega), if_neg (by omega)]
    rfl

/-- The check of a text whose first byte starts a character of `len` bytes. -/
def checkCharacter (len : ℕ) (bits : UInt8) (rest : Bytes) : Bool :=
  decide (len ≤ rest.length + 1) && isCharacter len bits (rest.take (len - 1))
    && LibE3.isUtf8 (rest.drop (len - 1))

theorem isUtf8_eq (c : UInt8) (rest : Bytes) : LibE3.isUtf8 (c :: rest) =
    if c < 0x80 then LibE3.isUtf8 rest
    else if 0xC2 ≤ c ∧ c ≤ 0xDF then checkCharacter 2 (c &&& 0x1F) rest
    else if 0xE0 ≤ c ∧ c ≤ 0xEF then checkCharacter 3 (c &&& 0x0F) rest
    else if 0xF0 ≤ c ∧ c ≤ 0xF4 then checkCharacter 4 (c &&& 0x07) rest
    else false := by
  rw [LibE3.isUtf8.eq_def]
  dsimp only
  split_ifs
  · rfl
  · rcases rest with _ | ⟨b₁, rest⟩ <;> simp [checkCharacter]
  · rcases rest with _ | ⟨b₁, _ | ⟨b₂, rest⟩⟩ <;> simp [checkCharacter]
  · rcases rest with _ | ⟨b₁, _ | ⟨b₂, _ | ⟨b₃, rest⟩⟩⟩ <;> simp [checkCharacter]
  · rfl

theorem characterTurn_keeps {i len : ℕ} {bits : UInt8} (hsize : size ≤ text.length)
    (hfuel : size < fuel) (hi : i < size) (hlen : 0 < len)
    (hcheck : LibE3.isUtf8 ((text.take size).drop i)
      = checkCharacter len bits ((text.take size).drop (i + 1))) :
    Keeps (fun i => LibE3.isUtf8 ((text.take size).drop i)) (fun i => size - i) i
      (characterTurn fuel text size i len bits) := by
  have hfits : len ≤ ((text.take size).drop (i + 1)).length + 1 ↔ i + len ≤ size := by
    rw [List.length_drop, List.length_take_of_le hsize]
    omega
  rw [checkCharacter, List.drop_drop, show i + 1 + (len - 1) = i + len by omega] at hcheck
  rw [characterTurn_eq bits hsize hfuel]
  split_ifs with hpass
  · obtain ⟨hle, hchar⟩ := hpass
    rw [hchar, decide_eq_true (hfits.mpr hle), Bool.and_self, Bool.true_and] at hcheck
    exact ⟨by dsimp only; omega, hcheck⟩
  · refine hcheck.trans ?_
    rw [Bool.and_eq_false_iff, Bool.and_eq_false_iff, decide_eq_false_iff_not, hfits]
    rcases not_and_or.mp hpass with hle | hchar
    · exact .inl (.inl hle)
    · exact .inl (.inr (Bool.eq_false_iff.mpr hchar))

theorem isUtf8_reads (hsize : size ≤ text.length) (hfuel : size < fuel) :
    isUtf8 fuel text size = .ok (LibE3.isUtf8 (text.take size)) := by
  have hgiven : (text.take size).length = size := List.length_take_of_le hsize
  refine loop_eq (s := 0) (μ := fun i => size - i)
    (f := fun i => LibE3.isUtf8 ((text.take size).drop i)) (fun i => ?_) (by omega)
  rw [utf8Turn]
  by_cases hi : i < size
  · have hlt : i < (text.take size).length := by omega
    have hcheck := isUtf8_eq (text.take size)[i] ((text.take size).drop (i + 1))
    rw [← List.drop_eq_getElem_cons hlt] at hcheck
    rw [if_pos hi, byteAt, read_of_lt hlt, ok_bind]
    simp only [ge_iff_le]
    split_ifs at hcheck ⊢
    · exact ⟨by dsimp only; omega, hcheck⟩
    · exact characterTurn_keeps hsize hfuel hi (by omega) hcheck
    · exact characterTurn_keeps hsize hfuel hi (by omega) hcheck
    · exact characterTurn_keeps hsize hfuel hi (by omega) hcheck
    · exact hcheck
  · rw [if_neg hi]
    show LibE3.isUtf8 ((text.take size).drop i) = true
    rw [List.drop_eq_nil_of_le (by omega), LibE3.isUtf8]

/-- Given the length of some bytes, whatever stands behind them in memory, the check ends without a
read behind them, and they pass it exactly when they are the encodings of Unicode scalar values one
after the other. -/
theorem isUtf8_exact (bytes beyond : Bytes) (fuel : ℕ) (hfuel : bytes.length < fuel) :
    ∃ valid : Bool, Reads.isUtf8 fuel (bytes ++ beyond) bytes.length = .ok valid
      ∧ (valid = true ↔ ∃ chars : List Char, bytes = chars.flatMap String.utf8EncodeChar) := by
  have hsize : bytes.length ≤ (bytes ++ beyond).length := by simp
  have hreads := isUtf8_reads hsize hfuel
  rw [List.take_left] at hreads
  refine ⟨_, hreads, exists_chars_of_isUtf8, ?_⟩
  rintro ⟨chars, rfl⟩
  exact isUtf8_flatMap chars

/-- One character of two bytes, with a byte behind it that is no UTF-8. -/
theorem isUtf8_exact_two :
    ([0xC3, 0xA9] : Bytes).length < 3 ∧ Reads.isUtf8 3 [0xC3, 0xA9, 0xFF] 2 = .ok true := by
  refine ⟨by decide, ?_⟩
  obtain ⟨valid, hcheck, hvalid⟩ := isUtf8_exact [0xC3, 0xA9] [0xFF] 3 (by decide)
  exact hcheck.trans (congrArg Except.ok (hvalid.mpr ⟨['é'], by decide⟩))

end LibE3.Reads
