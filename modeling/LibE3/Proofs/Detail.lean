import LibE3.Proofs.Encoders
import LibE3.Proofs.Utf8

/-!
# Long details

A detail is cut to 512 bytes, and the cut is moved back over continuation bytes. In UTF-8 every byte
but the first one of a character is one, so the cut stops at the last boundary between two
characters.
-/

namespace LibE3

def utf8 (chars : List Char) : Bytes := chars.flatMap String.utf8EncodeChar

/-- The first `n` bytes of the text are whole characters, and so is the rest. -/
def IsBoundary (t : Bytes) (n : ℕ) : Prop :=
  n ≤ t.length ∧ (∃ before, t.take n = utf8 before) ∧ ∃ after, t.drop n = utf8 after

def IsContinuation (b : UInt8) : Prop := b &&& 0xC0 = 0x80

instance (b : UInt8) : Decidable (IsContinuation b) := inferInstanceAs (Decidable (_ = _))

theorem utf8_append (l r : List Char) : utf8 (l ++ r) = utf8 l ++ utf8 r := List.flatMap_append

theorem validUtf8_utf8 (chars : List Char) : Json.validUtf8 (utf8 chars) = true := by
  refine ByteArray.validateUTF8_eq_true_iff.mpr ⟨chars, ?_⟩
  ext1
  simp [List.utf8Encode, utf8]

/-! ## Continuation bytes -/

theorem exists_utf8EncodeChar (c : Char) : ∃ b bs, String.utf8EncodeChar c = b :: bs
    ∧ ¬ IsContinuation b ∧ (∀ b' ∈ bs, IsContinuation b') ∧ bs.length < 4 := by
  have hencoded := encoded_utf8EncodeChar c
  unfold Encoded at hencoded
  split at hencoded
  case h_5 => exact hencoded.elim
  all_goals
    refine ⟨_, _, ‹_ = _›, ?_⟩
    simp only [IsContinuation, isContinuation_iff_toNat, List.forall_mem_cons, List.length_cons,
      List.length_nil, List.not_mem_nil, false_implies, implies_true, and_true, true_and]
    omega

theorem head_utf8 (chars : List Char) {b : UInt8} (h : (utf8 chars)[0]? = some b) :
    ¬ IsContinuation b := by
  rcases chars with _ | ⟨c, chars⟩
  · simp [utf8] at h
  · obtain ⟨b', bs, henc, hb', -, -⟩ := exists_utf8EncodeChar c
    simp [utf8, henc] at h
    exact h ▸ hb'

/-! ## Boundaries -/

theorem IsBoundary.not_isContinuation {t : Bytes} {n : ℕ} (h : IsBoundary t n) {b : UInt8}
    (hb : t[n]? = some b) : ¬ IsContinuation b := by
  obtain ⟨-, -, after, hafter⟩ := h
  refine head_utf8 after ?_
  rw [← hafter]
  simpa using hb

theorem isBoundary_utf8 : ∀ (chars : List Char) {n : ℕ}, n ≤ (utf8 chars).length →
    (∀ b, (utf8 chars)[n]? = some b → ¬ IsContinuation b) → IsBoundary (utf8 chars) n
  | [], n, hn, _ => by
    simp [utf8] at hn
    exact ⟨by simp [hn], ⟨[], by simp [utf8]⟩, [], by simp [utf8]⟩
  | c :: chars, n, hn, h => by
    obtain ⟨b, bs, henc, -, hbs, -⟩ := exists_utf8EncodeChar c
    have hsplit : utf8 (c :: chars) = (b :: bs) ++ utf8 chars := by simp [utf8, henc]
    rcases Nat.eq_zero_or_pos n with rfl | hpos
    · exact ⟨by simp, ⟨[], by simp [utf8]⟩, c :: chars, by simp⟩
    · -- inside the first character every byte is a continuation
      have hle : (b :: bs).length ≤ n := by
        by_contra hlt
        have hget : (utf8 (c :: chars))[n]? = bs[n - 1]? := by
          rw [hsplit, List.getElem?_append_left (by omega)]
          rcases n with _ | n
          · omega
          · simp
        have hin : n - 1 < bs.length := by
          simp at hlt
          omega
        rw [List.getElem?_eq_getElem hin] at hget
        exact h _ hget (hbs _ (List.getElem_mem hin))
      obtain ⟨m, rfl⟩ := Nat.exists_eq_add_of_le hle
      have hm : m ≤ (utf8 chars).length := by
        rw [hsplit, List.length_append] at hn
        omega
      have hrest : ∀ b', (utf8 chars)[m]? = some b' → ¬ IsContinuation b' := by
        intro b' hb'
        refine h b' ?_
        rw [hsplit, List.getElem?_append_right (by omega)]
        simpa using hb'
      obtain ⟨-, ⟨before, hbefore⟩, after, hafter⟩ := isBoundary_utf8 chars hm hrest
      refine ⟨hn, ⟨c :: before, ?_⟩, after, ?_⟩
      · rw [hsplit, List.take_length_add_append, hbefore]
        simp [utf8, henc]
      · rw [hsplit, List.drop_length_add_append, hafter]

/-! ## The cut -/

/-- The cut stops where no character is continued, and at no earlier place than it has to. -/
theorem cutDetail_spec (t : Bytes) : ∀ n : ℕ, n ≤ t.length →
    (cutDetail t n = 0 ∨ ∀ b, t[cutDetail t n]? = some b → ¬ IsContinuation b)
      ∧ ∀ m, cutDetail t n < m → m ≤ n → ∃ b, t[m]? = some b ∧ IsContinuation b
  | 0, _ => by
    refine ⟨.inl rfl, fun m hm hle => ?_⟩
    omega
  | n + 1, hn => by
    unfold cutDetail
    rcases hb : t[n + 1]? with _ | b
    · refine ⟨.inr fun b hb' => ?_, fun m hm hle => ?_⟩
      · simp [hb] at hb'
      · simp only [] at hm
        omega
    · simp only []
      split_ifs with hc
      · obtain ⟨hstop, hskip⟩ := cutDetail_spec t n (by omega)
        refine ⟨hstop, fun m hm hle => ?_⟩
        rcases Nat.lt_or_ge n m with hlt | hge
        · obtain rfl : m = n + 1 := by omega
          exact ⟨b, hb, hc⟩
        · exact hskip m hm hge
      · refine ⟨.inr fun b' hb' => ?_, fun m hm hle => ?_⟩
        · rw [hb] at hb'
          exact Option.some.inj hb' ▸ hc
        · omega

theorem isBoundary_cutDetail (chars : List Char) {n : ℕ} (hn : n ≤ (utf8 chars).length) :
    IsBoundary (utf8 chars) (cutDetail (utf8 chars) n)
      ∧ ∀ m ≤ n, IsBoundary (utf8 chars) m → m ≤ cutDetail (utf8 chars) n := by
  obtain ⟨hstop, hskip⟩ := cutDetail_spec (utf8 chars) n hn
  refine ⟨isBoundary_utf8 chars ((cutDetail_le _ n).trans hn) ?_, fun m hm hbound => ?_⟩
  · rcases hstop with hzero | hstop
    · rw [hzero]
      exact fun b hb => head_utf8 chars hb
    · exact hstop
  · by_contra hlt
    obtain ⟨b, hb, hc⟩ := hskip m (by omega) hm
    exact hbound.not_isContinuation hb hc

theorem isBoundary_first (c : Char) (chars : List Char) :
    IsBoundary (utf8 (c :: chars)) (String.utf8EncodeChar c).length := by
  have hsplit : utf8 (c :: chars) = String.utf8EncodeChar c ++ utf8 chars := by simp [utf8]
  rw [hsplit]
  exact ⟨by simp, ⟨[c], by simp [utf8]⟩, chars, by simp⟩

theorem cutDetail_pos {chars : List Char} (h : chars ≠ []) {n : ℕ} (hn : 4 ≤ n) :
    0 < cutDetail (utf8 chars) (min (utf8 chars).length n) := by
  rcases chars with _ | ⟨c, chars⟩
  · exact absurd rfl h
  · obtain ⟨b, bs, henc, -, -, hlen⟩ := exists_utf8EncodeChar c
    have hfirst := isBoundary_first c chars
    have hle := hfirst.1
    have hmax := (isBoundary_cutDetail (c :: chars) (Nat.min_le_left _ n)).2 _
      (Nat.le_min.mpr ⟨hle, by simp [henc]; omega⟩) hfirst
    simp [henc] at hmax
    omega

/-- For every text of valid UTF-8, the detail that is written is the longest part from its start
that has at most 512 bytes and ends between two characters (there is none for an empty text). It is
valid UTF-8, it is not empty unless the text is, and it is read as it was written. -/
theorem detail_shortened {t : Bytes} (h : Json.validUtf8 t = true) :
    ∃ n, setDetail (some t) = (if t = [] then none else some (t.take n))
      ∧ n ≤ maxDetailSize ∧ IsBoundary t n ∧ (∀ m ≤ maxDetailSize, IsBoundary t m → m ≤ n)
      ∧ Json.validUtf8 (t.take n) = true ∧ (t ≠ [] → t.take n ≠ [])
      ∧ getDetail (setDetail (some t)) = setDetail (some t) := by
  obtain ⟨chars, ht⟩ := exists_chars_of_validUtf8 h
  change t = utf8 chars at ht
  subst ht
  set n := cutDetail (utf8 chars) (min (utf8 chars).length maxDetailSize) with hn
  obtain ⟨hbound, hmax⟩ := isBoundary_cutDetail chars (Nat.min_le_left _ maxDetailSize)
  rw [← hn] at hbound hmax
  have hlen := hbound.1
  obtain ⟨before, hbefore⟩ := hbound.2.1
  have hvalid : Json.validUtf8 ((utf8 chars).take n) = true := hbefore ▸ validUtf8_utf8 before
  have hne : utf8 chars ≠ [] → (utf8 chars).take n ≠ [] := by
    intro hne
    have hpos : 0 < n := cutDetail_pos (by rintro rfl; simp [utf8] at hne) (by simp [maxDetailSize])
    simp [hne]
    omega
  refine ⟨n, rfl, (cutDetail_le _ _).trans (Nat.min_le_right _ _), hbound, ?_, hvalid, hne, ?_⟩
  · intro m hm hb
    exact hmax m (Nat.le_min.mpr ⟨hb.1, hm⟩) hb
  · have hset : setDetail (some (utf8 chars))
        = if utf8 chars = [] then none else some ((utf8 chars).take n) := rfl
    rw [hset]
    split_ifs with hempty
    · rfl
    · have hne' := hne hempty
      simp [getDetail, hne', isUtf8_of_validUtf8 hvalid]

/-- A text of 511 letters and one character of two bytes. -/
theorem detail_shortened_two_bytes :
    ∃ n, setDetail (some (utf8 (List.replicate 511 'a' ++ ['é'])))
        = some ((utf8 (List.replicate 511 'a' ++ ['é'])).take n)
      ∧ n ≤ maxDetailSize ∧ IsBoundary (utf8 (List.replicate 511 'a' ++ ['é'])) n := by
  have hne : utf8 (List.replicate 511 'a' ++ ['é']) ≠ [] := by
    rw [utf8_append]
    exact List.append_ne_nil_of_right_ne_nil _ (by decide)
  obtain ⟨n, hset, hn, hbound, -⟩ :=
    detail_shortened (validUtf8_utf8 (List.replicate 511 'a' ++ ['é']))
  refine ⟨n, ?_, hn, hbound⟩
  rw [hset, if_neg hne]

end LibE3
