import LibE3.Lib.Json
import Mathlib.Data.List.TakeWhile
import Mathlib.Tactic.SplitIfs

/-!
# White space and strings in JSON text

`Chars us raw` says that `raw` is the text between the quotes of a string with the characters `us`,
and `readChars` reads it. A string is written with the escapes that JSON requires and no others.
-/

namespace Json

/-! ## White space -/

def isWs (c : UInt8) : Bool := c = 0x20 || c = 0x09 || c = 0x0A || c = 0x0D

def skipWs (s : List UInt8) : List UInt8 := s.dropWhile isWs

def Ws (w : List UInt8) : Prop := ∀ c ∈ w, isWs c = true

theorem ws_nil : Ws [] := by simp [Ws]

theorem skipWs_ws : ∀ {w s : List UInt8}, Ws w → skipWs (w ++ s) = skipWs s
  | [], _, _ => rfl
  | c :: w, s, h => by
    rw [List.cons_append, skipWs, List.dropWhile_cons_of_pos (h c List.mem_cons_self)]
    exact skipWs_ws fun d hd => h d (List.mem_cons_of_mem c hd)

theorem skipWs_cons {c : UInt8} {s : List UInt8} (h : isWs c = false) :
    skipWs (c :: s) = c :: s := by
  rw [skipWs, List.dropWhile_cons_of_neg (by simp [h])]

theorem skipWs_eq_nil {s : List UInt8} : skipWs s = [] ↔ Ws s := List.dropWhile_eq_nil_iff

theorem exists_ws (s : List UInt8) : ∃ w, Ws w ∧ s = w ++ skipWs s :=
  ⟨s.takeWhile isWs, fun _ hc => List.mem_takeWhile_imp hc,
    (List.takeWhile_append_dropWhile ..).symm⟩

/-! ## Strings -/

/-- A character of a string: a byte, or a UTF-16 code unit written with `\u`. -/
inductive CodeUnit
  | byte (b : UInt8)
  | unit (u : ℕ)

def hexDigit (c : UInt8) : Option ℕ :=
  if 0x30 ≤ c ∧ c ≤ 0x39 then some (c.toNat - 0x30)
  else if 0x41 ≤ c ∧ c ≤ 0x46 then some (c.toNat - 0x37)
  else if 0x61 ≤ c ∧ c ≤ 0x66 then some (c.toNat - 0x57)
  else none

def hexUnit (a b c d : UInt8) : Option ℕ :=
  (hexDigit a).bind fun a => (hexDigit b).bind fun b => (hexDigit c).bind fun c =>
    (hexDigit d).map fun d => ((a * 16 + b) * 16 + c) * 16 + d

/-- The byte that a backslash and `c` stand for. -/
def escaped (c : UInt8) : Option UInt8 :=
  if c = 0x22 ∨ c = 0x5C ∨ c = 0x2F then some c
  else if c = 0x62 then some 0x08
  else if c = 0x66 then some 0x0C
  else if c = 0x6E then some 0x0A
  else if c = 0x72 then some 0x0D
  else if c = 0x74 then some 0x09
  else none

/-- The characters up to the closing quote, and what follows it. -/
def readChars : List UInt8 → Option (List CodeUnit × List UInt8)
  | [] => none
  | c :: s =>
    if c = 0x22 then some ([], s)
    else if c = 0x5C then
      match s with
      | [] => none
      | e :: s =>
        if e = 0x75 then
          match s with
          | a :: b :: c :: d :: s =>
            (hexUnit a b c d).bind fun u => (readChars s).map fun p => (.unit u :: p.1, p.2)
          | _ => none
        else (escaped e).bind fun b => (readChars s).map fun p => (.byte b :: p.1, p.2)
    else if c < 0x20 then none
    else (readChars s).map fun p => (.byte c :: p.1, p.2)

/-- The text between the quotes of a string with these characters. -/
inductive Chars : List CodeUnit → List UInt8 → Prop
  | nil : Chars [] []
  | byte {c us raw} : c ≠ 0x22 → c ≠ 0x5C → ¬c < 0x20 → Chars us raw →
      Chars (.byte c :: us) (c :: raw)
  | escape {e b us raw} : e ≠ 0x75 → escaped e = some b → Chars us raw →
      Chars (.byte b :: us) (0x5C :: e :: raw)
  | unicode {a b c d u us raw} : hexUnit a b c d = some u → Chars us raw →
      Chars (.unit u :: us) (0x5C :: 0x75 :: a :: b :: c :: d :: raw)

theorem Chars.readChars {us : List CodeUnit} {raw : List UInt8} (h : Chars us raw)
    (r : List UInt8) : readChars (raw ++ 0x22 :: r) = some (us, r) := by
  induction h with
  | nil => simp [Json.readChars.eq_def]
  | byte hquote hslash hctl _ ih =>
    rw [List.cons_append, Json.readChars.eq_def]
    simp only [if_neg hquote, if_neg hslash, if_neg hctl, ih, Option.map_some]
  | escape hne hescaped _ ih =>
    rw [List.cons_append, List.cons_append, Json.readChars.eq_def]
    simp [if_neg hne, hescaped, ih]
  | unicode hunit _ ih =>
    simp only [List.cons_append]
    rw [Json.readChars.eq_def]
    simp [hunit, ih]

theorem exists_chars : ∀ {s : List UInt8} {us : List CodeUnit} {r : List UInt8},
    readChars s = some (us, r) → ∃ raw, s = raw ++ 0x22 :: r ∧ Chars us raw
  | [], us, r, h => by
    rw [readChars] at h
    cases h
  | c :: s, us, r, h => by
    rw [readChars.eq_def] at h
    dsimp only at h
    split_ifs at h with hquote hslash hctl
    · obtain ⟨rfl, rfl⟩ := Prod.mk.inj (Option.some.inj h)
      exact ⟨[], by rw [hquote, List.nil_append], .nil⟩
    · rcases s with _ | ⟨e, s⟩
      · cases h
      · dsimp only at h
        split_ifs at h with hu
        · rcases s with _ | ⟨a, _ | ⟨b, _ | ⟨c', _ | ⟨d, s⟩⟩⟩⟩
          · cases h
          · cases h
          · cases h
          · cases h
          · obtain ⟨u, hunit, h⟩ := Option.bind_eq_some_iff.mp h
            obtain ⟨⟨vs, r'⟩, hr, hp⟩ := Option.map_eq_some_iff.mp h
            obtain ⟨rfl, rfl⟩ := Prod.mk.inj hp
            obtain ⟨raw, rfl, hraw⟩ := exists_chars hr
            exact ⟨0x5C :: 0x75 :: a :: b :: c' :: d :: raw, by rw [hslash, hu]; rfl,
              .unicode hunit hraw⟩
        · obtain ⟨b, hescaped, h⟩ := Option.bind_eq_some_iff.mp h
          obtain ⟨⟨vs, r'⟩, hr, hp⟩ := Option.map_eq_some_iff.mp h
          obtain ⟨rfl, rfl⟩ := Prod.mk.inj hp
          obtain ⟨raw, rfl, hraw⟩ := exists_chars hr
          exact ⟨0x5C :: e :: raw, by rw [hslash]; rfl, .escape hu hescaped hraw⟩
    · obtain ⟨⟨vs, r'⟩, hr, hp⟩ := Option.map_eq_some_iff.mp h
      obtain ⟨rfl, rfl⟩ := Prod.mk.inj hp
      obtain ⟨raw, rfl, hraw⟩ := exists_chars hr
      exact ⟨c :: raw, rfl, .byte hquote hslash hctl hraw⟩

/-- The UTF-8 encoding of a code point. -/
def utf8Of (p : ℕ) : List UInt8 :=
  if p < 0x80 then [p.toUInt8]
  else if p < 0x800 then [(0xC0 + p / 0x40).toUInt8, (0x80 + p % 0x40).toUInt8]
  else if p < 0x10000 then
    [(0xE0 + p / 0x1000).toUInt8, (0x80 + p / 0x40 % 0x40).toUInt8, (0x80 + p % 0x40).toUInt8]
  else
    [(0xF0 + p / 0x40000).toUInt8, (0x80 + p / 0x1000 % 0x40).toUInt8,
      (0x80 + p / 0x40 % 0x40).toUInt8, (0x80 + p % 0x40).toUInt8]

/-- The bytes of the characters: two code units that are surrogates stand for one code point. -/
def joinUnits : List CodeUnit → Option (List UInt8)
  | [] => some []
  | .byte b :: us => (joinUnits us).map (b :: ·)
  | .unit u :: us =>
    if 0xD800 ≤ u ∧ u ≤ 0xDBFF then
      match us with
      | .unit v :: us =>
        if 0xDC00 ≤ v ∧ v ≤ 0xDFFF then
          (joinUnits us).map (utf8Of (0x10000 + (u - 0xD800) * 0x400 + (v - 0xDC00)) ++ ·)
        else none
      | _ => none
    else if 0xDC00 ≤ u ∧ u ≤ 0xDFFF then none
    else (joinUnits us).map (utf8Of u ++ ·)

/-- The value of a string with these characters. -/
def stringValue (us : List CodeUnit) : Option (List UInt8) := (joinUnits us).filter validUtf8

theorem validUtf8_stringValue {us : List CodeUnit} {s : List UInt8}
    (h : stringValue us = some s) : validUtf8 s = true :=
  (Option.filter_eq_some_iff.mp h).2

/-! ## Writing strings -/

def hexText (n : UInt8) : UInt8 := if n < 10 then 0x30 + n else 0x57 + n

def escapeByte (c : UInt8) : List UInt8 :=
  if c = 0x08 then [0x5C, 0x62]
  else if c = 0x09 then [0x5C, 0x74]
  else if c = 0x0A then [0x5C, 0x6E]
  else if c = 0x0C then [0x5C, 0x66]
  else if c = 0x0D then [0x5C, 0x72]
  else if c = 0x22 then [0x5C, 0x22]
  else if c = 0x5C then [0x5C, 0x5C]
  else if c < 0x20 then [0x5C, 0x75, 0x30, 0x30, hexText (c / 16), hexText (c % 16)]
  else [c]

def escape (s : List UInt8) : List UInt8 := s.flatMap escapeByte

/-- The string `s` as it is written. -/
def quote (s : List UInt8) : List UInt8 := 0x22 :: (escape s ++ [0x22])

theorem toUInt8_toNat (c : UInt8) : c.toNat.toUInt8 = c := UInt8.ofNat_toNat

theorem hexUnit_hexText_ofNat : ∀ n < 32,
    hexUnit 0x30 0x30 (hexText (n.toUInt8 / 16)) (hexText (n.toUInt8 % 16)) = some n := by
  decide

theorem toNat_lt_of_lt {c : UInt8} (h : c < 0x20) : c.toNat < 32 := UInt8.lt_iff_toNat_lt.mp h

theorem hexUnit_hexText {c : UInt8} (h : c < 0x20) :
    hexUnit 0x30 0x30 (hexText (c / 16)) (hexText (c % 16)) = some c.toNat := by
  have hc := hexUnit_hexText_ofNat c.toNat (toNat_lt_of_lt h)
  rwa [toUInt8_toNat] at hc

theorem utf8Of_toNat {c : UInt8} (h : c < 0x20) : utf8Of c.toNat = [c] := by
  have hlt := toNat_lt_of_lt h
  rw [utf8Of, if_pos (by omega), toUInt8_toNat]

theorem exists_chars_escapeByte (c : UInt8) {us : List CodeUnit} {raw s : List UInt8}
    (hraw : Chars us raw) (hs : joinUnits us = some s) :
    ∃ vs, Chars vs (escapeByte c ++ raw) ∧ joinUnits vs = some (c :: s) := by
  have hbyte : joinUnits (.byte c :: us) = some (c :: s) := by rw [joinUnits, hs, Option.map_some]
  unfold escapeByte
  by_cases h₁ : c = 0x08
  · rw [if_pos h₁]
    exact ⟨_, .escape (by decide) (by rw [h₁]; rfl) hraw, hbyte⟩
  rw [if_neg h₁]
  by_cases h₂ : c = 0x09
  · rw [if_pos h₂]
    exact ⟨_, .escape (by decide) (by rw [h₂]; rfl) hraw, hbyte⟩
  rw [if_neg h₂]
  by_cases h₃ : c = 0x0A
  · rw [if_pos h₃]
    exact ⟨_, .escape (by decide) (by rw [h₃]; rfl) hraw, hbyte⟩
  rw [if_neg h₃]
  by_cases h₄ : c = 0x0C
  · rw [if_pos h₄]
    exact ⟨_, .escape (by decide) (by rw [h₄]; rfl) hraw, hbyte⟩
  rw [if_neg h₄]
  by_cases h₅ : c = 0x0D
  · rw [if_pos h₅]
    exact ⟨_, .escape (by decide) (by rw [h₅]; rfl) hraw, hbyte⟩
  rw [if_neg h₅]
  by_cases h₆ : c = 0x22
  · rw [if_pos h₆]
    exact ⟨_, .escape (by decide) (by rw [h₆]; rfl) hraw, hbyte⟩
  rw [if_neg h₆]
  by_cases h₇ : c = 0x5C
  · rw [if_pos h₇]
    exact ⟨_, .escape (by decide) (by rw [h₇]; rfl) hraw, hbyte⟩
  rw [if_neg h₇]
  by_cases h₈ : c < 0x20
  · rw [if_pos h₈]
    refine ⟨_, .unicode (hexUnit_hexText h₈) hraw, ?_⟩
    have hlt := toNat_lt_of_lt h₈
    rw [joinUnits.eq_def]
    dsimp only
    rw [if_neg (by omega), if_neg (by omega), utf8Of_toNat h₈, hs]
    rfl
  · rw [if_neg h₈]
    exact ⟨_, .byte h₆ h₇ h₈ hraw, hbyte⟩

theorem exists_chars_escape : ∀ s : List UInt8, ∃ us, Chars us (escape s) ∧ joinUnits us = some s
  | [] => ⟨[], .nil, rfl⟩
  | c :: s => by
    obtain ⟨us, hraw, hs⟩ := exists_chars_escape s
    rw [escape, List.flatMap_cons]
    exact exists_chars_escapeByte c hraw hs

end Json
