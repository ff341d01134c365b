import LibE3.Lib.JsonNumbers
import LibE3.Lib.JsonTokens

/-!
# JSON text

`Spells item t` is the grammar of JSON: `t` is a text of a value, of the elements of an array or of
the members of an object. `readValue` and the readers beside it are a parser, and the two agree: a
text is read as a value exactly when it spells it.
-/

namespace Json

/-- The key with these bytes. -/
def keyOf (s : List UInt8) : String := (String.fromUTF8? ⟨s.toArray⟩).getD ""

def keyText (key : String) : List UInt8 := key.toUTF8.data.toList

/-- A member of an object as it stands in a text. -/
structure RawMember where
  rawKey : List UInt8
  key : String
  valueText : List UInt8
  value : Json

def RawMember.field (m : RawMember) : String × Json := (m.key, m.value)

def nullText : List UInt8 := [0x6E, 0x75, 0x6C, 0x6C]

def boolText : Bool → List UInt8
  | true => [0x74, 0x72, 0x75, 0x65]
  | false => [0x66, 0x61, 0x6C, 0x73, 0x65]

/-! ## The grammar -/

inductive Item
  | value (j : Json)
  | elems (es : List Json)
  | members (ms : List RawMember)

variable (fmt : FloatFormat)

inductive Spells : Item → List UInt8 → Prop
  | null : Spells (.value .null) nullText
  | bool (b : Bool) : Spells (.value (.bool b)) (boolText b)
  | number {n : Numeral} {j} : n.Valid → n.value fmt = some j → Spells (.value j) n.text
  | string {us raw s} : Chars us raw → stringValue us = some s →
      Spells (.value (.str s)) (0x22 :: (raw ++ [0x22]))
  | emptyArr {w} : Ws w → Spells (.value (.arr [])) (0x5B :: (w ++ [0x5D]))
  | arr {es t} : Spells (.elems es) t → Spells (.value (.arr es)) (0x5B :: (t ++ [0x5D]))
  | emptyObj {w} : Ws w → Spells (.value (.obj [])) (0x7B :: (w ++ [0x7D]))
  | obj {ms t} : Spells (.members ms) t →
      Spells (.value (.obj (update [] (ms.map RawMember.field)))) (0x7B :: (t ++ [0x7D]))
  | elem {w₁ v w₂ j} : Ws w₁ → Spells (.value j) v → Ws w₂ →
      Spells (.elems [j]) (w₁ ++ (v ++ w₂))
  | elems {w₁ v w₂ j es t} : Ws w₁ → Spells (.value j) v → Ws w₂ → Spells (.elems es) t →
      Spells (.elems (j :: es)) (w₁ ++ (v ++ (w₂ ++ 0x2C :: t)))
  | member {w₁ us raw s w₂ w₃ v w₄ j} : Ws w₁ → Chars us raw → stringValue us = some s →
      Ws w₂ → Ws w₃ → Spells (.value j) v → Ws w₄ →
      Spells (.members [⟨raw, keyOf s, v, j⟩])
        (w₁ ++ 0x22 :: (raw ++ 0x22 :: (w₂ ++ 0x3A :: (w₃ ++ (v ++ w₄)))))
  | members {w₁ us raw s w₂ w₃ v w₄ j ms t} : Ws w₁ → Chars us raw → stringValue us = some s →
      Ws w₂ → Ws w₃ → Spells (.value j) v → Ws w₄ → Spells (.members ms) t →
      Spells (.members (⟨raw, keyOf s, v, j⟩ :: ms))
        (w₁ ++ 0x22 :: (raw ++ 0x22 :: (w₂ ++ 0x3A :: (w₃ ++ (v ++ (w₄ ++ 0x2C :: t))))))

/-- A whole text: a value with white space around it. -/
def IsText (j : Json) (s : List UInt8) : Prop :=
  ∃ w₁ v w₂, Ws w₁ ∧ Spells fmt (.value j) v ∧ Ws w₂ ∧ s = w₁ ++ (v ++ w₂)

/-! ## The readers -/

/-- Reads `word`, whose first byte has been read. -/
def readWord (word : List UInt8) (j : Json) (s : List UInt8) : Option (Json × List UInt8) :=
  if word <+: s then some (j, s.drop word.length) else none

mutual

/-- The value that `s` starts with, and what follows it. The fuel bounds the nesting. -/
def readValue : ℕ → List UInt8 → Option (Json × List UInt8)
  | 0, _ => none
  | _ + 1, [] => none
  | fuel + 1, c :: s =>
    if c = 0x7B then
      if (skipWs s).head? = some 0x7D then some (.obj [], (skipWs s).tail)
      else (readMembers fuel s).map fun p => (.obj (update [] p.1), p.2)
    else if c = 0x5B then
      if (skipWs s).head? = some 0x5D then some (.arr [], (skipWs s).tail)
      else (readElems fuel s).map fun p => (.arr p.1, p.2)
    else if c = 0x22 then
      (readChars s).bind fun p => (stringValue p.1).map fun v => (.str v, p.2)
    else if c = 0x6E then readWord nullText.tail .null s
    else if c = 0x74 then readWord (boolText true).tail (.bool true) s
    else if c = 0x66 then readWord (boolText false).tail (.bool false) s
    else (readNumeral (c :: s)).bind fun p => (p.1.value fmt).map fun j => (j, p.2)

/-- The elements up to the closing bracket, and what follows it. -/
def readElems : ℕ → List UInt8 → Option (List Json × List UInt8)
  | 0, _ => none
  | fuel + 1, s =>
    (readValue fuel (skipWs s)).bind fun p =>
      match skipWs p.2 with
      | [] => none
      | d :: t =>
        if d = 0x2C then (readElems fuel t).map fun q => (p.1 :: q.1, q.2)
        else if d = 0x5D then some ([p.1], t)
        else none

/-- The members up to the closing brace, and what follows it. -/
def readMembers : ℕ → List UInt8 → Option (List (String × Json) × List UInt8)
  | 0, _ => none
  | fuel + 1, s =>
    if (skipWs s).head? = some 0x22 then
      (readChars (skipWs s).tail).bind fun k =>
        (stringValue k.1).bind fun key =>
          if (skipWs k.2).head? = some 0x3A then
            (readValue fuel (skipWs (skipWs k.2).tail)).bind fun p =>
              match skipWs p.2 with
              | [] => none
              | d :: t =>
                if d = 0x2C then (readMembers fuel t).map fun q => ((keyOf key, p.1) :: q.1, q.2)
                else if d = 0x7D then some ([(keyOf key, p.1)], t)
                else none
          else none
    else none

end

/-- The value of a whole text. -/
def readText (s : List UInt8) : Option Json :=
  (readValue fmt s.length (skipWs s)).bind fun p => if skipWs p.2 = [] then some p.1 else none

/-! ## What is spelled is read -/

variable {fmt}

theorem Ws.ends {w r : List UInt8} (hw : Ws w) (hr : Ends r) : Ends (w ++ r) := by
  rcases w with _ | ⟨d, w⟩
  · exact hr
  · rintro _ ⟨⟩
    have hd := hw d List.mem_cons_self
    simp only [isWs, Bool.or_eq_true, decide_eq_true_eq] at hd
    rcases hd with ((rfl | rfl) | rfl) | rfl <;> decide

variable {c : UInt8}

theorem ends_close {r : List UInt8} (hc : c = 0x2C ∨ c = 0x5D ∨ c = 0x7D) :
    Ends (c :: r) := by
  rintro _ ⟨⟩
  rcases hc with rfl | rfl | rfl <;> decide

theorem Numeral.Valid.head {n : Numeral} (h : n.Valid) :
    ∃ c t, n.text = c :: t ∧ (c = 0x2D ∨ isDigit c = true) := by
  unfold Numeral.text
  cases n.negative
  · rcases hd : n.digits with _ | ⟨d, ds⟩
    · exact absurd hd h.digits.1
    · exact ⟨d, _, rfl, .inr (h.digits.2 d (by rw [hd]; exact List.mem_cons_self))⟩
  · exact ⟨0x2D, _, rfl, .inl rfl⟩

variable {j : Json}

/-- A value starts with none of the bytes that separate or close, and not with that of a byte order
mark. -/
theorem Spells.head {v : List UInt8} (h : Spells fmt (.value j) v) :
    ∃ c t, v = c :: t ∧ isWs c = false ∧ c ≠ 0x5D ∧ c ≠ 0xEF := by
  cases h with
  | null => exact ⟨_, _, rfl, rfl, by decide, by decide⟩
  | bool b => cases b <;> exact ⟨_, _, rfl, rfl, by decide, by decide⟩
  | number hvalid =>
    obtain ⟨c, t, ht, hc⟩ := hvalid.head
    refine ⟨c, t, ht, ?_, ?_, ?_⟩
    · by_contra hws
      simp only [isWs, Bool.not_eq_false, Bool.or_eq_true, decide_eq_true_eq] at hws
      rcases hws with ((rfl | rfl) | rfl) | rfl <;> simp [isDigit] at hc
    · rintro rfl
      simp [isDigit] at hc
    · rintro rfl
      simp [isDigit] at hc
  | string => exact ⟨_, _, rfl, rfl, by decide, by decide⟩
  | emptyArr => exact ⟨_, _, rfl, rfl, by decide, by decide⟩
  | arr => exact ⟨_, _, rfl, rfl, by decide, by decide⟩
  | emptyObj => exact ⟨_, _, rfl, rfl, by decide, by decide⟩
  | obj => exact ⟨_, _, rfl, rfl, by decide, by decide⟩

theorem Spells.last {v : List UInt8} (h : Spells fmt (.value j) v) :
    ∃ t c, v = t ++ [c] ∧ isWs c = false := by
  cases h with
  | null => exact ⟨[0x6E, 0x75, 0x6C], _, rfl, rfl⟩
  | bool b =>
    cases b
    · exact ⟨[0x66, 0x61, 0x6C, 0x73], _, rfl, rfl⟩
    · exact ⟨[0x74, 0x72, 0x75], _, rfl, rfl⟩
  | @number n _ hvalid =>
    obtain ⟨c, t, ht, -⟩ := hvalid.head
    obtain ⟨s, d, hd⟩ := List.eq_nil_or_concat n.text |>.resolve_left (by simp [ht])
    rw [List.concat_eq_append] at hd
    refine ⟨s, d, hd, ?_⟩
    have hbyte := hvalid.mem_text (c := d) (by rw [hd]; simp)
    by_contra hws
    simp only [isWs, Bool.not_eq_false, Bool.or_eq_true, decide_eq_true_eq] at hws
    rcases hws with ((rfl | rfl) | rfl) | rfl <;> simp [isDigit] at hbyte
  | @string us raw => exact ⟨0x22 :: raw, _, rfl, rfl⟩
  | @emptyArr w => exact ⟨0x5B :: w, _, rfl, rfl⟩
  | @arr es t => exact ⟨0x5B :: t, _, rfl, rfl⟩
  | @emptyObj w => exact ⟨0x7B :: w, _, rfl, rfl⟩
  | @obj ms t => exact ⟨0x7B :: t, _, rfl, rfl⟩

theorem Spells.skipWs {v : List UInt8} (h : Spells fmt (.value j) v) (r : List UInt8) :
    skipWs (v ++ r) = v ++ r := by
  obtain ⟨c, t, rfl, hws, -⟩ := h.head
  rw [List.cons_append, skipWs_cons hws]

theorem Spells.head_elems {es : List Json} {t : List UInt8} (h : Spells fmt (.elems es) t)
    (r : List UInt8) : (Json.skipWs (t ++ r)).head? ≠ some 0x5D := by
  cases h with
  | elem hw₁ hv =>
    obtain ⟨c, t, hct, -, hne, -⟩ := hv.head
    rw [List.append_assoc, skipWs_ws hw₁, List.append_assoc, hv.skipWs, hct]
    exact fun h => hne (Option.some.inj h)
  | elems hw₁ hv =>
    obtain ⟨c, t, hct, -, hne, -⟩ := hv.head
    rw [List.append_assoc, skipWs_ws hw₁, List.append_assoc, hv.skipWs, hct]
    exact fun h => hne (Option.some.inj h)

theorem Spells.head_members {ms : List RawMember} {t : List UInt8}
    (h : Spells fmt (.members ms) t) (r : List UInt8) :
    (Json.skipWs (t ++ r)).head? ≠ some 0x7D := by
  cases h with
  | member hw₁ =>
    rw [List.append_assoc, skipWs_ws hw₁, List.cons_append, skipWs_cons (by decide)]
    exact fun h => absurd (Option.some.inj h) (by decide)
  | members hw₁ =>
    rw [List.append_assoc, skipWs_ws hw₁, List.cons_append, skipWs_cons (by decide)]
    exact fun h => absurd (Option.some.inj h) (by decide)

/-- What the reader of an item does with its text. -/
def Reads (fmt : FloatFormat) : Item → List UInt8 → Prop
  | .value j, t => ∀ fuel r, t.length ≤ fuel → Ends r → readValue fmt fuel (t ++ r) = some (j, r)
  | .elems es, t => ∀ fuel r, t.length < fuel → readElems fmt fuel (t ++ 0x5D :: r) = some (es, r)
  | .members ms, t =>
    ∀ fuel r, t.length < fuel →
      readMembers fmt fuel (t ++ 0x7D :: r) = some (ms.map RawMember.field, r)

theorem reads_number {n : Numeral} (hvalid : n.Valid) (hvalue : n.value fmt = some j) :
    Reads fmt (.value j) n.text := by
  intro fuel r hfuel hr
  obtain ⟨c, t, ht, hc⟩ := hvalid.head
  have hread := hvalid.readNumeral hr
  rw [ht] at hfuel hread ⊢
  obtain ⟨fuel, rfl⟩ : ∃ f, fuel = f + 1 := ⟨fuel - 1, by simp at hfuel; omega⟩
  have hne : c ≠ 0x7B ∧ c ≠ 0x5B ∧ c ≠ 0x22 ∧ c ≠ 0x6E ∧ c ≠ 0x74 ∧ c ≠ 0x66 := by
    refine ⟨?_, ?_, ?_, ?_, ?_, ?_⟩ <;> rintro rfl <;> simp [isDigit] at hc
  obtain ⟨h₁, h₂, h₃, h₄, h₅, h₆⟩ := hne
  rw [List.cons_append] at hread ⊢
  rw [readValue, if_neg h₁, if_neg h₂, if_neg h₃, if_neg h₄, if_neg h₅, if_neg h₆, hread,
    Option.bind_some, hvalue]
  rfl

theorem reads_string {us : List CodeUnit} {raw s : List UInt8} (hraw : Chars us raw)
    (hs : stringValue us = some s) : Reads fmt (.value (.str s)) (0x22 :: (raw ++ [0x22])) := by
  intro fuel r hfuel _
  obtain ⟨fuel, rfl⟩ : ∃ f, fuel = f + 1 := ⟨fuel - 1, by simp at hfuel; omega⟩
  rw [List.cons_append, List.append_assoc, readValue, if_neg (by decide), if_neg (by decide),
    if_pos rfl, List.singleton_append, hraw.readChars, Option.bind_some, hs]
  rfl

variable {fuel : ℕ}

theorem Reads.padded {w₁ v w₂ t : List UInt8} (hread : Reads fmt (.value j) v) (hw₁ : Ws w₁)
    (hv : Spells fmt (.value j) v) (hw₂ : Ws w₂) (hc : c = 0x2C ∨ c = 0x5D ∨ c = 0x7D)
    (hfuel : v.length ≤ fuel) :
    readValue fmt fuel (Json.skipWs (w₁ ++ (v ++ (w₂ ++ c :: t)))) = some (j, w₂ ++ c :: t)
      ∧ Json.skipWs (w₂ ++ c :: t) = c :: t := by
  constructor
  · rw [skipWs_ws hw₁, hv.skipWs]
    exact hread fuel _ hfuel (hw₂.ends (ends_close hc))
  · rw [skipWs_ws hw₂, skipWs_cons (by rcases hc with rfl | rfl | rfl <;> decide)]

theorem Reads.readElems {w₁ v w₂ t : List UInt8} (hread : Reads fmt (.value j) v) (hw₁ : Ws w₁)
    (hv : Spells fmt (.value j) v) (hw₂ : Ws w₂) (hc : c = 0x2C ∨ c = 0x5D ∨ c = 0x7D)
    (hfuel : v.length ≤ fuel) :
    readElems fmt (fuel + 1) (w₁ ++ (v ++ (w₂ ++ c :: t)))
      = if c = 0x2C then (Json.readElems fmt fuel t).map fun q => (j :: q.1, q.2)
        else if c = 0x5D then some ([j], t)
        else none := by
  obtain ⟨hvalue, hskip⟩ := hread.padded (t := t) hw₁ hv hw₂ hc hfuel
  rw [Json.readElems, hvalue, Option.bind_some]
  simp only [hskip]

theorem Reads.readMembers {w₁ raw s w₂ w₃ v w₄ t : List UInt8} {us : List CodeUnit}
    (hread : Reads fmt (.value j) v) (hw₁ : Ws w₁) (hraw : Chars us raw)
    (hs : stringValue us = some s) (hw₂ : Ws w₂) (hw₃ : Ws w₃) (hv : Spells fmt (.value j) v)
    (hw₄ : Ws w₄) (hc : c = 0x2C ∨ c = 0x5D ∨ c = 0x7D) (hfuel : v.length ≤ fuel) :
    readMembers fmt (fuel + 1)
        (w₁ ++ 0x22 :: (raw ++ 0x22 :: (w₂ ++ 0x3A :: (w₃ ++ (v ++ (w₄ ++ c :: t))))))
      = if c = 0x2C then
          (Json.readMembers fmt fuel t).map fun q => ((keyOf s, j) :: q.1, q.2)
        else if c = 0x7D then some ([(keyOf s, j)], t)
        else none := by
  obtain ⟨hvalue, hskip⟩ := hread.padded (t := t) hw₃ hv hw₄ hc hfuel
  rw [Json.readMembers, skipWs_ws hw₁, skipWs_cons (by decide), List.head?_cons, if_pos rfl,
    List.tail_cons, hraw.readChars, Option.bind_some, hs, Option.bind_some]
  dsimp only
  rw [skipWs_ws hw₂, skipWs_cons (by decide), List.head?_cons, if_pos rfl, List.tail_cons, hvalue,
    Option.bind_some]
  simp only [hskip]

theorem Spells.reads {item : Item} {t : List UInt8} (h : Spells fmt item t) :
    Reads fmt item t := by
  induction h with
  | null =>
    intro fuel r hfuel _
    obtain ⟨fuel, rfl⟩ : ∃ f, fuel = f + 1 := ⟨fuel - 1, by simp [nullText] at hfuel; omega⟩
    simp [nullText, readValue, readWord]
  | bool b =>
    intro fuel r hfuel _
    obtain ⟨fuel, rfl⟩ : ∃ f, fuel = f + 1 :=
      ⟨fuel - 1, by cases b <;> simp [boolText] at hfuel <;> omega⟩
    cases b <;> simp [boolText, readValue, readWord]
  | number hvalid hvalue => exact reads_number hvalid hvalue
  | string hraw hs => exact reads_string hraw hs
  | @emptyArr w hw =>
    intro fuel r hfuel _
    obtain ⟨fuel, rfl⟩ : ∃ f, fuel = f + 1 := ⟨fuel - 1, by simp at hfuel; omega⟩
    rw [List.cons_append, List.append_assoc, readValue, if_neg (by decide), if_pos rfl,
      skipWs_ws hw, List.singleton_append, skipWs_cons (by decide)]
    rfl
  | @arr es t ht ih =>
    intro fuel r hfuel _
    obtain ⟨fuel, rfl⟩ : ∃ f, fuel = f + 1 := ⟨fuel - 1, by simp at hfuel; omega⟩
    rw [List.cons_append, List.append_assoc, readValue, if_neg (by decide), if_pos rfl,
      if_neg (ht.head_elems _), List.singleton_append, ih fuel r (by simp at hfuel; omega)]
    rfl
  | @emptyObj w hw =>
    intro fuel r hfuel _
    obtain ⟨fuel, rfl⟩ : ∃ f, fuel = f + 1 := ⟨fuel - 1, by simp at hfuel; omega⟩
    rw [List.cons_append, List.append_assoc, readValue, if_pos rfl, skipWs_ws hw,
      List.singleton_append, skipWs_cons (by decide)]
    rfl
  | @obj ms t ht ih =>
    intro fuel r hfuel _
    obtain ⟨fuel, rfl⟩ : ∃ f, fuel = f + 1 := ⟨fuel - 1, by simp at hfuel; omega⟩
    rw [List.cons_append, List.append_assoc, readValue, if_pos rfl, if_neg (ht.head_members _),
      List.singleton_append, ih fuel r (by simp at hfuel; omega)]
    rfl
  | @elem w₁ v w₂ j hw₁ hv hw₂ ih =>
    intro fuel r hfuel
    obtain ⟨fuel, rfl⟩ : ∃ f, fuel = f + 1 := ⟨fuel - 1, by omega⟩
    simp only [List.append_assoc]
    rw [ih.readElems hw₁ hv hw₂ (by decide) (by simp at hfuel; omega), if_neg (by decide),
      if_pos rfl]
  | @elems w₁ v w₂ j es t hw₁ hv hw₂ ht ihv iht =>
    intro fuel r hfuel
    obtain ⟨fuel, rfl⟩ : ∃ f, fuel = f + 1 := ⟨fuel - 1, by omega⟩
    simp only [List.append_assoc, List.cons_append]
    rw [ihv.readElems hw₁ hv hw₂ (by decide) (by simp at hfuel; omega), if_pos rfl,
      iht fuel r (by simp at hfuel; omega)]
    rfl
  | @member w₁ us raw s w₂ w₃ v w₄ j hw₁ hraw hs hw₂ hw₃ hv hw₄ ih =>
    intro fuel r hfuel
    obtain ⟨fuel, rfl⟩ : ∃ f, fuel = f + 1 := ⟨fuel - 1, by omega⟩
    simp only [List.append_assoc, List.cons_append]
    rw [ih.readMembers hw₁ hraw hs hw₂ hw₃ hv hw₄ (by decide) (by simp at hfuel; omega),
      if_neg (by decide), if_pos rfl]
    rfl
  | @members w₁ us raw s w₂ w₃ v w₄ j ms t hw₁ hraw hs hw₂ hw₃ hv hw₄ ht ihv iht =>
    intro fuel r hfuel
    obtain ⟨fuel, rfl⟩ : ∃ f, fuel = f + 1 := ⟨fuel - 1, by omega⟩
    simp only [List.append_assoc, List.cons_append]
    rw [ihv.readMembers hw₁ hraw hs hw₂ hw₃ hv hw₄ (by decide) (by simp at hfuel; omega),
      if_pos rfl, iht fuel r (by simp at hfuel; omega)]
    rfl

theorem IsText.readText {s : List UInt8} (h : IsText fmt j s) :
    readText fmt s = some j := by
  obtain ⟨w₁, v, w₂, hw₁, hv, hw₂, rfl⟩ := h
  have hends : Ends w₂ := List.append_nil w₂ ▸ hw₂.ends ends_nil
  rw [Json.readText, skipWs_ws hw₁, hv.skipWs, hv.reads _ w₂ (by simp; omega) hends,
    Option.bind_some, if_pos (skipWs_eq_nil.mpr hw₂)]

/-! ## What is read is spelled -/

theorem exists_word {word s r : List UInt8} {j k : Json} (h : readWord word j s = some (k, r)) :
    k = j ∧ s = word ++ r := by
  unfold readWord at h
  split_ifs at h with hprefix
  obtain ⟨rfl, rfl⟩ := Prod.mk.inj (Option.some.inj h)
  obtain ⟨t, rfl⟩ := hprefix
  exact ⟨rfl, by rw [List.drop_left]⟩

theorem exists_ws_head {s : List UInt8} (h : (skipWs s).head? = some c) :
    ∃ w, Ws w ∧ s = w ++ c :: (skipWs s).tail := by
  obtain ⟨w, hw, hs⟩ := exists_ws s
  refine ⟨w, hw, ?_⟩
  conv_lhs => rw [hs]
  rcases hskip : skipWs s with _ | ⟨d, t⟩
  · rw [hskip] at h
    cases h
  · rw [hskip] at h
    obtain rfl := Option.some.inj h
    rfl

/-- The readers with this fuel read only what is spelled. -/
structure ReadsSpelled (fmt : FloatFormat) (fuel : ℕ) : Prop where
  value : ∀ {s j r}, readValue fmt fuel s = some (j, r) →
    ∃ v, s = v ++ r ∧ Spells fmt (.value j) v
  elems : ∀ {s es r}, readElems fmt fuel s = some (es, r) →
    ∃ t, s = t ++ 0x5D :: r ∧ Spells fmt (.elems es) t
  members : ∀ {s fields r}, readMembers fmt fuel s = some (fields, r) →
    ∃ ms t, fields = ms.map RawMember.field ∧ s = t ++ 0x7D :: r ∧ Spells fmt (.members ms) t

theorem ReadsSpelled.succ_value (ih : ReadsSpelled fmt fuel) {s r : List UInt8}
    (h : readValue fmt (fuel + 1) s = some (j, r)) :
    ∃ v, s = v ++ r ∧ Spells fmt (.value j) v := by
  rcases s with _ | ⟨c, s⟩
  · rw [readValue] at h
    cases h
  · rw [readValue] at h
    split_ifs at h with hobj hempty harr hempty' hstr hnull htrue hfalse
    · obtain ⟨rfl, rfl⟩ := Prod.mk.inj (Option.some.inj h)
      obtain ⟨w, hw, hs⟩ := exists_ws_head hempty
      refine ⟨_, ?_, .emptyObj hw⟩
      conv_lhs => rw [hobj, hs]
      simp
    · obtain ⟨⟨fields, r'⟩, hread, hp⟩ := Option.map_eq_some_iff.mp h
      obtain ⟨rfl, rfl⟩ := Prod.mk.inj hp
      obtain ⟨ms, t, rfl, rfl, ht⟩ := ih.members hread
      exact ⟨_, by rw [hobj]; simp, .obj ht⟩
    · obtain ⟨rfl, rfl⟩ := Prod.mk.inj (Option.some.inj h)
      obtain ⟨w, hw, hs⟩ := exists_ws_head hempty'
      refine ⟨_, ?_, .emptyArr hw⟩
      conv_lhs => rw [harr, hs]
      simp
    · obtain ⟨⟨es, r'⟩, hread, hp⟩ := Option.map_eq_some_iff.mp h
      obtain ⟨rfl, rfl⟩ := Prod.mk.inj hp
      obtain ⟨t, rfl, ht⟩ := ih.elems hread
      exact ⟨_, by rw [harr]; simp, .arr ht⟩
    · obtain ⟨⟨us, r'⟩, hread, h⟩ := Option.bind_eq_some_iff.mp h
      obtain ⟨v, hv, hp⟩ := Option.map_eq_some_iff.mp h
      obtain ⟨rfl, rfl⟩ := Prod.mk.inj hp
      obtain ⟨raw, rfl, hraw⟩ := exists_chars hread
      exact ⟨_, by rw [hstr]; simp, .string hraw hv⟩
    · obtain ⟨rfl, rfl⟩ := exists_word h
      exact ⟨nullText, by rw [hnull]; rfl, .null⟩
    · obtain ⟨rfl, rfl⟩ := exists_word h
      exact ⟨boolText true, by rw [htrue]; rfl, .bool true⟩
    · obtain ⟨rfl, rfl⟩ := exists_word h
      exact ⟨boolText false, by rw [hfalse]; rfl, .bool false⟩
    · obtain ⟨⟨n, r'⟩, hread, h⟩ := Option.bind_eq_some_iff.mp h
      obtain ⟨k, hvalue, hp⟩ := Option.map_eq_some_iff.mp h
      obtain ⟨rfl, rfl⟩ := Prod.mk.inj hp
      obtain ⟨hvalid, hs⟩ := exists_numeral hread
      exact ⟨n.text, hs, .number hvalid hvalue⟩

theorem ReadsSpelled.succ_elems (ih : ReadsSpelled fmt fuel) {s r : List UInt8} {es : List Json}
    (h : readElems fmt (fuel + 1) s = some (es, r)) :
    ∃ t, s = t ++ 0x5D :: r ∧ Spells fmt (.elems es) t := by
  rw [readElems] at h
  obtain ⟨⟨j, r₁⟩, hvalue, h⟩ := Option.bind_eq_some_iff.mp h
  obtain ⟨v, hv, hspells⟩ := ih.value hvalue
  obtain ⟨w₁, hw₁, hs⟩ := exists_ws s
  obtain ⟨w₂, hw₂, hr₁⟩ := exists_ws r₁
  rw [hv, hr₁] at hs
  dsimp only at h
  rcases hskip : skipWs r₁ with _ | ⟨d, t⟩
  · rw [hskip] at h
    cases h
  · rw [hskip] at h hs
    dsimp only at h
    split_ifs at h with hcomma hclose
    · obtain ⟨⟨fs, r'⟩, hread, hp⟩ := Option.map_eq_some_iff.mp h
      obtain ⟨rfl, rfl⟩ := Prod.mk.inj hp
      obtain ⟨t, rfl, ht⟩ := ih.elems hread
      exact ⟨_, by rw [hs, hcomma]; simp, .elems hw₁ hspells hw₂ ht⟩
    · obtain ⟨rfl, rfl⟩ := Prod.mk.inj (Option.some.inj h)
      exact ⟨_, by rw [hs, hclose]; simp, .elem hw₁ hspells hw₂⟩

theorem ReadsSpelled.succ_members (ih : ReadsSpelled fmt fuel) {s r : List UInt8}
    {fields : List (String × Json)} (h : readMembers fmt (fuel + 1) s = some (fields, r)) :
    ∃ ms t, fields = ms.map RawMember.field ∧ s = t ++ 0x7D :: r
      ∧ Spells fmt (.members ms) t := by
  rw [readMembers] at h
  split_ifs at h with hquote
  obtain ⟨⟨us, r₁⟩, hchars, h⟩ := Option.bind_eq_some_iff.mp h
  obtain ⟨key, hkey, h⟩ := Option.bind_eq_some_iff.mp h
  dsimp only at h hkey
  split_ifs at h with hcolon
  obtain ⟨⟨j, r₂⟩, hvalue, h⟩ := Option.bind_eq_some_iff.mp h
  obtain ⟨w₁, hw₁, hs⟩ := exists_ws_head hquote
  obtain ⟨raw, hraw, hchars⟩ := exists_chars hchars
  obtain ⟨w₂, hw₂, hr₁⟩ := exists_ws_head hcolon
  obtain ⟨w₃, hw₃, hw₃'⟩ := exists_ws (skipWs r₁).tail
  obtain ⟨v, hv, hspells⟩ := ih.value hvalue
  obtain ⟨w₄, hw₄, hr₂⟩ := exists_ws r₂
  rw [hraw, hr₁, hw₃', hv, hr₂] at hs
  dsimp only at h
  rcases hskip : skipWs r₂ with _ | ⟨d, t⟩
  · rw [hskip] at h
    cases h
  · rw [hskip] at h hs
    dsimp only at h
    split_ifs at h with hcomma hclose
    · obtain ⟨⟨fs, r'⟩, hread, hp⟩ := Option.map_eq_some_iff.mp h
      obtain ⟨rfl, rfl⟩ := Prod.mk.inj hp
      obtain ⟨ms, t, rfl, rfl, ht⟩ := ih.members hread
      exact ⟨_, _, rfl, by rw [hs, hcomma]; simp,
        .members hw₁ hchars hkey hw₂ hw₃ hspells hw₄ ht⟩
    · obtain ⟨rfl, rfl⟩ := Prod.mk.inj (Option.some.inj h)
      exact ⟨_, _, rfl, by rw [hs, hclose]; simp, .member hw₁ hchars hkey hw₂ hw₃ hspells hw₄⟩

theorem readsSpelled : ∀ fuel, ReadsSpelled fmt fuel
  | 0 => ⟨fun h => (by rw [readValue] at h; cases h), fun h => (by rw [readElems] at h; cases h),
      fun h => (by rw [readMembers] at h; cases h)⟩
  | fuel + 1 =>
    ⟨(readsSpelled fuel).succ_value, (readsSpelled fuel).succ_elems,
      (readsSpelled fuel).succ_members⟩

theorem readText_eq_some_iff {s : List UInt8} :
    readText fmt s = some j ↔ IsText fmt j s := by
  refine ⟨fun h => ?_, IsText.readText⟩
  obtain ⟨⟨k, r⟩, hvalue, h⟩ := Option.bind_eq_some_iff.mp h
  dsimp only at h
  split_ifs at h with hrest
  obtain rfl := Option.some.inj h
  obtain ⟨v, hv, hspells⟩ := (readsSpelled _).value hvalue
  obtain ⟨w, hw, hs⟩ := exists_ws s
  exact ⟨w, v, r, hw, hspells, skipWs_eq_nil.mp hrest, by rw [← hv]; exact hs⟩

end Json
