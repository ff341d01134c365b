import LibE3.Lib.JsonText

/-!
# Writing JSON text

The compact text of a value: no white space, and the members of an object in the order of their
keys. `Held` are the values a library can hold after parsing, and `Library.Follows` is what a
library promises when it reads and writes this text.
-/

namespace Json

variable (fmt : FloatFormat)

mutual

/-- A value that a text can be read as. -/
def Held : Json → Prop
  | .null => True
  | .bool _ => True
  | .unsigned n => n < 2 ^ 64
  | .integer i => -2 ^ 63 ≤ i ∧ i < 0
  | .float b => ∃ s, fmt.value s = some b
  | .str s => validUtf8 s = true
  | .arr elems => HeldElems elems
  | .obj members => members.Pairwise (fun a b => a.1 < b.1) ∧ HeldMembers members

def HeldElems : List Json → Prop
  | [] => True
  | j :: elems => Held j ∧ HeldElems elems

def HeldMembers : List (String × Json) → Prop
  | [] => True
  | (_, j) :: members => Held j ∧ HeldMembers members

end

mutual

def write : Json → List UInt8
  | .null => nullText
  | .bool b => boolText b
  | .unsigned n => (integerNumeral false n).text
  | .integer i => (integerNumeral (i < 0) i.natAbs).text
  | .float b => (fmt.numeral b).text
  | .str s => quote s
  | .arr elems => 0x5B :: (writeElems elems ++ [0x5D])
  | .obj members => 0x7B :: (writeMembers members ++ [0x7D])

def writeElems : List Json → List UInt8
  | [] => []
  | [j] => write j
  | j :: k :: elems => write j ++ 0x2C :: writeElems (k :: elems)

def writeMembers : List (String × Json) → List UInt8
  | [] => []
  | [(key, j)] => quote (keyText key) ++ 0x3A :: write j
  | (key, j) :: m :: members =>
    quote (keyText key) ++ 0x3A :: (write j ++ 0x2C :: writeMembers (m :: members))

end

variable {fmt}

theorem heldElems_iff : ∀ {elems : List Json}, HeldElems fmt elems ↔ ∀ j ∈ elems, Held fmt j
  | [] => by simp [HeldElems]
  | j :: elems => by simp [HeldElems, heldElems_iff]

theorem heldMembers_iff : ∀ {members : List (String × Json)},
    HeldMembers fmt members ↔ ∀ m ∈ members, Held fmt m.2
  | [] => by simp [HeldMembers]
  | (k, j) :: members => by simp [HeldMembers, heldMembers_iff]

/-! ## The order of the members -/

variable {f : String × Json}

theorem orderedInsert_last : ∀ {members : List (String × Json)},
    (∀ m ∈ members, m.1 < f.1) →
      members.orderedInsert (fun a b => a.1 ≤ b.1) f = members ++ [f]
  | [], _ => rfl
  | m :: members, h => by
    rw [List.orderedInsert_cons, if_neg (String.not_le.mpr (h m List.mem_cons_self)),
      orderedInsert_last fun n hn => h n (List.mem_cons_of_mem m hn), List.cons_append]

theorem set_last {members : List (String × Json)} (h : ∀ m ∈ members, m.1 < f.1) :
    set members f = members ++ [f] := by
  have hne : ∀ m ∈ members, decide (m.1 ≠ f.1) = true := fun m hm =>
    decide_eq_true fun he => String.lt_irrefl _ (he ▸ h m hm)
  rw [set, List.filter_eq_self.mpr hne, orderedInsert_last h]

theorem update_sorted : ∀ {fields members : List (String × Json)},
    (members ++ fields).Pairwise (fun a b => a.1 < b.1) → update members fields = members ++ fields
  | [], members, _ => by simp [update]
  | f :: fields, members, h => by
    have hlast : ∀ m ∈ members, m.1 < f.1 := fun m hm =>
      (List.pairwise_append.mp h).2.2 m hm f List.mem_cons_self
    have happ : members ++ f :: fields = members ++ [f] ++ fields := by simp
    rw [happ] at h ⊢
    change update (set members f) fields = _
    rw [set_last hlast]
    exact update_sorted h

theorem pairwise_orderedInsert : ∀ {members : List (String × Json)},
    members.Pairwise (fun a b => a.1 < b.1) → (∀ m ∈ members, m.1 ≠ f.1) →
      (members.orderedInsert (fun a b => a.1 ≤ b.1) f).Pairwise fun a b => a.1 < b.1
  | [], _, _ => by simp
  | m :: members, h, hne => by
    rw [List.pairwise_cons] at h
    rw [List.orderedInsert_cons]
    split_ifs with hle
    · have hlt : f.1 < m.1 := String.not_le.mp fun hge =>
        hne m List.mem_cons_self (String.le_antisymm hge hle)
      refine List.pairwise_cons.mpr ⟨fun n hn => ?_, List.pairwise_cons.mpr h⟩
      rcases List.mem_cons.mp hn with rfl | hn
      · exact hlt
      · exact String.lt_trans hlt (h.1 n hn)
    · refine List.pairwise_cons.mpr ⟨fun n hn => ?_,
        pairwise_orderedInsert h.2 fun n hn => hne n (List.mem_cons_of_mem m hn)⟩
      rcases List.mem_orderedInsert _ |>.mp hn with rfl | hn
      · exact String.not_le.mp hle
      · exact h.1 n hn

theorem pairwise_set {members : List (String × Json)} (h : members.Pairwise (fun a b => a.1 < b.1))
    :
    (set members f).Pairwise fun a b => a.1 < b.1 :=
  pairwise_orderedInsert (h.filter _) fun _ hm => of_decide_eq_true (List.mem_filter.mp hm).2

theorem pairwise_update : ∀ {fields members : List (String × Json)},
    members.Pairwise (fun a b => a.1 < b.1) →
      (update members fields).Pairwise fun a b => a.1 < b.1
  | [], _, h => h
  | f :: fields, members, h =>
    show (update (set members f) fields).Pairwise _ from pairwise_update (pairwise_set h)

theorem mem_of_mem_update {m : String × Json} : ∀ {fields members : List (String × Json)},
    m ∈ update members fields → m ∈ fields ∨ m ∈ members
  | [], _, h => .inr h
  | f :: fields, members, h => by
    rcases mem_of_mem_update (show m ∈ update (set members f) fields from h) with hm | hm
    · exact .inl (List.mem_cons_of_mem f hm)
    · rcases mem_set.mp hm with rfl | ⟨hm, -⟩
      · exact .inl List.mem_cons_self
      · exact .inr hm

/-! ## What is read is held -/

variable {j : Json}

theorem held_value {n : Numeral} (h : n.value fmt = some j) : Held fmt j := by
  unfold Numeral.value at h
  split_ifs at h with hint hunsigned hzero hnegative
  · obtain rfl := Option.some.inj h
    rw [Held]
    exact hunsigned.2
  · obtain rfl := Option.some.inj h
    rw [Held]
    decide
  · obtain rfl := Option.some.inj h
    have hne : digitsValue n.digits ≠ 0 := fun he => hzero ⟨hnegative.1, he⟩
    rw [Held]
    omega
  · obtain ⟨b, hb, rfl⟩ := Option.map_eq_some_iff.mp h
    rw [Held]
    exact ⟨_, hb⟩
  · obtain ⟨b, hb, rfl⟩ := Option.map_eq_some_iff.mp h
    rw [Held]
    exact ⟨_, hb⟩

/-- The values of an item are held. -/
def Item.Held (fmt : FloatFormat) : Item → Prop
  | .value j => Json.Held fmt j
  | .elems es => ∀ j ∈ es, Json.Held fmt j
  | .members ms => ∀ m ∈ ms, Json.Held fmt m.value

theorem Spells.held {item : Item} {t : List UInt8} (h : Spells fmt item t) : item.Held fmt := by
  induction h with
  | null => simp [Item.Held, Json.Held]
  | bool b => simp [Item.Held, Json.Held]
  | number _ hvalue => exact held_value hvalue
  | string _ hs => simpa [Item.Held, Json.Held] using validUtf8_stringValue hs
  | emptyArr => simp [Item.Held, Json.Held, HeldElems]
  | arr _ ih =>
    rw [Item.Held, Json.Held]
    exact heldElems_iff.mpr ih
  | emptyObj => simp [Item.Held, Json.Held, HeldMembers]
  | obj _ ih =>
    rw [Item.Held, Json.Held]
    refine ⟨pairwise_update List.Pairwise.nil, heldMembers_iff.mpr fun m hm => ?_⟩
    rcases mem_of_mem_update hm with hm | hm
    · obtain ⟨raw, hraw, rfl⟩ := List.mem_map.mp hm
      exact ih raw hraw
    · cases hm
  | elem _ _ _ ih => simpa [Item.Held] using ih
  | elems _ _ _ _ ihv iht => exact List.forall_mem_cons.mpr ⟨ihv, iht⟩
  | member _ _ _ _ _ _ _ ih => simpa [Item.Held] using ih
  | members _ _ _ _ _ _ _ _ ihv iht => exact List.forall_mem_cons.mpr ⟨ihv, iht⟩

variable {s : List UInt8}

theorem IsText.held (h : IsText fmt j s) : Held fmt j := by
  obtain ⟨_, _, _, _, hv, _⟩ := h
  exact hv.held

/-! ## What is written is spelled -/

theorem keyOf_keyText (key : String) : keyOf (keyText key) = key := by
  have hkey : String.fromUTF8? ⟨key.toByteArray.data⟩ = some key := by
    rw [String.fromUTF8?, dif_pos key.isValidUTF8]
    rfl
  simp [keyOf, keyText, hkey]

theorem validUtf8_keyText (key : String) : validUtf8 (keyText key) = true := by
  simpa [validUtf8, keyText] using key.isValidUTF8

theorem stringValue_escape (h : validUtf8 s = true) :
    ∃ us, Chars us (escape s) ∧ stringValue us = some s := by
  obtain ⟨us, hraw, hs⟩ := exists_chars_escape s
  exact ⟨us, hraw, by rw [stringValue, hs, Option.filter_some, if_pos h]⟩

theorem escape_keyText_inj {key other : String}
    (h : escape (keyText key) = escape (keyText other)) : key = other := by
  obtain ⟨us, hraw, hs⟩ := stringValue_escape (validUtf8_keyText key)
  obtain ⟨us', hraw', hs'⟩ := stringValue_escape (validUtf8_keyText other)
  have hread := hraw.readChars []
  rw [h, hraw'.readChars, Option.some_inj, Prod.mk.injEq] at hread
  rw [← hread.1, hs', Option.some_inj] at hs
  rw [← keyOf_keyText key, ← hs, keyOf_keyText]

/-- A member as it is written. -/
def rawMember (fmt : FloatFormat) (m : String × Json) : RawMember :=
  ⟨escape (keyText m.1), m.1, write fmt m.2, m.2⟩

theorem map_field_rawMember (members : List (String × Json)) :
    (members.map (rawMember fmt)).map RawMember.field = members := by
  rw [List.map_map]
  exact List.map_id'' (fun _ => rfl) members

mutual

theorem spells_write : ∀ j : Json, Held fmt j → Spells fmt (.value j) (write fmt j)
  | .null, _ => by
    rw [write]
    exact .null
  | .bool b, _ => by
    rw [write]
    exact .bool b
  | .unsigned n, h => by
    rw [Held] at h
    rw [write]
    exact .number (valid_integerNumeral false n) (value_unsigned fmt h)
  | .integer i, h => by
    rw [Held] at h
    have hvalue := value_integer fmt (show i.natAbs ≠ 0 by omega) (by omega)
    rw [show -(i.natAbs : ℤ) = i by omega] at hvalue
    rw [write, decide_eq_true h.2]
    exact .number (valid_integerNumeral true i.natAbs) hvalue
  | .float b, h => by
    rw [Held] at h
    obtain ⟨s, hs⟩ := h
    rw [write]
    refine .number (fmt.valid hs) ?_
    rw [Numeral.value, if_neg fun hnone => (fmt.written hs).elim (· hnone.1) (· hnone.2),
      fmt.value_text hs]
    rfl
  | .str s, h => by
    rw [Held] at h
    obtain ⟨us, hraw, hs⟩ := stringValue_escape h
    rw [write]
    exact .string hraw hs
  | .arr [], _ => by
    rw [write, writeElems]
    exact .emptyArr ws_nil
  | .arr (j :: elems), h => by
    rw [Held] at h
    rw [write]
    exact .arr (spells_writeElems (j :: elems) (by simp) h)
  | .obj [], _ => by
    rw [write, writeMembers]
    exact .emptyObj ws_nil
  | .obj (m :: members), h => by
    rw [Held] at h
    have hspells := Spells.obj (spells_writeMembers (m :: members) (by simp) h.2)
    have hsorted : update [] (m :: members) = [] ++ m :: members := update_sorted h.1
    rw [map_field_rawMember, hsorted, List.nil_append] at hspells
    rw [write]
    exact hspells

theorem spells_writeElems : ∀ elems : List Json, elems ≠ [] → HeldElems fmt elems →
    Spells fmt (.elems elems) (writeElems fmt elems)
  | [], hne, _ => absurd rfl hne
  | [j], _, h => by
    rw [HeldElems] at h
    have hspells := Spells.elem ws_nil (spells_write j h.1) ws_nil
    rw [List.nil_append, List.append_nil] at hspells
    rw [writeElems]
    exact hspells
  | j :: k :: elems, _, h => by
    rw [HeldElems] at h
    have hspells := Spells.elems ws_nil (spells_write j h.1) ws_nil
      (spells_writeElems (k :: elems) (by simp) h.2)
    rw [List.nil_append, List.nil_append] at hspells
    rw [writeElems]
    exact hspells

theorem spells_writeMembers : ∀ members : List (String × Json), members ≠ [] →
    HeldMembers fmt members →
      Spells fmt (.members (members.map (rawMember fmt))) (writeMembers fmt members)
  | [], hne, _ => absurd rfl hne
  | [(key, j)], _, h => by
    rw [HeldMembers] at h
    obtain ⟨us, hraw, hs⟩ := stringValue_escape (validUtf8_keyText key)
    have hspells := Spells.member ws_nil hraw hs ws_nil ws_nil (spells_write j h.1) ws_nil
    rw [keyOf_keyText] at hspells
    rw [writeMembers]
    simpa [rawMember, quote] using hspells
  | (key, j) :: m :: members, _, h => by
    rw [HeldMembers] at h
    obtain ⟨us, hraw, hs⟩ := stringValue_escape (validUtf8_keyText key)
    have hspells := Spells.members ws_nil hraw hs ws_nil ws_nil (spells_write j h.1) ws_nil
      (spells_writeMembers (m :: members) (by simp) h.2)
    rw [keyOf_keyText] at hspells
    rw [writeMembers]
    simpa [rawMember, quote] using hspells

end

theorem isText_write (h : Held fmt j) : IsText fmt j (write fmt j) :=
  ⟨[], write fmt j, [], ws_nil, spells_write j h, ws_nil, by simp⟩

/-! ## Bytes that no text has -/

theorem Numeral.Valid.zero_notMem {n : Numeral} (h : n.Valid) : 0 ∉ n.text := by
  intro hzero
  have hbyte := h.mem_text hzero
  simp [isDigit] at hbyte

theorem hexDigit_zero : hexDigit 0 = none := rfl

theorem Chars.zero_notMem {us : List CodeUnit} {raw : List UInt8} (h : Chars us raw) :
    0 ∉ raw := by
  induction h with
  | nil => simp
  | @byte c us raw _ _ hctl _ ih =>
    have hne : c ≠ 0 := by
      rintro rfl
      exact hctl (by decide)
    simp [ih, hne.symm]
  | @escape e b us raw _ hescaped _ ih =>
    have hne : e ≠ 0 := by
      rintro rfl
      cases hescaped
    simp [ih, hne.symm]
  | @unicode a b c d u us raw hunit _ ih =>
    have hne : a ≠ 0 ∧ b ≠ 0 ∧ c ≠ 0 ∧ d ≠ 0 := by
      refine ⟨?_, ?_, ?_, ?_⟩ <;> rintro rfl <;> simp [hexUnit, hexDigit_zero] at hunit
    simp [ih, hne.1.symm, hne.2.1.symm, hne.2.2.1.symm, hne.2.2.2.symm]

theorem Ws.zero_notMem {w : List UInt8} (h : Ws w) : 0 ∉ w := by
  intro hzero
  have hws := h 0 hzero
  simp [isWs] at hws

theorem Spells.zero_notMem {item : Item} {t : List UInt8} (h : Spells fmt item t) : 0 ∉ t := by
  induction h with
  | null => decide
  | bool b => cases b <;> decide
  | number hvalid => exact hvalid.zero_notMem
  | string hraw => simpa using hraw.zero_notMem
  | emptyArr hw => simpa using hw.zero_notMem
  | arr _ ih => simpa using ih
  | emptyObj hw => simpa using hw.zero_notMem
  | obj _ ih => simpa using ih
  | elem hw₁ _ hw₂ ih => simp [hw₁.zero_notMem, hw₂.zero_notMem, ih]
  | elems hw₁ _ hw₂ _ ihv iht => simp [hw₁.zero_notMem, hw₂.zero_notMem, ihv, iht]
  | member hw₁ hraw _ hw₂ hw₃ _ hw₄ ih =>
    simp [hw₁.zero_notMem, hraw.zero_notMem, hw₂.zero_notMem, hw₃.zero_notMem, hw₄.zero_notMem, ih]
  | members hw₁ hraw _ hw₂ hw₃ _ hw₄ _ ihv iht =>
    simp [hw₁.zero_notMem, hraw.zero_notMem, hw₂.zero_notMem, hw₃.zero_notMem, hw₄.zero_notMem,
      ihv, iht]

theorem IsText.zero_notMem (h : IsText fmt j s) : 0 ∉ s := by
  obtain ⟨w₁, v, w₂, hw₁, hv, hw₂, rfl⟩ := h
  simp [hw₁.zero_notMem, hv.zero_notMem, hw₂.zero_notMem]

/-! ## Libraries that read and write this text -/

/-- The byte order mark of UTF-8. -/
def bom : List UInt8 := [0xEF, 0xBB, 0xBF]

def skipBom (s : List UInt8) : List UInt8 := if bom <+: s then s.drop bom.length else s

/-- What a library promises: it writes the compact text, it reads JSON text, of which a byte order
mark is not a part, and a zero byte, which no text has, it rejects or takes for the end. -/
structure Library.Follows (lib : Library) (fmt : FloatFormat) : Prop where
  text_eq : ∀ j, lib.text j = write fmt j
  parse_eq : ∀ {s}, 0 ∉ s → lib.parse s = readText fmt (skipBom s)
  parse_zero : ∀ {s}, 0 ∈ s →
    lib.parse s = none ∨ lib.parse s = lib.parse (s.takeWhile (· ≠ 0))

theorem IsText.skipBom (h : IsText fmt j s) : skipBom s = s := by
  rw [Json.skipBom, if_neg]
  rintro ⟨r, hr⟩
  obtain ⟨w₁, v, w₂, hw₁, hv, -, rfl⟩ := h
  obtain ⟨c, t, rfl, -, -, hc⟩ := hv.head
  rcases w₁ with _ | ⟨d, w₁⟩
  · exact hc (List.cons.inj hr).1.symm
  · have hd := hw₁ d List.mem_cons_self
    rw [← (List.cons.inj hr).1] at hd
    simp [isWs] at hd

mutual

theorem Held.utf8 : ∀ {j : Json}, Held fmt j → j.utf8 = true
  | .null, _ => by simp [Json.utf8]
  | .bool _, _ => by simp [Json.utf8]
  | .unsigned _, _ => by simp [Json.utf8]
  | .integer _, _ => by simp [Json.utf8]
  | .float _, _ => by simp [Json.utf8]
  | .str s, h => by
    rw [Held] at h
    rwa [utf8_str]
  | .arr elems, h => by
    rw [Held] at h
    rw [utf8_arr]
    exact HeldElems.utf8 h
  | .obj members, h => by
    rw [Held] at h
    rw [utf8_obj]
    exact HeldMembers.utf8 h.2

theorem HeldElems.utf8 : ∀ {elems : List Json}, HeldElems fmt elems → utf8Elems elems = true
  | [], _ => by rw [utf8Elems]
  | j :: elems, h => by
    rw [HeldElems] at h
    rw [utf8Elems, Held.utf8 h.1, HeldElems.utf8 h.2, Bool.and_self]

theorem HeldMembers.utf8 : ∀ {members : List (String × Json)},
    HeldMembers fmt members → utf8Members members = true
  | [], _ => by rw [utf8Members]
  | (_, j) :: members, h => by
    rw [HeldMembers] at h
    rw [utf8Members, Held.utf8 h.1, HeldMembers.utf8 h.2, Bool.and_self]

end

/-- A library that keeps the promise, and takes a zero byte for the end of the text. -/
def reference (fmt : FloatFormat) : Library where
  parse s := readText fmt (skipBom (s.takeWhile (· ≠ 0)))
  text := write fmt
  utf8_of_parse h := (readText_eq_some_iff.mp h).held.utf8

theorem takeWhile_ne_zero (h : 0 ∉ s) : s.takeWhile (· ≠ 0) = s :=
  List.takeWhile_eq_self_iff.mpr fun _ hc => decide_eq_true fun he => h (he ▸ hc)

theorem takeWhile_append_of_notMem (h : 0 ∉ s) (t : List UInt8) :
    (s ++ t).takeWhile (· ≠ 0) = s ++ t.takeWhile (· ≠ 0) := by
  rw [List.takeWhile_append_of_pos]
  intro c hc
  exact decide_eq_true fun he => h (he ▸ hc)

theorem takeWhile_append_of_mem : ∀ {s : List UInt8}, 0 ∈ s → ∀ t : List UInt8,
    (s ++ t).takeWhile (· ≠ 0) = s.takeWhile (· ≠ 0)
  | [], h, _ => nomatch h
  | c :: s, h, t => by
    by_cases hc : c = 0
    · simp [hc]
    · have hs : 0 ∈ s := (List.mem_cons.mp h).resolve_left (Ne.symm hc)
      rw [List.cons_append, List.takeWhile_cons, List.takeWhile_cons, takeWhile_append_of_mem hs t]

theorem zero_notMem_takeWhile (s : List UInt8) : 0 ∉ s.takeWhile (· ≠ 0) :=
  fun h => by simpa using List.mem_takeWhile_imp h

theorem reference_follows (fmt : FloatFormat) : (reference fmt).Follows fmt where
  text_eq _ := rfl
  parse_eq h := by simp only [reference, takeWhile_ne_zero h]
  parse_zero {s} _ := .inr (by
    simp only [reference, takeWhile_ne_zero (zero_notMem_takeWhile s)])

namespace Library.Follows

variable {lib : Library}

theorem parse_isText (h : lib.Follows fmt) (hs : IsText fmt j s) :
    lib.parse s = some j := by
  rw [h.parse_eq hs.zero_notMem, hs.skipBom, readText_eq_some_iff]
  exact hs

/-- What is parsed is a text up to the first zero byte, behind a byte order mark. -/
theorem isText (h : lib.Follows fmt) (hj : lib.parse s = some j) :
    IsText fmt j (skipBom (s.takeWhile (· ≠ 0))) := by
  by_cases hzero : 0 ∈ s
  · rcases h.parse_zero hzero with hnone | htake
    · rw [hnone] at hj
      cases hj
    · rw [htake, h.parse_eq (zero_notMem_takeWhile s)] at hj
      exact readText_eq_some_iff.mp hj
  · rw [h.parse_eq hzero] at hj
    rw [takeWhile_ne_zero hzero]
    exact readText_eq_some_iff.mp hj

/-- What is parsed is held. -/
theorem held (h : lib.Follows fmt) (hj : lib.parse s = some j) :
    Held fmt j :=
  (h.isText hj).held

theorem parse_text (h : lib.Follows fmt) (hj : Held fmt j) :
    lib.parse (lib.text j) = some j := by
  rw [h.text_eq]
  exact h.parse_isText (isText_write hj)

theorem parse_eq_of_text (h : lib.Follows fmt) (hj : Held fmt j)
    (hs : (lib.parse s).map lib.text = some (lib.text j)) : lib.parse s = some j := by
  obtain ⟨k, hk, htext⟩ := Option.map_eq_some_iff.mp hs
  rw [hk, ← h.parse_text (h.held hk), htext, h.parse_text hj]

end Library.Follows

end Json
