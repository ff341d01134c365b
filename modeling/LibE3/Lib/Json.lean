import Mathlib.Data.Int.Notation
import Mathlib.Data.List.Sort
import Mathlib.Data.Nat.Notation

/-!
# JSON values and a JSON library

A value as a JSON library holds it: the members of an object have distinct keys, in order, and a
string is a list of bytes, which need not be text. A library is what it parses to and the text it
writes. Parsing gives valid UTF-8 only, and a value with a string that is not cannot be written.
-/

inductive Json
  | null
  | bool (b : Bool)
  | unsigned (n : ℕ)
  | integer (i : ℤ)
  | float (bits : UInt64)
  | str (s : List UInt8)
  | arr (elems : List Json)
  | obj (members : List (String × Json))

namespace Json

def validUtf8 (s : List UInt8) : Bool := ByteArray.validateUTF8 ⟨s.toArray⟩

mutual

/-- Every string in the value is UTF-8. -/
def utf8 : Json → Bool
  | .str s => validUtf8 s
  | .arr elems => utf8Elems elems
  | .obj members => utf8Members members
  | _ => true

def utf8Elems : List Json → Bool
  | [] => true
  | j :: elems => j.utf8 && utf8Elems elems

def utf8Members : List (String × Json) → Bool
  | [] => true
  | (_, j) :: members => j.utf8 && utf8Members members

end

/-- `j[key] = value` on the members of an object. -/
def set (members : List (String × Json)) (field : String × Json) : List (String × Json) :=
  (members.filter fun m => m.1 ≠ field.1).orderedInsert (fun a b => a.1 ≤ b.1) field

/-- Sets each of the fields in turn. -/
def update (members fields : List (String × Json)) : List (String × Json) :=
  fields.foldl set members

/-- A library: `parse`, which fails on what is not JSON, and the text of a value. -/
structure Library where
  parse : List UInt8 → Option Json
  text : Json → List UInt8
  utf8_of_parse : ∀ {s j}, parse s = some j → j.utf8 = true

namespace Library

def accept (lib : Library) (s : List UInt8) : Bool := (lib.parse s).isSome

/-- Writes a value, unless a string of it is not UTF-8. -/
def dump (lib : Library) (j : Json) : Option (List UInt8) :=
  if j.utf8 then some (lib.text j) else none

end Library

theorem utf8_obj (members : List (String × Json)) :
    (obj members).utf8 = utf8Members members := by
  rw [utf8]

theorem utf8_str (s : List UInt8) : (str s).utf8 = validUtf8 s := by
  rw [utf8]

theorem utf8_arr (elems : List Json) : (arr elems).utf8 = utf8Elems elems := by
  rw [utf8]

theorem Library.dump_isSome {lib : Library} {j : Json} :
    (lib.dump j).isSome = true ↔ j.utf8 = true := by
  unfold dump
  split_ifs with h
  · simp [h]
  · simp [h]

theorem utf8Elems_eq_true : ∀ {elems : List Json},
    utf8Elems elems = true ↔ ∀ j ∈ elems, j.utf8 = true
  | [] => by simp [utf8Elems]
  | j :: elems => by simp [utf8Elems, utf8Elems_eq_true]

theorem utf8Members_eq_true : ∀ {members : List (String × Json)},
    utf8Members members = true ↔ ∀ m ∈ members, m.2.utf8 = true
  | [] => by simp [utf8Members]
  | (k, j) :: members => by simp [utf8Members, utf8Members_eq_true]

theorem mem_set {members : List (String × Json)} {field m : String × Json} :
    m ∈ set members field ↔ m = field ∨ m ∈ members ∧ m.1 ≠ field.1 := by
  rw [set, List.mem_orderedInsert, List.mem_filter, decide_eq_true_eq]

/-- After an update with fields of distinct keys the object has these, and its old members with
other keys. -/
theorem mem_update {m : String × Json} : ∀ {fields members : List (String × Json)},
    (fields.map Prod.fst).Nodup →
      (m ∈ update members fields ↔ m ∈ fields ∨ m ∈ members ∧ m.1 ∉ fields.map Prod.fst)
  | [], members, _ => by simp [update]
  | f :: fields, members, h => by
    rw [List.map_cons, List.nodup_cons] at h
    change m ∈ update (set members f) fields ↔ _
    rw [mem_update h.2, mem_set, List.map_cons, List.mem_cons, List.mem_cons]
    constructor
    · rintro (hm | ⟨rfl | ⟨hm, hne⟩, hf⟩)
      · exact .inl (.inr hm)
      · exact .inl (.inl rfl)
      · exact .inr ⟨hm, fun hor => hor.elim hne hf⟩
    · rintro ((rfl | hm) | ⟨hm, hf⟩)
      · exact .inr ⟨.inl rfl, h.1⟩
      · exact .inl hm
      · exact .inr ⟨.inr ⟨hm, fun he => hf (.inl he)⟩, fun he => hf (.inr he)⟩

/-- An object built from fields of distinct keys over members that are UTF-8 is UTF-8 exactly when
the fields are. -/
theorem utf8_update {members fields : List (String × Json)} (hm : utf8Members members = true)
    (hf : (fields.map Prod.fst).Nodup) :
    (obj (update members fields)).utf8 = true ↔ ∀ f ∈ fields, f.2.utf8 = true := by
  rw [utf8_obj, utf8Members_eq_true]
  rw [utf8Members_eq_true] at hm
  simp only [mem_update hf]
  constructor
  · intro h f hfm
    exact h f (.inl hfm)
  · rintro h f (hfm | ⟨hfm, -⟩)
    · exact h f hfm
    · exact hm f hfm

end Json
