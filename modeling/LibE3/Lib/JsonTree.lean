import LibE3.Lib.JsonText

/-!
# Trees of JSON text

A tree has the parts that a well-formed text is made of, white space and the spelling of strings and
numbers included. The characters of a string and the value of a number are not looked at: a number
that no format holds is well-formed as well.
-/

namespace Json

/-- White space, as a part of a text. -/
abbrev Space := {w : List UInt8 // Ws w}

/-- What stands between the quotes of a string. -/
abbrev RawString := {raw : List UInt8 // ∃ us, Chars us raw}

inductive Part
  | value
  | elems
  | members
  | object

inductive Tree : Part → Type
  | null : Tree .value
  | bool (b : Bool) : Tree .value
  | number (n : Numeral) (valid : n.Valid) : Tree .value
  | string (raw : RawString) : Tree .value
  | emptyArray (w : Space) : Tree .value
  | array (es : Tree .elems) : Tree .value
  | object (o : Tree .object) : Tree .value
  | elem (w₁ : Space) (v : Tree .value) (w₂ : Space) : Tree .elems
  | elems (w₁ : Space) (v : Tree .value) (w₂ : Space) (es : Tree .elems) : Tree .elems
  | member (w₁ : Space) (name : RawString) (w₂ w₃ : Space) (v : Tree .value) (w₄ : Space) :
      Tree .members
  | members (w₁ : Space) (name : RawString) (w₂ w₃ : Space) (v : Tree .value) (w₄ : Space)
      (ms : Tree .members) : Tree .members
  | empty (w : Space) : Tree .object
  | braces (ms : Tree .members) : Tree .object

/-- The kinds of brackets. -/
inductive Bracket
  | curly
  | square
  deriving DecidableEq

namespace Bracket

def opening : Bracket → UInt8
  | curly => 0x7B
  | square => 0x5B

def closing : Bracket → UInt8
  | curly => 0x7D
  | square => 0x5D

/-- A text in brackets. -/
def around (b : Bracket) (t : List UInt8) : List UInt8 := b.opening :: (t ++ [b.closing])

end Bracket

/-- A member: white space, its name, its value and again white space. -/
def memberText (w₁ name w₂ w₃ v w₄ : List UInt8) : List UInt8 :=
  w₁ ++ 0x22 :: (name ++ 0x22 :: (w₂ ++ 0x3A :: (w₃ ++ (v ++ w₄))))

namespace Tree

def text : {p : Part} → Tree p → List UInt8
  | _, null => nullText
  | _, bool b => boolText b
  | _, number n _ => n.text
  | _, string raw => 0x22 :: (raw.1 ++ [0x22])
  | _, emptyArray w => Bracket.square.around w.1
  | _, array es => Bracket.square.around es.text
  | _, object o => o.text
  | _, elem w₁ v w₂ => w₁.1 ++ (v.text ++ w₂.1)
  | _, elems w₁ v w₂ es => w₁.1 ++ (v.text ++ (w₂.1 ++ 0x2C :: es.text))
  | _, member w₁ name w₂ w₃ v w₄ => memberText w₁.1 name.1 w₂.1 w₃.1 v.text w₄.1
  | _, members w₁ name w₂ w₃ v w₄ ms =>
    memberText w₁.1 name.1 w₂.1 w₃.1 v.text w₄.1 ++ 0x2C :: ms.text
  | _, empty w => Bracket.curly.around w.1
  | _, braces ms => Bracket.curly.around ms.text

/-- How many brackets of one kind are open at once. -/
def nesting (b : Bracket) : {p : Part} → Tree p → ℕ
  | _, null => 0
  | _, bool _ => 0
  | _, number _ _ => 0
  | _, string _ => 0
  | _, emptyArray _ => if b = .square then 1 else 0
  | _, array es => es.nesting b + if b = .square then 1 else 0
  | _, object o => o.nesting b
  | _, elem _ v _ => v.nesting b
  | _, elems _ v _ es => max (v.nesting b) (es.nesting b)
  | _, member _ _ _ _ v _ => v.nesting b
  | _, members _ _ _ _ v _ ms => max (v.nesting b) (ms.nesting b)
  | _, empty _ => if b = .curly then 1 else 0
  | _, braces ms => ms.nesting b + if b = .curly then 1 else 0

/-- How many brackets of the kind that encloses a value are open at once in it. -/
def ownNesting : Tree .value → ℕ
  | emptyArray w => (emptyArray w).nesting .square
  | array es => (array es).nesting .square
  | object o => o.nesting .curly
  | _ => 0

/-- A number or a word: what nothing encloses. -/
def isBare : Tree .value → Bool
  | null | bool _ | number _ _ => true
  | _ => false

end Tree

/-- A member of an object whose value starts at a place of a text. -/
structure Placed where
  name : List UInt8
  start : ℕ
  value : Tree .value

def Placed.span (m : Placed) : ℕ × ℕ := (m.start, m.start + m.value.text.length)

/-- The members up to the first one with this name. -/
def upTo (name : List UInt8) : List Placed → List Placed
  | [] => []
  | m :: ms => if m.name = name then [m] else m :: upTo name ms

namespace Tree

/-- The member that starts at `pos` with these parts. -/
def memberAt (w₁ name w₂ w₃ : List UInt8) (v : Tree .value) (pos : ℕ) : Placed where
  name := name
  start := pos + w₁.length + (name.length + 2) + w₂.length + 1 + w₃.length
  value := v

/-- The members of an object, of a tree that starts at `pos`. -/
def placed : {p : Part} → Tree p → ℕ → List Placed
  | _, member w₁ name w₂ w₃ v _, pos => [memberAt w₁.1 name.1 w₂.1 w₃.1 v pos]
  | _, members w₁ name w₂ w₃ v w₄ ms, pos =>
    let m := memberAt w₁.1 name.1 w₂.1 w₃.1 v pos
    m :: ms.placed (m.span.2 + w₄.1.length + 1)
  | _, empty _, _ => []
  | _, braces ms, pos => ms.placed (pos + 1)
  | _, _, _ => []

theorem add_length_memberText (w₁ name w₂ w₃ : List UInt8) (v : Tree .value) (w₄ : List UInt8)
    (pos : ℕ) : pos + (memberText w₁ name w₂ w₃ v.text w₄).length
      = (memberAt w₁ name w₂ w₃ v pos).span.2 + w₄.length := by
  simp only [memberText, memberAt, Placed.span, List.length_append, List.length_cons]
  omega

theorem text_number_head {n : Numeral} (hn : n.Valid) :
    ∃ c t, n.text = c :: t ∧ isWs c = false := by
  obtain ⟨c, t, ht, hc⟩ := hn.head
  refine ⟨c, t, ht, ?_⟩
  rw [isWs, Bool.eq_false_iff]
  intro hws
  simp only [Bool.or_eq_true, decide_eq_true_eq] at hws
  rcases hws with ((rfl | rfl) | rfl) | rfl <;> simp [isDigit] at hc

theorem exists_head : ∀ v : Tree .value, ∃ c t, v.text = c :: t ∧ isWs c = false
  | null => ⟨_, _, rfl, rfl⟩
  | bool true => ⟨_, _, rfl, rfl⟩
  | bool false => ⟨_, _, rfl, rfl⟩
  | number _ valid => text_number_head valid
  | string _ => ⟨_, _, rfl, rfl⟩
  | emptyArray _ => ⟨_, _, rfl, rfl⟩
  | array _ => ⟨_, _, rfl, rfl⟩
  | object (empty _) => ⟨_, _, rfl, rfl⟩
  | object (braces _) => ⟨_, _, rfl, rfl⟩

theorem ownNesting_of_head {c : UInt8} {t : List UInt8} :
    ∀ {v : Tree .value}, v.text = c :: t → c ≠ 0x7B → c ≠ 0x5B → v.ownNesting = 0
  | null, _, _, _ => rfl
  | bool _, _, _, _ => rfl
  | number _ _, _, _, _ => rfl
  | string _, _, _, _ => rfl
  | emptyArray _, h, _, hc => absurd (List.cons.inj h).1.symm hc
  | array _, h, _, hc => absurd (List.cons.inj h).1.symm hc
  | object (empty _), h, hc, _ => absurd (List.cons.inj h).1.symm hc
  | object (braces _), h, hc, _ => absurd (List.cons.inj h).1.symm hc

end Tree

/-- What a tree of a part has to do with what the part spells. -/
def Matches : (item : Item) → List UInt8 → Prop
  | .value _, t => ∃ v : Tree .value, v.text = t
  | .elems _, t => ∃ es : Tree .elems, es.text = t
  | .members ms, t => ∃ tree : Tree .members, tree.text = t ∧ ∀ pos,
      (tree.placed pos).map (fun m => (m.name, m.value.text))
        = ms.map fun m => (m.rawKey, m.valueText)

theorem Spells.matches {fmt : FloatFormat} {item : Item} {t : List UInt8}
    (h : Spells fmt item t) : Matches item t := by
  induction h with
  | null => exact ⟨.null, rfl⟩
  | bool b => exact ⟨.bool b, rfl⟩
  | number hn => exact ⟨.number _ hn, rfl⟩
  | string hraw => exact ⟨.string ⟨_, _, hraw⟩, rfl⟩
  | emptyArr hw => exact ⟨.emptyArray ⟨_, hw⟩, rfl⟩
  | arr _ ih =>
    obtain ⟨es, rfl⟩ := ih
    exact ⟨.array es, rfl⟩
  | emptyObj hw => exact ⟨.object (.empty ⟨_, hw⟩), rfl⟩
  | obj _ ih =>
    obtain ⟨ms, rfl, -⟩ := ih
    exact ⟨.object (.braces ms), rfl⟩
  | elem hw₁ _ hw₂ ih =>
    obtain ⟨v, rfl⟩ := ih
    exact ⟨.elem ⟨_, hw₁⟩ v ⟨_, hw₂⟩, rfl⟩
  | elems hw₁ _ hw₂ _ ihv ihs =>
    obtain ⟨v, rfl⟩ := ihv
    obtain ⟨es, rfl⟩ := ihs
    exact ⟨.elems ⟨_, hw₁⟩ v ⟨_, hw₂⟩ es, rfl⟩
  | member hw₁ hraw _ hw₂ hw₃ _ hw₄ ih =>
    obtain ⟨v, rfl⟩ := ih
    exact ⟨.member ⟨_, hw₁⟩ ⟨_, _, hraw⟩ ⟨_, hw₂⟩ ⟨_, hw₃⟩ v ⟨_, hw₄⟩, rfl, fun _ => rfl⟩
  | members hw₁ hraw _ hw₂ hw₃ _ hw₄ _ ihv ihs =>
    obtain ⟨v, rfl⟩ := ihv
    obtain ⟨ms, rfl, hplaced⟩ := ihs
    refine ⟨.members ⟨_, hw₁⟩ ⟨_, _, hraw⟩ ⟨_, hw₂⟩ ⟨_, hw₃⟩ v ⟨_, hw₄⟩ ms, ?_, fun pos => ?_⟩
    · simp [Tree.text, memberText]
    · simp only [Tree.placed, Tree.memberAt, List.map_cons, hplaced]

end Json
