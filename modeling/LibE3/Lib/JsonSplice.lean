import LibE3.Lib.JsonWriter
import Mathlib.Data.List.DropRight

/-!
# Text inserted into an object

A member whose value is text that is not the library's own, inserted into the text of an object:
when the text is JSON the result is an object with one more member. When it starts with a byte
order mark, or the text ends behind it, the result is not JSON.
-/

namespace Json

/-! ## Lookup -/

theorem lookup_cons_eq (key : String) (m : String × Json) (members : List (String × Json)) :
    (m :: members).lookup key = if key = m.1 then some m.2 else members.lookup key := by
  rw [List.lookup_cons]
  split_ifs with h
  · simp [h]
  · simp [beq_eq_false_iff_ne.mpr h]

theorem lookup_orderedInsert {f : String × Json} (key : String) :
    ∀ {members : List (String × Json)}, (∀ m ∈ members, m.1 ≠ f.1) →
      (members.orderedInsert (fun a b => a.1 ≤ b.1) f).lookup key
        = if key = f.1 then some f.2 else members.lookup key
  | [], _ => by rw [List.orderedInsert_nil, lookup_cons_eq]
  | m :: members, h => by
    have hm := h m List.mem_cons_self
    have ih := lookup_orderedInsert key fun n hn => h n (List.mem_cons_of_mem m hn)
    rw [List.orderedInsert_cons]
    split_ifs with hle hkey hkey
    · rw [lookup_cons_eq, if_pos hkey]
    · rw [lookup_cons_eq, if_neg hkey]
    · rw [lookup_cons_eq, if_neg (by rw [hkey]; exact hm.symm), ih, if_pos hkey]
    · rw [lookup_cons_eq, ih, if_neg hkey, lookup_cons_eq]

theorem lookup_filter {f key : String} (h : key ≠ f) : ∀ members : List (String × Json),
    (members.filter fun m => m.1 ≠ f).lookup key = members.lookup key
  | [] => rfl
  | m :: members => by
    rw [List.filter_cons]
    split_ifs with hm
    · rw [lookup_cons_eq, lookup_cons_eq, lookup_filter h members]
    · have hne : key ≠ m.1 := fun he => h (he.trans (by simpa using hm))
      rw [lookup_filter h members, lookup_cons_eq, if_neg hne]

theorem lookup_set (members : List (String × Json)) (f : String × Json) (key : String) :
    (set members f).lookup key = if key = f.1 then some f.2 else members.lookup key := by
  rw [set, lookup_orderedInsert key fun m hm => of_decide_eq_true (List.mem_filter.mp hm).2]
  split_ifs with h
  · rfl
  · exact lookup_filter h members

theorem lookup_update (key : String) : ∀ (fields members : List (String × Json)),
    (update members fields).lookup key = (fields.reverse.lookup key).or (members.lookup key)
  | [], members => by simp [update]
  | f :: fields, members => by
    change (update (set members f) fields).lookup key = _
    rw [lookup_update key fields, lookup_set, List.reverse_cons, List.lookup_append,
      Option.or_assoc, lookup_cons_eq]
    split_ifs with h
    · rfl
    · rfl

/-! ## Members one after the other -/

variable {fmt : FloatFormat}

theorem Spells.append_members {ms ns : List RawMember} {s t : List UInt8}
    (hs : Spells fmt (.members ms) s) (ht : Spells fmt (.members ns) t) :
    Spells fmt (.members (ms ++ ns)) (s ++ 0x2C :: t) := by
  generalize hitem : Item.members ms = item at hs
  induction hs generalizing ms with
  | member hw₁ hraw hkey hw₂ hw₃ hv hw₄ =>
    obtain rfl := Item.members.inj hitem
    simpa using Spells.members hw₁ hraw hkey hw₂ hw₃ hv hw₄ ht
  | members hw₁ hraw hkey hw₂ hw₃ hv hw₄ _ _ ih =>
    obtain rfl := Item.members.inj hitem
    simpa using Spells.members hw₁ hraw hkey hw₂ hw₃ hv hw₄ (ih rfl)
  | _ => cases hitem

/-- A member has a name and a value that its text spells. -/
structure RawMember.IsSpelled (fmt : FloatFormat) (m : RawMember) : Prop where
  key : ∃ us s, Chars us m.rawKey ∧ stringValue us = some s ∧ m.key = keyOf s
  value : Spells fmt (.value m.value) m.valueText

variable {t : List UInt8}

theorem Spells.isSpelled {ms : List RawMember} (h : Spells fmt (.members ms) t) :
    ∀ m ∈ ms, m.IsSpelled fmt := by
  generalize hitem : Item.members ms = item at h
  induction h generalizing ms with
  | member _ hraw hkey _ _ hv _ =>
    obtain rfl := Item.members.inj hitem
    exact List.forall_mem_singleton.mpr ⟨⟨_, _, hraw, hkey, rfl⟩, hv⟩
  | members _ hraw hkey _ _ hv _ _ _ ih =>
    obtain rfl := Item.members.inj hitem
    exact List.forall_mem_cons.mpr ⟨⟨⟨_, _, hraw, hkey, rfl⟩, hv⟩, ih rfl⟩
  | _ => cases hitem

theorem RawMember.IsSpelled.key_eq {m : RawMember} (h : m.IsSpelled fmt) {key : String}
    (hkey : m.rawKey = escape (keyText key)) : m.key = key := by
  obtain ⟨us, s, hraw, hs, hname⟩ := h.key
  obtain ⟨us', hraw', hs'⟩ := stringValue_escape (validUtf8_keyText key)
  have hread := hraw.readChars []
  rw [hkey, hraw'.readChars, Option.some_inj, Prod.mk.injEq] at hread
  rw [← hread.1, hs', Option.some_inj] at hs
  rw [hname, ← hs, keyOf_keyText]

theorem writeMembers_append : ∀ {as bs : List (String × Json)}, as ≠ [] → bs ≠ [] →
    writeMembers fmt (as ++ bs) = writeMembers fmt as ++ 0x2C :: writeMembers fmt bs
  | [], _, h, _ => absurd rfl h
  | [(key, j)], [], _, h => absurd rfl h
  | [(key, j)], b :: bs, _, _ => by simp [writeMembers]
  | (key, j) :: a :: as, bs, _, h => by
    have ih := writeMembers_append (List.cons_ne_nil a as) h
    simp only [List.cons_append] at ih ⊢
    rw [writeMembers, writeMembers, ih]
    simp

variable {j : Json}

theorem IsText.member {raw : List UInt8} (h : IsText fmt j raw) (key : String) :
    ∃ v w₁ w₂, Ws w₁ ∧ Spells fmt (.value j) v ∧ Ws w₂ ∧ raw = w₁ ++ (v ++ w₂)
      ∧ Spells fmt (.members [⟨escape (keyText key), key, v, j⟩])
        (quote (keyText key) ++ 0x3A :: raw) := by
  obtain ⟨w₁, v, w₂, hw₁, hv, hw₂, rfl⟩ := h
  obtain ⟨us, hraw, hs⟩ := stringValue_escape (validUtf8_keyText key)
  have hspells := Spells.member ws_nil hraw hs ws_nil hw₁ hv hw₂
  rw [keyOf_keyText] at hspells
  exact ⟨v, w₁, w₂, hw₁, hv, hw₂, rfl, by simpa [quote] using hspells⟩

/-! ## Text that is not JSON -/

/-- No reader of members accepts the text, whatever its fuel, if there is enough of it. -/
def Fails (fmt : FloatFormat) (t : List UInt8) : Prop :=
  ∃ enough, ∀ fuel, enough ≤ fuel → readMembers fmt fuel t = none

theorem Fails.cons {key : String} (h : Fails fmt t) (hj : Held fmt j) :
    Fails fmt (quote (keyText key) ++ 0x3A :: (write fmt j ++ 0x2C :: t)) := by
  obtain ⟨enough, hfails⟩ := h
  obtain ⟨us, hraw, hs⟩ := stringValue_escape (validUtf8_keyText key)
  have hv := spells_write j hj
  refine ⟨enough + (write fmt j).length + 1, fun fuel hfuel => ?_⟩
  obtain ⟨fuel, rfl⟩ : ∃ f, fuel = f + 1 := ⟨fuel - 1, by omega⟩
  have hread := hv.reads.readMembers (c := 0x2C) (t := t) ws_nil hraw hs ws_nil ws_nil hv ws_nil
    (.inl rfl) (show (write fmt j).length ≤ fuel by omega)
  rw [if_pos rfl, hfails fuel (by omega)] at hread
  simpa [quote] using hread

theorem Fails.writeMembers_append (h : Fails fmt t) {members : List (String × Json)}
    (hne : members ≠ []) (hheld : HeldMembers fmt members) :
    Fails fmt (writeMembers fmt members ++ 0x2C :: t) := by
  induction members with
  | nil => exact absurd rfl hne
  | cons m members ih =>
    rw [HeldMembers] at hheld
    rcases members with _ | ⟨m', members⟩
    · simpa [writeMembers] using h.cons hheld.1
    · simpa [writeMembers] using (ih (List.cons_ne_nil m' members) hheld.2).cons hheld.1

theorem readMembers_quote (key : String) (fuel : ℕ) (t : List UInt8) :
    readMembers fmt (fuel + 1) (quote (keyText key) ++ 0x3A :: t)
      = (readValue fmt fuel (skipWs t)).bind fun p =>
          match skipWs p.2 with
          | [] => none
          | d :: t =>
            if d = 0x2C then (readMembers fmt fuel t).map fun q => ((key, p.1) :: q.1, q.2)
            else if d = 0x7D then some ([(key, p.1)], t)
            else none := by
  obtain ⟨us, hraw, hs⟩ := stringValue_escape (validUtf8_keyText key)
  have hquote : quote (keyText key) ++ 0x3A :: t
      = 0x22 :: (escape (keyText key) ++ 0x22 :: 0x3A :: t) := by simp [quote]
  rw [hquote, readMembers, skipWs_cons (by decide), List.head?_cons, if_pos rfl, List.tail_cons,
    hraw.readChars, Option.bind_some, hs, Option.bind_some, keyOf_keyText]
  dsimp only
  rw [skipWs_cons (by decide), List.head?_cons, if_pos rfl]
  rfl

theorem readValue_bom (fuel : ℕ) (t : List UInt8) : readValue fmt fuel (bom ++ t) = none := by
  rcases fuel with _ | fuel
  · rw [readValue]
  · rw [bom, List.cons_append, readValue]
    simp [readNumeral, readMinus, readInteger, readDigits, isDigit]

theorem fails_bom (key : String) (t : List UInt8) :
    Fails fmt (quote (keyText key) ++ 0x3A :: (bom ++ t)) := by
  refine ⟨1, fun fuel hfuel => ?_⟩
  obtain ⟨fuel, rfl⟩ : ∃ f, fuel = f + 1 := ⟨fuel - 1, by omega⟩
  have hskip : skipWs (bom ++ t) = bom ++ t := skipWs_cons rfl
  rw [readMembers_quote, hskip, readValue_bom, Option.bind_none]

theorem IsText.fails {raw : List UInt8} (h : IsText fmt j raw) (key : String) :
    Fails fmt (quote (keyText key) ++ 0x3A :: raw) := by
  obtain ⟨w₁, v, w₂, hw₁, hv, hw₂, rfl⟩ := h
  refine ⟨v.length + 1, fun fuel hfuel => ?_⟩
  obtain ⟨fuel, rfl⟩ : ∃ f, fuel = f + 1 := ⟨fuel - 1, by omega⟩
  have hends : Ends w₂ := List.append_nil w₂ ▸ hw₂.ends ends_nil
  rw [readMembers_quote, skipWs_ws hw₁, hv.skipWs, hv.reads fuel w₂ (by omega) hends,
    Option.bind_some]
  simp only [skipWs_eq_nil.mpr hw₂]

theorem Fails.not_isText (h : Fails fmt t) (hhead : (skipWs t).head? ≠ some 0x7D) :
    ¬IsText fmt j (0x7B :: t) := by
  rintro ⟨w₁, v, w₂, hw₁, hv, hw₂, heq⟩
  obtain ⟨enough, hfails⟩ := h
  have hskip := congrArg skipWs heq
  rw [skipWs_cons (by decide), skipWs_ws hw₁, hv.skipWs] at hskip
  have hends : Ends w₂ := List.append_nil w₂ ▸ hw₂.ends ends_nil
  have hread := hv.reads (enough + v.length + 1) w₂ (by omega) hends
  rw [← hskip, readValue, if_pos rfl, if_neg hhead, hfails _ (by omega)] at hread
  cases hread

/-! ## The text of an object with a member inserted -/

/-- What follows the inserted member. -/
def spliceTail (fmt : FloatFormat) : List (String × Json) → List UInt8
  | [] => [0x7D]
  | m :: members => 0x2C :: (writeMembers fmt (m :: members) ++ [0x7D])

/-- The object with the members `pre` and `post`, and between them a member with the text `raw`. -/
def splice (fmt : FloatFormat) (pre : List (String × Json)) (key : String) (raw : List UInt8)
    (post : List (String × Json)) : List UInt8 :=
  0x7B :: (writeMembers fmt pre ++ 0x2C :: (quote (keyText key) ++ 0x3A :: raw)
    ++ spliceTail fmt post)

section

variable {pre post : List (String × Json)} {key : String} {raw : List UInt8}

variable (key) in
theorem spells_splice (hpre : pre ≠ []) (hheld : HeldMembers fmt (pre ++ post))
    (h : IsText fmt j raw) : ∃ v w₁ w₂ t,
      Ws w₁ ∧ Spells fmt (.value j) v ∧ Ws w₂ ∧ raw = w₁ ++ (v ++ w₂)
        ∧ splice fmt pre key raw post = 0x7B :: (t ++ [0x7D])
        ∧ Spells fmt (.members (pre.map (rawMember fmt) ++
            ⟨escape (keyText key), key, v, j⟩ :: post.map (rawMember fmt))) t := by
  obtain ⟨v, w₁, w₂, hw₁, hv, hw₂, hraw, hmember⟩ := h.member key
  have hheld' := heldMembers_iff.mp hheld
  have hpreSpells := (spells_writeMembers pre hpre (heldMembers_iff.mpr fun m hm =>
    hheld' m (List.mem_append_left post hm))).append_members hmember
  refine ⟨v, w₁, w₂, ?_⟩
  rcases post with _ | ⟨m, post⟩
  · exact ⟨_, hw₁, hv, hw₂, hraw, rfl, by simpa using hpreSpells⟩
  · have hpost := spells_writeMembers (m :: post) (List.cons_ne_nil m post)
      (heldMembers_iff.mpr fun n hn => hheld' n (List.mem_append_right pre hn))
    refine ⟨writeMembers fmt pre ++ 0x2C :: (quote (keyText key) ++ 0x3A :: raw)
      ++ 0x2C :: writeMembers fmt (m :: post), hw₁, hv, hw₂, hraw, ?_, ?_⟩
    · simp [splice, spliceTail]
    · simpa using hpreSpells.append_members hpost

variable (key) in
theorem isText_splice (hpre : pre ≠ []) (hheld : HeldMembers fmt (pre ++ post))
    (h : IsText fmt j raw) :
    IsText fmt (.obj (update [] (pre ++ (key, j) :: post))) (splice fmt pre key raw post) := by
  obtain ⟨v, w₁, w₂, t, -, -, -, -, ht, hspells⟩ := spells_splice key hpre hheld h
  have hobj := Spells.obj hspells
  rw [List.map_append, List.map_cons, map_field_rawMember, map_field_rawMember] at hobj
  exact ⟨[], _, [], ws_nil, hobj, ws_nil, by rw [ht]; simp⟩

theorem head_splice (hpre : pre ≠ []) (t : List UInt8) :
    (skipWs (writeMembers fmt pre ++ t)).head? ≠ some 0x7D := by
  rcases pre with _ | ⟨⟨k, j⟩, _ | ⟨m, members⟩⟩
  · exact absurd rfl hpre
  · simp [writeMembers, quote, skipWs_cons, isWs]
  · simp [writeMembers, quote, skipWs_cons, isWs]

theorem zero_notMem_writeMembers {members : List (String × Json)}
    (h : HeldMembers fmt members) : 0 ∉ writeMembers fmt members := by
  rcases members with _ | ⟨m, members⟩
  · simp [writeMembers]
  · exact (spells_writeMembers (m :: members) (List.cons_ne_nil m members) h).zero_notMem

theorem zero_notMem_quote (key : String) : 0 ∉ quote (keyText key) := by
  obtain ⟨us, hraw, -⟩ := stringValue_escape (validUtf8_keyText key)
  simpa [quote] using hraw.zero_notMem

theorem takeWhile_splice (hheld : HeldMembers fmt (pre ++ post)) :
    (splice fmt pre key raw post).takeWhile (· ≠ 0)
      = 0x7B :: (writeMembers fmt pre ++ 0x2C :: (quote (keyText key) ++
          0x3A :: (raw ++ spliceTail fmt post).takeWhile (· ≠ 0))) := by
  have hpre : 0 ∉ writeMembers fmt pre := zero_notMem_writeMembers (heldMembers_iff.mpr
    fun m hm => heldMembers_iff.mp hheld m (List.mem_append_left post hm))
  have hbefore : 0 ∉ 0x7B :: (writeMembers fmt pre ++ 0x2C :: (quote (keyText key) ++ [0x3A])) := by
    simp [hpre, zero_notMem_quote]
  have hsplice : splice fmt pre key raw post
      = (0x7B :: (writeMembers fmt pre ++ 0x2C :: (quote (keyText key) ++ [0x3A])))
        ++ (raw ++ spliceTail fmt post) := by
    simp [splice]
  rw [hsplice, takeWhile_append_of_notMem hbefore]
  simp

variable (key) in
/-- A text that starts with a byte order mark, or has a zero byte, makes the object unreadable. -/
theorem Library.Follows.parse_splice {lib : Library} (hlib : lib.Follows fmt) (hpre : pre ≠ [])
    (hheld : HeldMembers fmt (pre ++ post)) (hj : lib.parse raw = some j)
    (hbad : 0 ∈ raw ∨ bom <+: raw) : lib.parse (splice fmt pre key raw post) = none := by
  have hheldPre : HeldMembers fmt pre := heldMembers_iff.mpr fun m hm =>
    heldMembers_iff.mp hheld m (List.mem_append_left post hm)
  -- the value that the reader meets, up to the first zero byte
  have hfails : Fails fmt (quote (keyText key) ++
      0x3A :: (raw ++ spliceTail fmt post).takeWhile (· ≠ 0)) := by
    by_cases hzero : 0 ∈ raw
    · have htext := hlib.isText hj
      rw [takeWhile_append_of_mem hzero]
      by_cases hbom : bom <+: raw.takeWhile (· ≠ 0)
      · obtain ⟨r, hr⟩ := hbom
        rw [← hr]
        exact fails_bom key r
      · rw [skipBom, if_neg hbom] at htext
        exact htext.fails key
    · obtain ⟨r, rfl⟩ := hbad.resolve_left hzero
      rw [takeWhile_append_of_notMem hzero, List.append_assoc]
      exact fails_bom key _
  by_contra hsome
  obtain ⟨k, hk⟩ := Option.ne_none_iff_exists'.mp hsome
  have htext := hlib.isText hk
  rw [takeWhile_splice hheld, skipBom, if_neg (by rintro ⟨r, hr⟩; simp [bom] at hr)] at htext
  exact (hfails.writeMembers_append hpre hheldPre).not_isText (head_splice hpre _) htext

end

end Json
