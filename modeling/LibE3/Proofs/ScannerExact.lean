import LibE3.Proofs.ScannerSpans

/-!
# What the scanner finds

The search for a member returns the place of the value of the first member with the name, and
nothing when there is none, as long as the values up to that member are no deeper than an `int`
counts.
-/

namespace LibE3.JsonE3Encoder

open Faults Json

variable {text : Bytes} {pos : ℕ}

theorem span_object {s : Bytes} : ∀ {o : Tree .object}, text.drop pos = o.text ++ s →
    ∀ m ∈ o.placed pos, span text m.span = m.value.text
  | .empty _, _ => nofun
  | .braces ms, h => by
    have hopen : text.drop pos = 0x7B :: (ms.text ++ 0x7D :: s) := by
      simpa [Tree.text, Bracket.around, Bracket.opening, Bracket.closing] using h
    exact Reads.span_members ms (drop_succ hopen)

theorem find_span {ms : List RawMember} {s : Bytes} {o : Tree .object}
    (key : Bytes) (h : text.drop pos = o.text ++ s)
    (hplaced : (o.placed pos).map (fun m => (m.name, m.value.text))
      = ms.map fun m => (m.rawKey, m.valueText)) :
    ((o.placed pos).find? fun m => m.name = key).map (fun m => span text m.span)
      = (ms.find? fun m => m.rawKey = key).map RawMember.valueText := by
  have hfind := congrArg (fun l => (l.find? fun p => p.1 = key).map Prod.snd) hplaced
  simp only [List.find?_map, Option.map_map] at hfind
  refine Eq.trans (Option.map_congr fun m hm => ?_) hfind
  exact span_object h m (List.mem_of_find?_eq_some hm)

theorem Reads.found_append {limit : ℕ} {key : Bytes} {before behind : List Placed} {m : Placed}
    (hbefore : ∀ p ∈ before, p.name ≠ key ∧ p.value.ownNesting ≤ limit) (hm : m.name = key) :
    Reads.found limit key (before ++ m :: behind)
      = if m.value.ownNesting ≤ limit then .ok (some m.span) else .error .overflow := by
  induction before with
  | nil => rw [List.nil_append, Reads.found_cons, if_pos hm]
  | cons p before ih =>
    obtain ⟨⟨hname, hdepth⟩, hbefore⟩ := List.forall_mem_cons.mp hbefore
    rw [List.cons_append, Reads.found_cons, if_pos hdepth, if_neg hname, ih hbefore]

theorem Reads.found_eq_iff {limit : ℕ} {key : Bytes} {ms : List Placed} :
    (Reads.found limit key ms = .ok ((ms.find? fun m => m.name = key).map Placed.span)
      ↔ ∀ m ∈ upTo key ms, m.value.ownNesting ≤ limit)
    ∧ (Reads.found limit key ms = .ok none
      ↔ ∀ m ∈ ms, m.name ≠ key ∧ m.value.ownNesting ≤ limit) := by
  induction ms with
  | nil => simp [Reads.found, upTo]
  | cons m ms ih =>
    rw [Reads.found_cons]
    by_cases hkey : m.name = key
    · by_cases hdepth : m.value.ownNesting ≤ limit <;> simp [upTo, hkey, hdepth]
    · by_cases hdepth : m.value.ownNesting ≤ limit <;> simp [upTo, hkey, hdepth, ih]

/-! ## The depth of a text -/

theorem skipJsonValue_padded {limit : ℕ} (hlimit : 0 < limit) (w : Space) (v : Tree .value)
    (u : Space) (htext : text = w.1 ++ (v.text ++ u.1)) :
    Reads.skipWs (text.length + 1) text 0 = .ok w.1.length
      ∧ Reads.skipJsonValue limit (text.length + 1) text w.1.length
        = if v.ownNesting ≤ limit then .ok (some (w.1.length + v.text.length))
          else .error .overflow := by
  have hu : ∀ c ∈ u.1.head?, Delimiter c := fun c hc =>
    .inr (.inr (.inr (u.2 c (List.mem_of_mem_head? hc))))
  have hdrop : text.drop w.1.length = v.text ++ u.1 := by rw [htext, List.drop_left]
  obtain ⟨c, t, ht, hc⟩ := v.exists_head
  have hstart : text.drop 0 = w.1 ++ c :: (t ++ u.1) := by
    rw [htext, ht]
    rfl
  have hws := (Reads.skipWs_at text.length.lt_succ_self w hc hstart).1
  rw [Nat.zero_add] at hws
  exact ⟨hws, Reads.skipJsonValue_at text.length.lt_succ_self hlimit hu hdrop⟩

/-- A text whose value opens more brackets of its own kind at once than an `int` counts. -/
def TooDeep (raw : Bytes) : Prop :=
  ∃ (w : Space) (v : Tree .value) (u : Space),
    raw = w.1 ++ (v.text ++ u.1) ∧ intMax < v.ownNesting

theorem tooDeep_iff (w : Space) (v : Tree .value) (u : Space) :
    TooDeep (w.1 ++ (v.text ++ u.1)) ↔ intMax < v.ownNesting := by
  constructor
  · rintro ⟨w', v', u', heq, hdeep⟩
    obtain ⟨hws, hvalue⟩ := skipJsonValue_padded (by decide : 0 < intMax) w v u rfl
    obtain ⟨hws', hvalue'⟩ := skipJsonValue_padded (by decide : 0 < intMax) w' v' u' heq
    rw [Except.ok.inj (hws.symm.trans hws'), hvalue', if_neg hdeep.not_ge] at hvalue
    by_contra hle
    rw [if_pos (not_lt.mp hle)] at hvalue
    cases hvalue
  · exact fun hdeep => ⟨w, v, u, rfl, hdeep⟩

theorem TooDeep.lt_length {raw : Bytes} (h : TooDeep raw) : intMax < raw.length := by
  obtain ⟨w, v, u, heq, hdeep⟩ := h
  have hvalue := (skipJsonValue_padded (by decide : 0 < intMax) w v u heq).2
  rw [if_neg hdeep.not_ge] at hvalue
  obtain ⟨r, hr, -⟩ | ⟨-, hlt⟩ :=
    Reads.skipJsonValue_counts intMax raw.length.lt_succ_self w.1.length
  · cases hr.symm.trans hvalue
  · exact hlt

/-! ## The scanner as a whole -/

/-- The search in an object finds the place of the value of the first member with the name, and
nothing exactly when there is none, as long as no value up to that member is deeper than an `int`
counts. A value is skipped to its end if it is no deeper than that and, when it is a number or a
word, white space, a comma, a closing bracket or the end of the text follows. On any text at all
both end without an access out of bounds; only a text of more bytes than an `int` counts makes the
depth overflow. -/
theorem scanner_exact (text key : Bytes) (pos fuel : ℕ) (hfuel : text.length < fuel) :
    (∀ (o : Tree .object) (s : Bytes), text.drop pos = o.text ++ s →
      (∀ m ∈ o.placed pos, span text m.span = m.value.text)
      ∧ (Reads.findTopLevelMemberSpan intMax fuel text pos key
            = .ok (((o.placed pos).find? fun m => m.name = key).map Placed.span)
          ↔ ∀ m ∈ upTo key (o.placed pos), m.value.ownNesting ≤ intMax)
      ∧ (Reads.findTopLevelMemberSpan intMax fuel text pos key = .ok none
          ↔ ∀ m ∈ o.placed pos, m.name ≠ key ∧ m.value.ownNesting ≤ intMax))
    ∧ (∀ (v : Tree .value) (s : Bytes), text.drop pos = v.text ++ s →
      (Reads.skipJsonValue intMax fuel text pos = .ok (some (pos + v.text.length))
        ↔ v.ownNesting ≤ intMax ∧ (v.isBare = true → ∀ c ∈ s.head?, Delimiter c)))
    ∧ ((∃ r, Reads.findTopLevelMemberSpan intMax fuel text pos key = .ok r)
      ∨ Reads.findTopLevelMemberSpan intMax fuel text pos key = .error .overflow
        ∧ intMax < text.length)
    ∧ ((∃ r, Reads.skipJsonValue intMax fuel text pos = .ok r)
      ∨ Reads.skipJsonValue intMax fuel text pos = .error .overflow ∧ intMax < text.length) := by
  have hlimit : 0 < intMax := by decide
  refine ⟨fun o s h => ?_, fun v s h => Reads.skipJsonValue_eq_iff hfuel hlimit h, ?_, ?_⟩
  · rw [Reads.findTopLevelMemberSpan_tree key hfuel hlimit h]
    exact ⟨span_object h, Reads.found_eq_iff.1, Reads.found_eq_iff.2⟩
  · exact (Reads.findTopLevelMemberSpan_finds intMax hfuel pos key).imp_left fun h =>
      ⟨h.choose, h.choose_spec.1⟩
  · exact (Reads.skipJsonValue_counts intMax hfuel pos).imp_left fun h =>
      ⟨h.choose, h.choose_spec.1⟩

def noSpace : Space := ⟨[], ws_nil⟩

def memberA (v : Tree .value) : Tree .object :=
  .braces (.member noSpace ⟨[0x61], _, .byte (by decide) (by decide) (by decide) .nil⟩ noSpace
    noSpace v noSpace)

/-- `{"a":[]}` behind a blank. -/
theorem scanner_exact_array :
    (0x20 :: (memberA (.emptyArray noSpace)).text).length < 10
      ∧ Reads.findTopLevelMemberSpan intMax 10 (0x20 :: (memberA (.emptyArray noSpace)).text) 1
        [0x61] = .ok (some (6, 8)) := by
  have hexact := scanner_exact (0x20 :: (memberA (.emptyArray noSpace)).text) [0x61] 1 10
    (by decide)
  exact ⟨by decide, (hexact.1 (memberA (.emptyArray noSpace)) [] rfl).2.1.mpr (by decide)⟩

/-! ## Where it does not -/

def nested : ℕ → Tree .value
  | 0 => .emptyArray noSpace
  | n + 1 => .array (.elem noSpace (nested n) noSpace)

theorem nesting_nested : ∀ n, (nested n).nesting .square = n + 1
  | 0 => rfl
  | n + 1 => by
    rw [nested, Tree.nesting, Tree.nesting, nesting_nested n]
    rfl

theorem ownNesting_nested (n : ℕ) : (nested n).ownNesting = n + 1 := by
  rw [← nesting_nested n]
  cases n <;> rfl

/-- A number goes on to the next delimiter, and 2^31 arrays in each other are too many. -/
theorem scanner_not_exact :
    (∃ v : Tree .value, v.text = [0x31]
      ∧ Reads.skipJsonValue intMax 3 [0x31, 0x78] 0 = .ok (some 2))
    ∧ (∃ v : Tree .value, ∀ fuel, v.text.length < fuel →
      Reads.skipJsonValue intMax fuel v.text 0 = .error .overflow)
    ∧ ∃ (o : Tree .object) (key : Bytes), (∃ m ∈ o.placed 0, m.name = key)
      ∧ ∀ fuel, o.text.length < fuel →
        Reads.findTopLevelMemberSpan intMax fuel o.text 0 key = .error .overflow := by
  have hlimit : 0 < intMax := by decide
  have hdeep : ¬(nested intMax).ownNesting ≤ intMax := by
    rw [ownNesting_nested]
    omega
  refine ⟨?_, ⟨nested intMax, fun fuel hfuel => ?_⟩, ?_⟩
  · have hvalid : Numeral.Valid ⟨false, [0x31], none, none⟩ :=
      ⟨⟨by simp, by simp [isDigit]⟩, by simp, by rintro _ ⟨⟩, by rintro _ ⟨⟩⟩
    exact ⟨.number _ hvalid, rfl, by decide⟩
  · have hbare : (nested intMax).isBare = false := rfl
    rw [Reads.skipJsonValue_enclosed hfuel hlimit hbare (List.append_nil _).symm, if_neg hdeep]
  · refine ⟨memberA (nested intMax), [0x61], ⟨_, List.mem_singleton_self _, rfl⟩,
      fun fuel hfuel => ?_⟩
    rw [Reads.findTopLevelMemberSpan_tree _ hfuel hlimit (List.append_nil _).symm, memberA,
      Tree.placed, Tree.placed, Reads.found_cons]
    exact if_neg hdeep

end LibE3.JsonE3Encoder
