import LibE3.E2smDapp.Memory
import LibE3.Proofs.E2smCApi

/-!
# No decoder leaks

A conversion holds what it has allocated in its output, at every point where it may throw: an array
is attached as soon as it is there, and its length counts only elements that are complete, or that
are zero. So releasing the output frees each block exactly once.
-/

namespace LibE3.E2smDapp.Mem

open InPlace

/-! ## What an object holds -/

/-- What the release of an object frees, and the object without its blocks. -/
class Object (σ : Type) (γ : outParam Type) where
  zero : σ
  owned : σ → List ℕ
  erase : σ → γ
  owned_zero : owned zero = []

export Object (zero owned erase)

attribute [simp] Object.owned_zero

section Instances

instance : Object UInt8 UInt8 := ⟨0, fun _ => [], id, rfl⟩

instance : Object UInt32 UInt32 := ⟨0, fun _ => [], id, rfl⟩

instance {α β : Type} [Object α β] : Object (Buffer α) (CArray β) where
  zero := {}
  owned b :=
    match b.data with
    | none => []
    | some blk => (blk.cells.take b.len).flatMap owned ++ [blk.id]
  erase b := ⟨b.data.map fun blk => blk.cells.map erase, b.len⟩
  owned_zero := rfl

instance : Object SubItem C.SubItem where
  zero := {}
  owned o := owned o.ranFunctions
  erase o := { dappId := o.dappId, ranFunctions := erase o.ranFunctions }
  owned_zero := rfl

instance : Object ReportStyle C.ReportStyle where
  zero := {}
  owned o := owned o.name ++ owned o.dappE3Subscriptions
  erase o :=
    { reportStyleType := o.reportStyleType
      name := erase o.name
      indHdrFormatType := o.indHdrFormatType
      indMsgFormatType := o.indMsgFormatType
      hasDappE3Subscriptions := o.hasDappE3Subscriptions
      dappE3Subscriptions := erase o.dappE3Subscriptions }
  owned_zero := rfl

instance : Object CtrlStyle C.CtrlStyle where
  zero := {}
  owned o := owned o.name ++ owned o.dappE3Subscriptions
  erase o :=
    { ctrlStyleType := o.ctrlStyleType
      name := erase o.name
      ctrlHdrFormatType := o.ctrlHdrFormatType
      ctrlMsgFormatType := o.ctrlMsgFormatType
      ctrlOutcomeFormatType := o.ctrlOutcomeFormatType
      hasDappE3Subscriptions := o.hasDappE3Subscriptions
      dappE3Subscriptions := erase o.dappE3Subscriptions }
  owned_zero := rfl

instance : Object RanFunctionName C.RanFunctionName where
  zero := {}
  owned n := owned n.shortName ++ owned n.e2smOid ++ owned n.description
  erase n :=
    { shortName := erase n.shortName
      e2smOid := erase n.e2smOid
      description := erase n.description
      hasInstance := n.hasInstance
      inst := n.inst }
  owned_zero := rfl

instance : Object RanFunctionDefinition C.RanFunctionDefinition where
  zero := {}
  owned d := owned d.name ++ owned d.reportStyles ++ owned d.ctrlStyles
  erase d :=
    { name := erase d.name
      hasEventTrigger := d.hasEventTrigger
      hasReport := d.hasReport
      reportStyles := erase d.reportStyles
      hasCtrl := d.hasCtrl
      ctrlStyles := erase d.ctrlStyles }
  owned_zero := rfl

instance : Object IndMsg C.IndMsg where
  zero := {}
  owned d := owned d.frmt1 ++ owned d.frmt2
  erase d := { format := d.format, frmt1 := erase d.frmt1, frmt2 := erase d.frmt2 }
  owned_zero := rfl

instance : Object CtrlMsg C.CtrlMsg where
  zero := {}
  owned d := owned d.data
  erase d := { format := d.format, data := erase d.data }
  owned_zero := rfl

instance : Object CtrlOutcome C.CtrlOutcome where
  zero := {}
  owned d := owned d.e3ControlOutcome
  erase d :=
    { format := d.format
      hasTimestamp := d.hasTimestamp
      timestamp := d.timestamp
      hasSequenceId := d.hasSequenceId
      sequenceId := d.sequenceId
      hasE3ControlOutcome := d.hasE3ControlOutcome
      e3ControlOutcome := erase d.e3ControlOutcome }
  owned_zero := rfl

instance : Object C.EventTrigger C.EventTrigger := ⟨{}, fun _ => [], id, rfl⟩

instance : Object C.ActionDefinition C.ActionDefinition := ⟨{}, fun _ => [], id, rfl⟩

instance : Object C.IndHdr C.IndHdr := ⟨{}, fun _ => [], id, rfl⟩

instance : Object C.CtrlHdr C.CtrlHdr := ⟨{}, fun _ => [], id, rfl⟩

end Instances

/-! ## Release -/

section Release

variable {α β : Type} [Object α β]

theorem owned_some (blk : Block α) (len : ℕ) :
    owned (⟨some blk, len⟩ : Buffer α) = (blk.cells.take len).flatMap owned ++ [blk.id] := rfl

theorem owned_none (len : ℕ) : owned (⟨none, len⟩ : Buffer α) = [] := rfl

theorem freeData_eq (h : Heap) (b : Buffer α) (hplain : ∀ a : α, owned a = []) :
    freeData h b = h.freeAll (owned b) := by
  rcases b with ⟨_ | blk, len⟩
  · simp [freeData, Heap.free, owned_none]
  · have hcells : (blk.cells.take len).flatMap owned = [] := by
      simp [List.flatMap_eq_nil_iff, hplain]
    rw [owned_some, hcells]
    rfl

theorem releaseBytes_eq (h : Heap) (b : Buffer UInt8) :
    releaseBytes h b = (h.freeAll (owned b), {}) := by
  rw [releaseBytes, freeData_eq h b fun _ => rfl]

theorem releaseArray_eq {element : Heap → α → Heap}
    (helement : ∀ h a, element h a = h.freeAll (owned a)) (h : Heap) (b : Buffer α) :
    releaseArray element h b = (h.freeAll (owned b), {}) := by
  rcases b with ⟨_ | blk, len⟩
  · simp [releaseArray, owned_none]
  · simp only [releaseArray, Heap.foldl_freeAll element owned helement, Heap.free_eq,
      Heap.freeAll_freeAll, owned_some, Option.toList_some]

theorem releaseSubs_eq (h : Heap) (b : Buffer SubItem) :
    releaseSubs h b = (h.freeAll (owned b), {}) := by
  refine releaseArray_eq (fun h o => ?_) h b
  exact freeData_eq h o.ranFunctions fun _ => rfl

theorem releaseReportStyles_eq (h : Heap) (b : Buffer ReportStyle) :
    releaseReportStyles h b = (h.freeAll (owned b), {}) := by
  refine releaseArray_eq (fun h o => ?_) h b
  rw [releaseBytes_eq, releaseSubs_eq, Heap.freeAll_freeAll]
  rfl

theorem releaseCtrlStyles_eq (h : Heap) (b : Buffer CtrlStyle) :
    releaseCtrlStyles h b = (h.freeAll (owned b), {}) := by
  refine releaseArray_eq (fun h o => ?_) h b
  rw [releaseBytes_eq, releaseSubs_eq, Heap.freeAll_freeAll]
  rfl

/-- A release frees what the object holds, in this order. -/
def Releases {σ γ : Type} [Object σ γ] (release : Heap → σ → Heap × σ) : Prop :=
  ∀ h v, (release h v).1 = h.freeAll (owned v)

theorem releases_def : Releases releaseDef := by
  intro h v
  simp only [releaseDef, releaseBytes_eq, releaseReportStyles_eq, releaseCtrlStyles_eq,
    Heap.freeAll_freeAll]
  rfl

theorem releases_indMsg : Releases releaseIndMsg := by
  intro h v
  simp only [releaseIndMsg, releaseBytes_eq, releaseSubs_eq, Heap.freeAll_freeAll]
  rfl

theorem releases_ctrlMsg : Releases releaseCtrlMsg := by
  intro h v
  simp only [releaseCtrlMsg, releaseBytes_eq]
  rfl

theorem releases_ctrlOutcome : Releases releaseCtrlOutcome := by
  intro h v
  simp only [releaseCtrlOutcome, releaseBytes_eq]
  rfl

end Release

/-! ## Conversions -/

section Specs

variable {σ γ τ δ : Type} [Object σ γ] [Object τ δ]

/-- Since `h₀` no allocation has failed, and what was allocated is held by the object, or elsewhere in
`held`. -/
def Going (h₀ : Heap) (held : List ℕ) (h : Heap) (s : σ) : Prop :=
  h₀.Tracks h (owned s ++ held) ∧ h.failed = h₀.failed

def Starved (h₀ : Heap) (held : List ℕ) (e : CError) (h : Heap) (s : σ) : Prop :=
  h₀.Tracks h (owned s ++ held) ∧ h.failed = h₀.failed + 1 ∧ e.code = .smErrorMemory

/-- The conversion fills an object that is all zero with `c`, and holds what it allocates. -/
def Fills (m : Into σ Unit) (c : γ) : Prop :=
  ∀ h₀ held, Triple (fun h s => Going h₀ held h s ∧ s = zero) m
    (fun _ h s => Going h₀ held h s ∧ erase s = c) (Starved h₀ held)

variable {h₀ : Heap} {held : List ℕ} {P P' : σ → Prop}

theorem assign_spec {f : σ → σ} (howned : ∀ s, P s → owned (f s) = owned s)
    (hnext : ∀ s, P s → P' (f s)) :
    Triple (fun h s => Going h₀ held h s ∧ P s) (assign f) (fun _ h s => Going h₀ held h s ∧ P' s)
      (Starved h₀ held) := by
  refine .assign fun h s hs => ?_
  obtain ⟨hgoing, hP⟩ := hs
  refine ⟨?_, hnext s hP⟩
  unfold Going
  rw [howned s hP]
  exact hgoing

theorem Fills.part {get : σ → τ} {put : τ → σ → σ} {m : Into τ Unit} {c : δ} (hm : Fills m c)
    (hzero : ∀ s, P s → get s = zero)
    (howned : ∀ s t, P s → ∀ i, (owned (put t s)).count i = (owned t).count i + (owned s).count i)
    (hnext : ∀ s t, P s → erase t = c → P' (put t s)) :
    Triple (fun h s => Going h₀ held h s ∧ P s) (part get put m)
      (fun _ h s => Going h₀ held h s ∧ P' s) (Starved h₀ held) := by
  refine .part fun s => .of_pre (p := P s) (fun _ _ hpre => hpre.1.2) fun hP => ?_
  have hcount : ∀ t i, (owned (put t s) ++ held).count i
      = (owned t ++ (owned s ++ held)).count i := by
    intro t i
    have hput := howned s t hP i
    simp only [List.count_append]
    omega
  refine (hm h₀ (owned s ++ held)).mono ?_ ?_ ?_
  · rintro h t ⟨⟨⟨htracks, hfailed⟩, -⟩, rfl⟩
    rw [hzero s hP]
    refine ⟨⟨?_, hfailed⟩, rfl⟩
    rw [Object.owned_zero]
    exact htracks
  · rintro _ h t ⟨⟨htracks, hfailed⟩, herase⟩
    exact ⟨⟨htracks.congr (hcount t), hfailed⟩, hnext s t hP herase⟩
  · rintro e h t ⟨htracks, hfailed, hcode⟩
    exact ⟨htracks.congr (hcount t), hfailed, hcode⟩

theorem allocArray_spec {α : Type} (n : ℕ) (z : α) :
    Triple (fun h s => Going h₀ held h s ∧ P s) (allocArray n z)
      (fun p h s => h₀.Tracks h ((p.map Block.id).toList ++ (owned s ++ held))
        ∧ h.failed = h₀.failed ∧ P s
        ∧ p.map Block.cells = if n = 0 then none else some (List.replicate n z))
      (Starved h₀ held) := by
  unfold allocArray
  refine .ite (fun hn => .pure fun h s hs => ?_) fun hn => ?_
  · obtain ⟨⟨htracks, hfailed⟩, hP⟩ := hs
    exact ⟨htracks, hfailed, hP, by simp [hn]⟩
  · rintro h s ⟨⟨htracks, hfailed⟩, hP⟩ r h' s' heq
    unfold call at heq
    rcases halloc : h.alloc with ⟨_ | id, h₁⟩
    · simp only [halloc, Prod.mk.injEq] at heq
      obtain ⟨rfl, rfl, rfl⟩ := heq
      obtain ⟨htracks', hfailed'⟩ := htracks.alloc_none halloc
      exact ⟨htracks', by omega, rfl⟩
    · simp only [halloc, Prod.mk.injEq] at heq
      obtain ⟨rfl, rfl, rfl⟩ := heq
      obtain ⟨htracks', hfailed'⟩ := htracks.alloc halloc
      exact ⟨htracks', by omega, hP, by simp [hn]⟩

end Specs

theorem erase_copied {α : Type} [Object α α] (hplain : ∀ a : α, erase a = a) {n : ℕ} {z : α}
    {l : List α} {p : Option (Block α)} (hl : l.length = n)
    (hp : p.map Block.cells = if n = 0 then none else some (List.replicate n z)) :
    erase (⟨copied p l, n⟩ : Buffer α) = CArray.ofList l := by
  have hmap : l.map erase = l := by
    rw [show (erase : α → α) = id from funext hplain, List.map_id]
  subst hl
  rcases p with _ | blk
  · rcases l with _ | ⟨a, l⟩
    · rfl
    · simp at hp
  · rcases l with _ | ⟨a, l⟩
    · simp at hp
    · show (⟨some ((a :: l).map erase), (a :: l).length⟩ : CArray α) = _
      rw [hmap]
      simp [CArray.ofList]

theorem owned_copied {α β : Type} [Object α β] (hplain : ∀ a : α, owned a = [])
    (p : Option (Block α)) (l : List α) (len : ℕ) :
    owned (⟨copied p l, len⟩ : Buffer α) = (p.map Block.id).toList := by
  rcases p with _ | blk
  · rfl
  · have hcells : (l.take len).flatMap owned = [] := by
      simp [List.flatMap_eq_nil_iff, hplain]
    simp only [copied, Option.map_some, owned_some, hcells]
    rfl

theorem fills_setBytes (src : Bytes) : Fills (setBytes src) (CArray.ofList src) := by
  intro h₀ held
  refine .bind (allocArray_spec src.length 0) fun p => .assign fun h s hs => ?_
  obtain ⟨htracks, hfailed, rfl, hp⟩ := hs
  refine ⟨⟨?_, hfailed⟩, ?_⟩
  · rw [owned_copied fun _ => rfl]
    exact htracks
  · exact erase_copied (fun _ => rfl) rfl hp

/-! ## Arrays -/

theorem modify_append_cons {α : Type} (f : α → α) (a : α) (ys : List α) :
    ∀ xs : List α, (xs ++ a :: ys).modify xs.length f = xs ++ f a :: ys
  | [] => rfl
  | x :: xs => by
    rw [List.cons_append, List.length_cons, List.modify_succ_cons, modify_append_cons f a ys xs]
    rfl

theorem replicate_sub {α : Type} {n i : ℕ} (h : i < n) (z : α) :
    List.replicate (n - i) z = z :: List.replicate (n - (i + 1)) z := by
  rw [show n - i = n - (i + 1) + 1 by omega, List.replicate_succ]

theorem Buffer.modify_append {α : Type} (f : α → α) (id : ℕ) {xs : List α} {i : ℕ}
    (hi : xs.length = i) (a : α) (ys : List α) (len : ℕ) :
    (⟨some ⟨id, xs ++ a :: ys⟩, len⟩ : Buffer α).modify i f
      = ⟨some ⟨id, xs ++ f a :: ys⟩, len⟩ := by
  subst hi
  simp only [Buffer.modify, Option.map_some, modify_append_cons]

/-- An array whose first elements are complete, before the elements of `rest`. -/
def Partly {α β : Type} [Object α β] (want : List β) (rest : List α) (len : ℕ) (b : Buffer α) :
    Prop :=
  ∃ id xs, b = ⟨some ⟨id, xs ++ rest⟩, len⟩ ∧ xs.map erase = want

theorem subToC_spec {h₀ : Heap} {held : List ℕ} {want : List C.SubItem} {rest : List SubItem}
    {i : ℕ} (hwant : want.length = i) (s : DappE3SubscriptionItem) :
    Triple (fun h b => Going h₀ held h b ∧ Partly want (zero :: rest) i b) (subToC i s)
      (fun _ h b => Going h₀ held h b ∧ Partly (want ++ [E2smDapp.subToC s]) rest (i + 1) b)
      (Starved h₀ held) := by
  have hlen : ∀ {xs : List SubItem}, xs.map erase = want → xs.length = i := by
    intro xs hxs
    rw [← hwant, ← hxs, List.length_map]
  unfold subToC
  refine .bind (R := fun _ h b => Going h₀ held h b
    ∧ Partly want ({ dappId := s.dappId.toUInt32 } :: rest) i b) (assign_spec ?_ ?_) fun _ =>
      .bind (allocArray_spec _ _) fun p => .assign ?_
  · rintro b ⟨id, xs, rfl, hxs⟩
    rw [Buffer.modify_append _ id (hlen hxs), owned_some, owned_some]
    -- the length counts the items before this one only
    simp [← hlen hxs]
  · rintro b ⟨id, xs, rfl, hxs⟩
    rw [Buffer.modify_append _ id (hlen hxs)]
    exact ⟨id, xs, rfl, hxs⟩
  · rintro h b ⟨htracks, hfailed, ⟨id, xs, rfl, hxs⟩, hp⟩
    let o : SubItem :=
      { dappId := s.dappId.toUInt32
        ranFunctions :=
          { data := copied p (s.subscribedE3RanFunctions.map UInt64.toUInt32)
            len := s.subscribedE3RanFunctions.length } }
    have howned : owned o = (p.map Block.id).toList := owned_copied (fun _ => rfl) p _ _
    have herase : erase o = E2smDapp.subToC s := by
      have hfunctions := erase_copied (fun _ => rfl) (List.length_map UInt64.toUInt32) hp
      simp only [erase, o, E2smDapp.subToC] at hfunctions ⊢
      rw [hfunctions]
    have hcells : xs ++ o :: rest = (xs ++ [o]) ++ rest := by simp
    rw [Buffer.modify_append _ id (hlen hxs)]
    refine ⟨⟨htracks.congr fun k => ?_, hfailed⟩, id, xs ++ [o], by rw [← hcells], ?_⟩
    · have hbefore : (xs ++ { dappId := s.dappId.toUInt32 } :: rest).take i = xs :=
        List.take_left' (hlen hxs)
      have hafter : ((xs ++ [o]) ++ rest).take (i + 1) = xs ++ [o] :=
        List.take_left' (by simp [hlen hxs])
      show (owned (⟨some ⟨id, xs ++ o :: rest⟩, i + 1⟩ : Buffer SubItem) ++ held).count k = _
      rw [hcells, owned_some, owned_some, hafter, hbefore, List.flatMap_append]
      simp only [List.flatMap_cons, List.flatMap_nil, howned, List.count_append, List.append_nil]
      omega
    · simp [hxs, herase]

/-- An array that is allocated first and then filled, round by round. Its length may count the
elements that are complete, or all of them: the others hold nothing. -/
theorem fills_array {α β γ : Type} [Object β γ] {toC : α → γ} {f : ℕ → α → Into (Buffer β) Unit}
    {l : List α} (len : ℕ → ℕ) (hlast : len l.length = l.length)
    (hround : ∀ h₀ held i s (want : List γ) (rest : List β), l[i]? = some s → want.length = i →
      i + 1 + rest.length = l.length →
      Triple (fun h b => Going h₀ held h b ∧ Partly want (zero :: rest) (len i) b) (f i s)
        (fun _ h b => Going h₀ held h b ∧ Partly (want ++ [toC s]) rest (len (i + 1)) b)
        (Starved h₀ held)) :
    Fills (do
      let p ← allocArray l.length zero
      assign fun _ => { data := p, len := len 0 }
      forEach f 0 l) (CArray.ofList (l.map toC)) := by
  intro h₀ held
  let I : ℕ → Heap → Buffer β → Prop := fun i h b => Going h₀ held h b
    ∧ if l = [] then b = {} else
      Partly ((l.take i).map toC) (List.replicate (l.length - i) zero) (len i) b
  refine .bind (allocArray_spec l.length zero) fun p =>
    .bind (R := fun _ => I 0) (.assign fun h b hb => ?_) fun _ =>
      (Triple.forEach (I := I) fun i s hs => ?_).mono (fun _ _ hI => hI) (fun _ h b hb => ?_)
        fun _ _ _ hE => hE
  · obtain ⟨htracks, hfailed, rfl, hp⟩ := hb
    rcases p with _ | ⟨id, cells⟩
    · have hl : l = [] := by
        by_contra hne
        simp [hne] at hp
      subst hl
      refine ⟨⟨?_, hfailed⟩, ?_⟩
      · exact htracks
      · simp only [List.length_nil] at hlast
        simp [hlast]
    · have hl : l ≠ [] := by
        rintro rfl
        simp at hp
      have hcells : cells = List.replicate l.length zero := by
        simpa [hl] using hp
      have hnone : (cells.take (len 0)).flatMap owned = [] := by
        refine List.flatMap_eq_nil_iff.mpr fun o ho => ?_
        rw [hcells, List.take_replicate] at ho
        rw [List.eq_of_mem_replicate ho, Object.owned_zero]
      refine ⟨⟨htracks.congr fun k => ?_, hfailed⟩, ?_⟩
      · rw [owned_some, hnone]
        simp
      · simp only [hl, if_false]
        exact ⟨id, [], by simp [hcells], rfl⟩
  · obtain ⟨hi, rfl⟩ := List.getElem?_eq_some_iff.mp hs
    have hl : l ≠ [] := List.ne_nil_of_length_pos (by omega)
    have htake : (l.take (i + 1)).map toC = (l.take i).map toC ++ [toC l[i]] := by
      rw [List.take_succ_eq_append_getElem hi, List.map_append]
      rfl
    simp only [I, hl, if_false, htake, replicate_sub hi]
    exact hround h₀ held i l[i] _ _ hs (by simp; omega) (by simp; omega)
  · obtain ⟨hgoing, hb⟩ := hb
    refine ⟨hgoing, ?_⟩
    by_cases hl : l = []
    · subst hl
      simp only [if_true] at hb
      subst hb
      rfl
    · simp only [hl, if_false, List.take_length, Nat.sub_self, List.replicate_zero] at hb
      obtain ⟨id, xs, rfl, hxs⟩ := hb
      show (⟨some ((xs ++ []).map erase), len l.length⟩ : CArray γ) = _
      rw [List.append_nil, hxs, hlast]
      simp [CArray.ofList, hl]

theorem fills_subsToC (l : List DappE3SubscriptionItem) :
    Fills (subsToC l) (E2smDapp.subsToC l) := by
  refine fills_array (f := subToC) (fun i => i) rfl ?_
  intro h₀ held i s want rest _ hwant _
  exact subToC_spec hwant s

theorem fills_stylesToC {α β γ : Type} [Object β γ] {toC : α → γ} {fill : α → Into β Unit}
    (hfill : ∀ s, Fills (fill s) (toC s)) (l : List α) :
    Fills (stylesToC zero fill l) (CArray.ofList (l.map toC)) := by
  refine fills_array (f := fun i s => element zero i (fill s)) (fun _ => l.length) rfl ?_
  intro h₀ held i s want rest _ hwant hlength
  have hlen : ∀ {xs : List β}, xs.map erase = want → xs.length = i := by
    intro xs hxs
    rw [← hwant, ← hxs, List.length_map]
  refine (hfill s).part ?_ ?_ ?_
  · rintro b ⟨id, xs, rfl, hxs⟩
    simp [← hlen hxs]
  · rintro b t ⟨id, xs, rfl, hxs⟩ k
    have hall : ∀ o : β, (xs ++ o :: rest).take l.length = xs ++ o :: rest := by
      intro o
      refine List.take_of_length_le ?_
      simp only [List.length_append, List.length_cons, hlen hxs]
      omega
    rw [Buffer.modify_append _ id (hlen hxs), owned_some, owned_some, hall, hall]
    simp only [List.flatMap_append, List.flatMap_cons, Object.owned_zero, List.count_append,
      List.count_nil]
    omega
  · rintro b t ⟨id, xs, rfl, hxs⟩ ht
    rw [Buffer.modify_append _ id (hlen hxs)]
    exact ⟨id, xs ++ [t], by simp, by simp [hxs, ht]⟩

/-! ## Structures -/

section Structures

variable {σ γ τ δ : Type} [Object σ γ] [Object τ δ]

theorem fills_one (make : τ → σ) {init : σ → σ} {get : σ → τ} {put : τ → σ → σ} {m : Into τ Unit}
    {c : δ} {d : γ} (hm : Fills m c) (hinit : init zero = make zero)
    (howned : ∀ t, owned (make t) = owned t) (hget : ∀ t, get (make t) = t)
    (hput : ∀ t t', put t' (make t) = make t') (herase : ∀ t, erase t = c → erase (make t) = d) :
    Fills (do assign init; part get put m) d := by
  intro h₀ held
  refine .bind (R := fun _ h o => Going h₀ held h o ∧ o = make zero) (assign_spec ?_ ?_) fun _ =>
    hm.part ?_ ?_ ?_
  · rintro o rfl
    rw [hinit, howned, Object.owned_zero, Object.owned_zero]
  · rintro o rfl
    exact hinit
  · rintro o rfl
    exact hget zero
  · rintro o t rfl i
    rw [hput, howned, howned, Object.owned_zero, List.count_nil, Nat.add_zero]
  · rintro o t rfl ht
    rw [hput]
    exact herase t ht

theorem present_spec {h₀ : Heap} {held : List ℕ} {P : σ → Prop} {has : σ → σ} {get : σ → τ}
    {put : τ → σ → σ} {m : Into τ Unit} {c : δ} (present : Bool) (hm : Fills m c)
    (hhas : ∀ s, P s → owned (has s) = owned s ∧ get (has s) = zero)
    (howned : ∀ s t, P s → ∀ i,
      (owned (put t (has s))).count i = (owned t).count i + (owned s).count i)
    (hput : ∀ s, put (get s) s = s) :
    Triple (fun h s => Going h₀ held h s ∧ P s)
      (do
        assign has
        if present then part get put m)
      (fun _ h o => Going h₀ held h o
        ∧ ∃ s t, P s ∧ erase t = (if present then c else erase (zero : τ)) ∧ o = put t (has s))
      (Starved h₀ held) := by
  refine .bind (R := fun _ h o => Going h₀ held h o ∧ ∃ s, P s ∧ o = has s) (assign_spec ?_ ?_)
    fun _ => .ite (fun hp => hm.part ?_ ?_ ?_) fun hp => .pure ?_
  · exact fun s hs => (hhas s hs).1
  · exact fun s hs => ⟨s, hs, rfl⟩
  · rintro o ⟨s, hs, rfl⟩
    exact (hhas s hs).2
  · rintro o t ⟨s, hs, rfl⟩ i
    rw [howned s t hs, (hhas s hs).1]
  · rintro o t ⟨s, hs, rfl⟩ ht
    exact ⟨s, t, hs, by rw [ht, if_pos hp], rfl⟩
  · rintro h o ⟨hgoing, s, hs, rfl⟩
    refine ⟨hgoing, s, zero, hs, by rw [if_neg hp], ?_⟩
    rw [← (hhas s hs).2, hput]

theorem fills_style (base : Buffer UInt8 → σ) {init has : σ → σ} {getName : σ → Buffer UInt8}
    {putName : Buffer UInt8 → σ → σ} {getSubs : σ → Buffer SubItem}
    {putSubs : Buffer SubItem → σ → σ} {name : Bytes} {present : Bool}
    {subs : List DappE3SubscriptionItem} {d : γ} (hinit : init zero = base {})
    (hname : ∀ b b', getName (base b) = b ∧ putName b' (base b) = base b')
    (hhas : ∀ b, owned (has (base b)) = owned (base b) ∧ getSubs (has (base b)) = {})
    (howned : ∀ b t, owned (base b) = owned b
      ∧ owned (putSubs t (has (base b))) = owned b ++ owned t)
    (hput : ∀ s, putSubs (getSubs s) s = s)
    (herase : ∀ b t, erase b = CArray.ofList name →
      erase t = (if present then E2smDapp.subsToC subs else {}) →
      erase (putSubs t (has (base b))) = d) :
    Fills (do
      assign init
      part getName putName (setBytes name)
      assign has
      if present then part getSubs putSubs (subsToC subs)) d := by
  intro h₀ held
  refine .bind (R := fun _ h o => Going h₀ held h o ∧ o = base {}) (assign_spec ?_ ?_) fun _ =>
    .bind (R := fun _ h o => Going h₀ held h o ∧ ∃ b, erase b = CArray.ofList name ∧ o = base b)
      ((fills_setBytes name).part ?_ ?_ ?_) fun _ =>
    (present_spec present (fills_subsToC subs) ?_ ?_ hput).mono (fun _ _ hpre => hpre) ?_
      fun _ _ _ hE => hE
  · rintro o rfl
    rw [hinit, (howned _ {}).1, Object.owned_zero]
    rfl
  · rintro o rfl
    exact hinit
  · rintro o rfl
    exact (hname _ {}).1
  · rintro o b rfl i
    rw [(hname _ b).2, (howned _ {}).1, (howned _ {}).1, owned_none, List.count_nil, Nat.add_zero]
  · rintro o b rfl hb
    exact ⟨b, hb, (hname _ b).2⟩
  · rintro o ⟨b, -, rfl⟩
    exact hhas b
  · rintro o t ⟨b, -, rfl⟩ i
    rw [(howned b t).2, (howned b t).1, List.count_append, Nat.add_comm]
  · rintro _ h o ⟨hgoing, _, t, ⟨b, hb, rfl⟩, ht, rfl⟩
    exact ⟨hgoing, herase b t hb ht⟩

end Structures

theorem fills_reportStyleToC (s : ReportItem) : Fills (reportStyleToC s) s.toC := by
  refine fills_style (fun b =>
    { reportStyleType := s.ricReportStyleType
      name := b
      indHdrFormatType := s.ricIndHdrFormatType
      indMsgFormatType := s.ricIndMsgFormatType }) rfl (fun _ _ => ⟨rfl, rfl⟩)
    (fun _ => ⟨rfl, rfl⟩) (fun b _ => ⟨?_, rfl⟩) (fun _ => rfl) fun b t hb ht => ?_
  · exact List.append_nil (owned b)
  · simp only [erase, ReportItem.toC] at hb ht ⊢
    rw [hb, ht]

theorem fills_ctrlStyleToC (s : CtrlItem) : Fills (ctrlStyleToC s) s.toC := by
  refine fills_style (fun b =>
    { ctrlStyleType := s.ricCtrlStyleType
      name := b
      ctrlHdrFormatType := s.ricCtrlHdrFormatType
      ctrlMsgFormatType := s.ricCtrlMsgFormatType
      ctrlOutcomeFormatType := s.ricCtrlOutcomeFormatType }) rfl (fun _ _ => ⟨rfl, rfl⟩)
    (fun _ => ⟨rfl, rfl⟩) (fun b _ => ⟨?_, rfl⟩) (fun _ => rfl) fun b t hb ht => ?_
  · exact List.append_nil (owned b)
  · simp only [erase, CtrlItem.toC] at hb ht ⊢
    rw [hb, ht]

theorem fills_nameToC (s : E2smDapp.RanFunctionName) : Fills (nameToC s) s.toC := by
  intro h₀ held
  refine .bind (R := fun _ h o => Going h₀ held h o
      ∧ ∃ a, erase a = CArray.ofList s.ranFunctionShortName ∧ o = { shortName := a })
      ((fills_setBytes _).part ?_ ?_ ?_) fun _ =>
    .bind (R := fun _ h o => Going h₀ held h o
      ∧ ∃ a b, erase a = CArray.ofList s.ranFunctionShortName
        ∧ erase b = CArray.ofList s.ranFunctionE2smOId ∧ o = { shortName := a, e2smOid := b })
      ((fills_setBytes _).part ?_ ?_ ?_) fun _ =>
    .bind (R := fun _ h o => Going h₀ held h o
      ∧ ∃ a b c, erase a = CArray.ofList s.ranFunctionShortName
        ∧ erase b = CArray.ofList s.ranFunctionE2smOId
        ∧ erase c = CArray.ofList s.ranFunctionDescription
        ∧ o = { shortName := a, e2smOid := b, description := c })
      ((fills_setBytes _).part ?_ ?_ ?_) fun _ => assign_spec ?_ ?_
  · rintro o rfl
    rfl
  · rintro o a rfl i
    simp [owned, zero]
  · rintro o a rfl ha
    exact ⟨a, ha, rfl⟩
  · rintro o ⟨a, -, rfl⟩
    rfl
  · rintro o b ⟨a, -, rfl⟩ i
    simp [owned, Nat.add_comm]
  · rintro o b ⟨a, ha, rfl⟩ hb
    exact ⟨a, b, ha, hb, rfl⟩
  · rintro o ⟨a, b, -, -, rfl⟩
    rfl
  · rintro o c ⟨a, b, -, -, rfl⟩ i
    simp [owned]
    omega
  · rintro o c ⟨a, b, ha, hb, rfl⟩ hc
    exact ⟨a, b, c, ha, hb, hc, rfl⟩
  · rintro o ⟨a, b, c, -, -, -, rfl⟩
    rfl
  · rintro o ⟨a, b, c, ha, hb, hc, rfl⟩
    simp only [erase, RanFunctionName.toC] at ha hb hc ⊢
    rw [ha, hb, hc]

theorem owned_definition (d : RanFunctionDefinition) :
    owned d = owned d.name ++ owned d.reportStyles ++ owned d.ctrlStyles := rfl

theorem fills_ranFunctionDefinitionToC (s : E2smDapp.RanFunctionDefinition)
    {c : C.RanFunctionDefinition} (hc : s.toC = .ok c) : Fills (ranFunctionDefinitionToC s) c := by
  intro h₀ held
  let base (n : RanFunctionName) : RanFunctionDefinition :=
    { name := n, hasEventTrigger := s.ranFunctionDefinitionEventTriggerPresent }
  refine .bind (R := fun _ h d => Going h₀ held h d
      ∧ ∃ n, erase n = s.ranFunctionName.toC ∧ d = { name := n })
      ((fills_nameToC _).part ?_ ?_ ?_) fun _ =>
    .bind (R := fun _ h d => Going h₀ held h d ∧ ∃ n, erase n = s.ranFunctionName.toC ∧ d = base n)
      (assign_spec ?_ ?_) fun _ =>
    .bind (present_spec s.ranFunctionDefinitionReportPresent
      (fills_stylesToC fills_reportStyleToC _) ?_ ?_ fun _ => rfl) fun _ =>
    (present_spec s.ranFunctionDefinitionCtrlPresent
      (fills_stylesToC fills_ctrlStyleToC _) ?_ ?_ fun _ => rfl).mono (fun _ _ hpre => hpre) ?_
        fun _ _ _ hE => hE
  · rintro d rfl
    rfl
  · rintro d n rfl i
    simp [owned, zero]
  · rintro d n rfl hn
    exact ⟨n, hn, rfl⟩
  · rintro d ⟨n, -, rfl⟩
    rfl
  · rintro d ⟨n, hn, rfl⟩
    exact ⟨n, hn, rfl⟩
  · rintro d ⟨n, -, rfl⟩
    exact ⟨rfl, rfl⟩
  · rintro d b ⟨n, -, rfl⟩ i
    simp [owned_definition, owned_none, base, Nat.add_comm]
  · rintro d ⟨_, b, ⟨n, -, rfl⟩, -, rfl⟩
    exact ⟨rfl, rfl⟩
  · rintro d t ⟨_, b, ⟨n, -, rfl⟩, -, rfl⟩ i
    simp only [owned_definition, owned_none, base, List.append_nil, List.count_append]
    omega
  · rintro _ h d ⟨hgoing, _, t, ⟨_, b, ⟨n, hn, rfl⟩, hb, rfl⟩, ht, rfl⟩
    refine ⟨hgoing, ?_⟩
    cases hc
    simp only [erase, base] at hn hb ht ⊢
    rw [hn, hb, ht]
    rfl

/-! ## Conversions that may refuse their value -/

section Converts

variable {σ γ : Type} [Object σ γ]

/-- An allocation has failed, or the value was refused. -/
def Stopped (value : Except CError γ) (h₀ : Heap) (held : List ℕ) (e : CError) (h : Heap) (s : σ) :
    Prop :=
  h₀.Tracks h (owned s ++ held) ∧ (h.failed = h₀.failed → value = .error e)
    ∧ (h.failed ≠ h₀.failed → e.code = .smErrorMemory)

/-- The conversion fills an object that is all zero with the value if there is one, and holds what it
allocates. -/
def Converts (m : Into σ Unit) (value : Except CError γ) : Prop :=
  ∀ h₀ held, Triple (fun h s => Going h₀ held h s ∧ s = zero) m
    (fun _ h s => Going h₀ held h s ∧ value = .ok (erase s)) (Stopped value h₀ held)

theorem Fills.converts {m : Into σ Unit} {c : γ} (hm : Fills m c) : Converts m (.ok c) := by
  intro h₀ held
  refine (hm h₀ held).mono (fun _ _ hpre => hpre) ?_ ?_
  · rintro _ h s ⟨hgoing, rfl⟩
    exact ⟨hgoing, rfl⟩
  · rintro e h s ⟨htracks, hfailed, hcode⟩
    exact ⟨htracks, fun hsame => by omega, fun _ => hcode⟩

theorem converts_plainToC {α : Type} [Object α α] (hplain : ∀ a : α, owned a = [] ∧ erase a = a)
    (value : Except CError α) : Converts (plainToC value) value := by
  intro h₀ held
  unfold plainToC
  cases value with
  | ok c =>
    refine Triple.assign fun h s hs => ?_
    obtain ⟨⟨htracks, hfailed⟩, rfl⟩ := hs
    rw [(hplain _).1] at htracks
    refine ⟨⟨?_, hfailed⟩, ?_⟩
    · rw [(hplain _).1]
      exact htracks
    · rw [(hplain _).2]
  | error e =>
    refine Triple.throw fun h s hs => ?_
    exact ⟨hs.1.1, fun _ => rfl, fun hfail => absurd hs.1.2 hfail⟩

end Converts

theorem converts_indMsgToC (s : E2smDapp.IndMsg) : Converts (indMsgToC s) s.toC := by
  rcases s with ⟨ext, _ | f | f⟩
  · intro h₀ held
    refine .bind (R := fun _ h d => Going h₀ held h d ∧ True) (.assign fun h d hd => ?_) fun _ =>
      .throw fun h d hd => ?_
    · obtain ⟨hgoing, rfl⟩ := hd
      exact ⟨hgoing, trivial⟩
    · exact ⟨hd.1.1, fun _ => rfl, fun hfail => absurd hd.1.2 hfail⟩
  · have hfills : Fills (indMsgToC ⟨ext, .format1 f⟩)
        { format := 1, frmt1 := CArray.ofList f.data } := by
      refine fills_one (fun b => { format := 1, frmt1 := b }) (fills_setBytes f.data) rfl
        (fun b => ?_) (fun _ => rfl) (fun _ _ => rfl) fun b hb => ?_
      · simp [owned]
      · simp only [erase] at hb ⊢
        rw [hb]
        rfl
    exact hfills.converts
  · have hfills : Fills (indMsgToC ⟨ext, .format2 f⟩)
        { format := 2, frmt2 := E2smDapp.subsToC f.dappE3Subscriptions } := by
      refine fills_one (fun b => { format := 2, frmt2 := b }) (fills_subsToC f.dappE3Subscriptions)
        rfl (fun b => ?_) (fun _ => rfl) (fun _ _ => rfl) fun b hb => ?_
      · simp [owned]
      · simp only [erase] at hb ⊢
        rw [hb]
        rfl
    exact hfills.converts

theorem converts_ctrlMsgToC (s : E2smDapp.CtrlMsg) : Converts (ctrlMsgToC s) s.toC := by
  have hfills : Fills (ctrlMsgToC s)
      { format := 1, data := CArray.ofList s.ricCtrlMsgFormats.data } := by
    refine fills_one (fun b => { format := 1, data := b })
      (fills_setBytes s.ricCtrlMsgFormats.data) rfl (fun _ => rfl) (fun _ => rfl) (fun _ _ => rfl)
      fun b hb => ?_
    simp only [erase] at hb ⊢
    rw [hb]
  exact hfills.converts

theorem converts_ctrlOutcomeToC (s : E2smDapp.CtrlOutcome) :
    Converts (ctrlOutcomeToC s) s.toC := by
  have hfills : ∀ c, s.toC = .ok c → Fills (ctrlOutcomeToC s) c := by
    intro c hc h₀ held
    refine (present_spec s.ricCtrlOutcomeFormats.e3CtrlOutcomePresent
      (fills_setBytes s.ricCtrlOutcomeFormats.e3CtrlOutcome) ?_ ?_ fun _ => rfl).mono
      (fun _ _ hpre => hpre) ?_ fun _ _ _ hE => hE
    · rintro d rfl
      exact ⟨rfl, rfl⟩
    · rintro d t rfl i
      simp [owned, zero]
    · rintro _ h d ⟨hgoing, _, t, rfl, ht, rfl⟩
      refine ⟨hgoing, ?_⟩
      cases hc
      simp only [erase] at ht ⊢
      rw [ht]
      rfl
  exact (hfills _ rfl).converts

theorem converts_ranFunctionDefinitionToC (s : E2smDapp.RanFunctionDefinition) :
    Converts (ranFunctionDefinitionToC s) s.toC :=
  (fills_ranFunctionDefinitionToC s rfl).converts

end LibE3.E2smDapp.Mem
