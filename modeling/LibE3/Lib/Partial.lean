import Mathlib.Data.List.Basic
import Mathlib.Data.List.Forall2
import Mathlib.Tactic.Common

/-!
# Partial computations with a known domain

A computation that may fail is described by the condition under which it succeeds and the value it
then has. The rules follow the ways in which such computations are composed. One that fails with an
error is described through its `toOption`; `FailsWith` says that it fails with one error only.
-/

namespace Partial

variable {α β ι ε : Type}

/-- The computation succeeds exactly when `p` holds, and then with `v`. -/
def Yields (x : Option α) (p : Prop) (v : α) : Prop := ∀ d, x = some d ↔ p ∧ d = v

namespace Yields

variable {x : Option α} {p q : Prop} {v d : α} {w : β}

theorem eq_some (h : Yields x p v) (hp : p) : x = some v := (h v).mpr ⟨hp, rfl⟩

theorem holds (h : Yields x p v) (hd : x = some d) : p := ((h d).mp hd).1

theorem value (h : Yields x p v) (hd : x = some d) : d = v := ((h d).mp hd).2

theorem eq_none (h : Yields x p v) (hp : ¬ p) : x = none := by
  cases hx : x with
  | none => rfl
  | some d => exact absurd (h.holds hx) hp

theorem congr (h : Yields x p v) (hpq : p ↔ q) : Yields x q v := by
  intro d
  rw [h d, hpq]

theorem pure (v : α) : Yields (some v) True v := by
  intro d
  rw [Option.some_inj, true_and, eq_comm]

theorem check [Decidable q] (v : α) : Yields (if q then some v else none) q v := by
  intro d
  split_ifs with hq
  · rw [Option.some_inj, eq_comm]
    exact ⟨fun hd => ⟨hq, hd⟩, And.right⟩
  · exact ⟨fun hd => (nomatch hd), fun hd => absurd hd.1 hq⟩

/-- A computation behind a check that refuses. -/
theorem refuse [Decidable q] (h : Yields x p v) : Yields (if q then none else x) (¬ q ∧ p) v := by
  intro d
  split_ifs with hq
  · exact ⟨fun hd => (nomatch hd), fun hd => absurd hq hd.1.1⟩
  · rw [h d]
    exact ⟨fun hd => ⟨⟨hq, hd.1⟩, hd.2⟩, fun hd => ⟨hd.1.2, hd.2⟩⟩

theorem bind {f : α → Option β} (h : Yields x p v) (hf : Yields (f v) q w) :
    Yields (x.bind f) (p ∧ q) w := by
  intro d
  rw [Option.bind_eq_some_iff]
  constructor
  · rintro ⟨a, ha, hd⟩
    rw [h.value ha] at hd
    exact ⟨⟨h.holds ha, hf.holds hd⟩, hf.value hd⟩
  · rintro ⟨⟨hp, hq⟩, rfl⟩
    exact ⟨v, h.eq_some hp, hf.eq_some hq⟩

theorem map (f : α → β) (h : Yields x p v) : Yields (x.map f) p (f v) := by
  intro d
  rw [Option.map_eq_some_iff]
  constructor
  · rintro ⟨a, ha, rfl⟩
    exact ⟨h.holds ha, congrArg f (h.value ha)⟩
  · rintro ⟨hp, rfl⟩
    exact ⟨v, h.eq_some hp, rfl⟩

theorem mapM {f : ι → Option α} {P : ι → Prop} {g : ι → α} :
    ∀ {l : List ι}, (∀ a, Yields (f a) (P a) (g a)) → Yields (l.mapM f) (∀ a ∈ l, P a) (l.map g)
  | [], _ => (pure []).congr (by simp)
  | a :: l, h => by
    rw [List.mapM_cons, List.map_cons]
    have hcons : Yields ((l.mapM f).bind fun bs => some (g a :: bs)) ((∀ b ∈ l, P b) ∧ True)
        (g a :: l.map g) := (mapM h).bind (pure _)
    refine ((h a).bind hcons).congr ?_
    rw [List.forall_mem_cons, and_true]

end Yields

theorem of_check {p : Prop} [Decidable p] {a b : α}
    (h : (if p then some a else none) = some b) : p ∧ a = b :=
  let ⟨hp, hb⟩ := (Yields.check a b).mp h
  ⟨hp, hb.symm⟩

/-- An entry of a table that is written as a chain of checks: it is this one or a later one. -/
theorem of_ite_eq_some {p : Prop} [Decidable p] {a b : α} {x : Option α}
    (h : (if p then some a else x) = some b) : p ∧ a = b ∨ x = some b := by
  split_ifs at h with hp
  · exact .inl ⟨hp, Option.some.inj h⟩
  · exact .inr h

variable {f : α → Except ε β} {x : Except ε α}

theorem bind_eq_ok {b : β} :
    (x >>= f) = .ok b ↔ ∃ a, x = .ok a ∧ f a = .ok b := by
  cases x with
  | error e => exact ⟨nofun, nofun⟩
  | ok a => exact ⟨fun h => ⟨a, rfl, h⟩, fun ⟨_, ha, h⟩ => Except.ok.inj ha ▸ h⟩

theorem bind_eq_error {e : ε} :
    (x >>= f) = .error e ↔ x = .error e ∨ ∃ a, x = .ok a ∧ f a = .error e := by
  cases x with
  | error e' =>
    exact ⟨fun h => .inl (congrArg Except.error (Except.error.inj h)), fun h => by
      obtain h | ⟨_, h, -⟩ := h
      · exact congrArg Except.error (Except.error.inj h)
      · cases h⟩
  | ok a =>
    exact ⟨fun h => .inr ⟨a, rfl, h⟩, fun h => by
      obtain h | ⟨b, hb, h⟩ := h
      · cases h
      · exact Except.ok.inj hb ▸ h⟩

theorem map_eq_ok {f : α → β} {b : β} :
    x.map f = .ok b ↔ ∃ a, x = .ok a ∧ f a = b := by
  cases x with
  | error e => exact ⟨nofun, nofun⟩
  | ok a => simp [Except.map]

theorem map_eq_error {f : α → β} {e : ε} :
    x.map f = .error e ↔ x = .error e := by
  cases x with
  | error e' => simp [Except.map]
  | ok a => exact ⟨nofun, nofun⟩

theorem mapM_eq_ok {f : ι → Except ε α} : ∀ {l : List ι} {bs : List α},
    l.mapM f = .ok bs ↔ List.Forall₂ (fun a b => f a = .ok b) l bs
  | [], bs => by
    rw [List.mapM_nil, List.forall₂_nil_left_iff]
    exact ⟨fun h => (Except.ok.inj h).symm, fun h => congrArg Except.ok h.symm⟩
  | a :: l, bs => by
    rw [List.mapM_cons, bind_eq_ok, List.forall₂_cons_left_iff]
    constructor
    · rintro ⟨b, hb, h⟩
      obtain ⟨cs, hcs, h⟩ := bind_eq_ok.mp h
      exact ⟨b, cs, hb, mapM_eq_ok.mp hcs, (Except.ok.inj h).symm⟩
    · rintro ⟨b, cs, hb, hcs, rfl⟩
      exact ⟨b, hb, bind_eq_ok.mpr ⟨cs, mapM_eq_ok.mpr hcs, rfl⟩⟩

/-- The computation fails with this error only. -/
def FailsWith (e : ε) (x : Except ε α) : Prop := ∀ e', x = .error e' → e' = e

namespace FailsWith

variable {e e' : ε} {x : Except ε α}

theorem ok (a : α) : FailsWith e (.ok a) := by rintro _ ⟨⟩

theorem error : FailsWith e (.error e : Except ε α) := by
  rintro _ ⟨⟩
  rfl

theorem bind (hx : FailsWith e x) (hf : ∀ a, FailsWith e (f a)) :
    FailsWith e (x >>= f) := by
  cases x with
  | error e' =>
    rintro _ ⟨⟩
    exact hx e' rfl
  | ok a => exact hf a

theorem of_bind (hx : FailsWith e x) (hne : e' ≠ e) :
    (x >>= f) = .error e' ↔ ∃ a, x = .ok a ∧ f a = .error e' :=
  bind_eq_error.trans (or_iff_right fun h => hne (hx e' h))

theorem map (f : α → β) (hx : FailsWith e x) : FailsWith e (x.map f) := by
  intro e' h
  exact hx e' (map_eq_error.mp h)

theorem mapM {f : ι → Except ε α} (hf : ∀ a, FailsWith e (f a)) :
    ∀ l : List ι, FailsWith e (l.mapM f)
  | [] => ok []
  | a :: l => by
    rw [List.mapM_cons]
    exact (hf a).bind fun b => (mapM hf l).bind fun bs => ok (b :: bs)

end FailsWith

theorem toOption_bind (x : Except ε α) (f : α → Except ε β) :
    (x >>= f).toOption = x.toOption.bind fun a => (f a).toOption := by
  cases x <;> rfl

theorem toOption_mapM (f : ι → Except ε α) :
    ∀ l : List ι, (l.mapM f).toOption = l.mapM fun a => (f a).toOption
  | [] => rfl
  | a :: l => by
    rw [List.mapM_cons, List.mapM_cons, toOption_bind]
    congr 1
    funext b
    rw [toOption_bind, toOption_mapM f l]
    rfl

namespace Yields

variable {x : Except ε α} {p q : Prop} {v d : α} {w : β} {e : ε}

theorem eq_ok (h : Yields x.toOption p v) (hp : p) : x = .ok v := by
  have hx := h.eq_some hp
  cases x with
  | error e => cases hx
  | ok d => rw [Option.some_inj.mp hx]

theorem bindE (h : Yields x.toOption p v) (hf : Yields (f v).toOption q w) :
    Yields (x >>= f).toOption (p ∧ q) w := by
  rw [toOption_bind]
  exact h.bind hf

theorem mapME {f : ι → Except ε α} {P : ι → Prop} {g : ι → α} {l : List ι}
    (h : ∀ a, Yields (f a).toOption (P a) (g a)) :
    Yields (l.mapM f).toOption (∀ a ∈ l, P a) (l.map g) := by
  rw [toOption_mapM]
  exact mapM h

theorem refuseE [Decidable q] (h : Yields x.toOption p v) :
    Yields (if q then .error e else x).toOption (¬ q ∧ p) v := by
  rw [apply_ite Except.toOption]
  exact h.refuse

/-- A computation that is left out when it is not asked for. -/
theorem whenE (asked : Bool) (h : Yields x.toOption p v) :
    Yields (if asked then x else .ok d).toOption (asked = true → p) (if asked then v else d) := by
  cases asked
  · exact (pure d).congr (by simp)
  · exact h.congr (by simp)

end Yields

end Partial
