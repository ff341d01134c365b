import Mathlib.Data.List.Basic
import Mathlib.Tactic.Common

/-!
# Programs that fill an object in place

A program gets a state that it shares with others, and an object that it fills. It may throw, and
what it has done until then stays done. `Triple` says what a program does from where a condition
holds: one condition on where it returns, one on where it throws.
-/

/-- A program that returns an `α` or throws an `ε`, with the shared state `η` and the object `σ`. -/
def InPlace (ε η σ α : Type) : Type := η × σ → Except ε α × η × σ

namespace InPlace

variable {ε η σ τ α β : Type}

instance : Monad (InPlace ε η σ) where
  pure a := fun s => (.ok a, s)
  bind m f := fun s =>
    match m s with
    | (.ok a, s') => f a s'
    | (.error e, s') => (.error e, s')

def throw (e : ε) : InPlace ε η σ α := fun s => (.error e, s)

/-- Assignments to the object. -/
def assign (f : σ → σ) : InPlace ε η σ Unit := fun s => (.ok (), s.1, f s.2)

/-- A call that works on the shared state alone. -/
def call (m : η → Except ε α × η) : InPlace ε η σ α := fun s => ((m s.1).1, (m s.1).2, s.2)

/-- A call that fills a part of the object. -/
def part (get : σ → τ) (put : τ → σ → σ) (m : InPlace ε η τ α) : InPlace ε η σ α := fun s =>
  ((m (s.1, get s.2)).1, (m (s.1, get s.2)).2.1, put (m (s.1, get s.2)).2.2 s.2)

/-- A loop over a list, from the index `i` on. -/
def forEach (f : ℕ → β → InPlace ε η σ Unit) : ℕ → List β → InPlace ε η σ Unit
  | _, [] => pure ()
  | i, b :: bs => do
    f i b
    forEach f (i + 1) bs

/-- From where `P` holds the program returns where `Q` holds, or throws where `E` holds. -/
def Triple (P : η → σ → Prop) (m : InPlace ε η σ α) (Q : α → η → σ → Prop)
    (E : ε → η → σ → Prop) : Prop :=
  ∀ h s, P h s → ∀ r h' s', m (h, s) = (r, h', s') →
    match r with
    | .ok a => Q a h' s'
    | .error e => E e h' s'

variable {P P' : η → σ → Prop} {m : InPlace ε η σ α} {Q Q' : α → η → σ → Prop}
  {E : ε → η → σ → Prop}

namespace Triple

theorem pure {a : α} (hQ : ∀ h s, P h s → Q a h s) : Triple P (Pure.pure a) Q E := by
  intro h s hP r h' s' heq
  cases heq
  exact hQ h s hP

theorem bind {R : α → η → σ → Prop} {f : α → InPlace ε η σ β} {Q : β → η → σ → Prop}
    (hm : Triple P m R E) (hf : ∀ a, Triple (R a) (f a) Q E) : Triple P (m >>= f) Q E := by
  intro h s hP r h' s' heq
  have hthen := hm h s hP
  change (match m (h, s) with
    | (.ok a, t) => f a t
    | (.error e, t) => (.error e, t)) = (r, h', s') at heq
  rcases hr : m (h, s) with ⟨e | a, h₁, s₁⟩
  · rw [hr] at heq
    cases heq
    exact hthen _ _ _ hr
  · rw [hr] at heq
    exact hf a h₁ s₁ (hthen _ _ _ hr) r h' s' heq

theorem mono {E' : ε → η → σ → Prop} (hm : Triple P m Q E) (hP : ∀ h s, P' h s → P h s)
    (hQ : ∀ a h s, Q a h s → Q' a h s) (hE : ∀ e h s, E e h s → E' e h s) :
    Triple P' m Q' E' := by
  intro h s hP' r h' s' heq
  have hthen := hm h s (hP h s hP') r h' s' heq
  cases r with
  | ok a => exact hQ a h' s' hthen
  | error e => exact hE e h' s' hthen

theorem of_pre {p : Prop} (hp : ∀ h s, P h s → p) (hm : p → Triple P m Q E) : Triple P m Q E := by
  intro h s hP
  exact hm (hp h s hP) h s hP

theorem throw {e : ε} (hE : ∀ h s, P h s → E e h s) :
    Triple P (throw e : InPlace ε η σ α) Q E := by
  intro h s hP r h' s' heq
  cases heq
  exact hE h s hP

theorem assign {f : σ → σ} {Q : Unit → η → σ → Prop} (hQ : ∀ h s, P h s → Q () h (f s)) :
    Triple P (assign f) Q E := by
  intro h s hP r h' s' heq
  cases heq
  exact hQ h s hP

theorem ite {c : Prop} [Decidable c] {n : InPlace ε η σ α} (hm : c → Triple P m Q E)
    (hn : ¬ c → Triple P n Q E) : Triple P (if c then m else n) Q E := by
  split_ifs with hc
  · exact hm hc
  · exact hn hc

/-- What a call does to a part, it does to the object with this part. -/
theorem part {get : σ → τ} {put : τ → σ → σ} {n : InPlace ε η τ α}
    (hn : ∀ s, Triple (fun h t => P h s ∧ t = get s) n (fun a h t => Q a h (put t s))
      (fun e h t => E e h (put t s))) : Triple P (part get put n) Q E := by
  intro h s hP r h' s' heq
  rcases hr : n (h, get s) with ⟨r₁, h₁, t₁⟩
  have hthen := hn s h (get s) ⟨hP, rfl⟩ r₁ h₁ t₁ hr
  unfold InPlace.part at heq
  simp only [hr, Prod.mk.injEq] at heq
  obtain ⟨rfl, rfl, rfl⟩ := heq
  exact hthen

theorem forEach_from {f : ℕ → β → InPlace ε η σ Unit} {I : ℕ → η → σ → Prop} :
    ∀ {l : List β} {i : ℕ}, (∀ j b, l[j]? = some b →
      Triple (I (i + j)) (f (i + j) b) (fun _ => I (i + j + 1)) E) →
      Triple (I i) (forEach f i l) (fun _ => I (i + l.length)) E
  | [], _, _ => pure fun _ _ hI => hI
  | b :: bs, i, h => by
    have hrest : Triple (I (i + 1)) (InPlace.forEach f (i + 1) bs)
        (fun _ => I (i + 1 + bs.length)) E := by
      refine forEach_from fun j b hj => ?_
      have hround := h (j + 1) b hj
      rwa [show i + (j + 1) = i + 1 + j by omega] at hround
    have hlen : i + (b :: bs).length = i + 1 + bs.length := by
      rw [List.length_cons]
      omega
    rw [hlen]
    exact bind (h 0 b rfl) fun _ => hrest

/-- What each round keeps, the loop keeps. -/
theorem forEach {f : ℕ → β → InPlace ε η σ Unit} {I : ℕ → η → σ → Prop} {l : List β}
    (h : ∀ i b, l[i]? = some b → Triple (I i) (f i b) (fun _ => I (i + 1)) E) :
    Triple (I 0) (forEach f 0 l) (fun _ => I l.length) E := by
  have hloop := forEach_from (f := f) (I := I) (l := l) (i := 0) fun i b hi => by
    rw [Nat.zero_add]
    exact h i b hi
  rwa [Nat.zero_add] at hloop

end Triple

end InPlace
