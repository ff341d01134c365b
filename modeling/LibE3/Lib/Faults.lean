import LibE3.Lib.Loops

/-!
# Programs that may fault

A program that reads an array only where it has an element, counts only as far as its type goes and
leaves its loops ends in a value. `Stop` has the other ways to end. A loop is run with a number of
turns it may take; one that lowers a measure in every turn needs no more turns than that, and then
goes by its body alone.
-/

namespace Faults

/-- Why a program ends without a result. -/
inductive Stop
  | outOfBounds
  | overflow
  | outOfFuel
  deriving DecidableEq, Repr

abbrev Outcome (ρ : Type) := Except Stop ρ

variable {α β σ ρ : Type}

@[simp]
theorem ok_bind (a : α) (f : α → Outcome β) : (Except.ok a >>= f) = f a := rfl

/-! ## Accesses and counters -/

/-- The element at a place of an array. -/
def read (a : List α) (i : ℕ) : Outcome α :=
  match a[i]? with
  | some c => .ok c
  | none => .error .outOfBounds

theorem read_of_lt {a : List α} {i : ℕ} (h : i < a.length) : read a i = .ok a[i] := by
  rw [read, List.getElem?_eq_getElem h]

/-- `++n`, of a type whose greatest value is `limit`. -/
def increment (limit n : ℕ) : Outcome ℕ := if n < limit then .ok (n + 1) else .error .overflow

/-- `a - b`, of a type without negative values. -/
def subtract (a b : ℕ) : Outcome ℕ := if b ≤ a then .ok (a - b) else .error .overflow

theorem subtract_of_le {a b : ℕ} (h : b ≤ a) : subtract a b = .ok (a - b) := if_pos h

/-! ## Results -/

/-- The program ends with a value of which `P` holds. -/
def Returns (P : α → Prop) (x : Outcome α) : Prop := ∃ a, x = .ok a ∧ P a

/-- It does, unless a counter that cannot get past `room` goes past its limit. -/
def Counts (limit room : ℕ) (P : α → Prop) (x : Outcome α) : Prop :=
  Returns P x ∨ x = .error .overflow ∧ limit < room

section

variable {P Q : α → Prop} {x : Outcome α} {limit room room' : ℕ}

theorem Returns.mono (h : Returns P x) (hPQ : ∀ a, P a → Q a) : Returns Q x := by
  obtain ⟨a, hx, ha⟩ := h
  exact ⟨a, hx, hPQ a ha⟩

theorem Counts.mono (h : Counts limit room P x) (hle : room ≤ room') (hPQ : ∀ a, P a → Q a) :
    Counts limit room' Q x := by
  obtain h | ⟨hx, hlt⟩ := h
  · exact .inl (h.mono hPQ)
  · exact .inr ⟨hx, Nat.lt_of_lt_of_le hlt hle⟩

end

/-! ## Loops -/

/-- A loop that may take `fuel` turns. -/
def loop (body : σ → Outcome (Loop σ ρ)) : ℕ → σ → Outcome ρ
  | 0, _ => .error .outOfFuel
  | fuel + 1, s =>
    match body s with
    | .error e => .error e
    | .ok (.returned r) => .ok r
    | .ok (.running t) => loop body fuel t

/-- Every turn that is not the last one lowers `μ`. -/
def Decreases (body : σ → Outcome (Loop σ ρ)) (μ : σ → ℕ) : Prop :=
  ∀ s t, body s = .ok (.running t) → μ t < μ s

variable {body : σ → Outcome (Loop σ ρ)} {μ : σ → ℕ} {fuel : ℕ} {s : σ}

theorem loop_fuel (hμ : Decreases body μ) : ∀ {m n : ℕ} {s : σ}, μ s < m → μ s < n →
    loop body m s = loop body n s
  | m + 1, n + 1, s, hm, hn => by
    rw [loop, loop]
    rcases hs : body s with e | t | r
    · rfl
    · have := hμ s t hs
      exact loop_fuel hμ (by omega) (by omega)
    · rfl

theorem loop_running (hμ : Decreases body μ) {t : σ} (hs : body s = .ok (.running t))
    (hfuel : μ s < fuel) : loop body fuel s = loop body fuel t := by
  have := hμ s t hs
  obtain ⟨fuel, rfl⟩ := Nat.exists_eq_succ_of_ne_zero (show fuel ≠ 0 by omega)
  rw [Nat.succ_eq_add_one, loop, hs]
  exact loop_fuel hμ (by omega) (by omega)

theorem loop_returned {r : ρ} (hs : body s = .ok (.returned r)) (hfuel : 0 < fuel) :
    loop body fuel s = .ok r := by
  obtain ⟨fuel, rfl⟩ := Nat.exists_eq_succ_of_ne_zero (show fuel ≠ 0 by omega)
  rw [Nat.succ_eq_add_one, loop, hs]

theorem loop_error {e : Stop} (hs : body s = .error e) (hfuel : 0 < fuel) :
    loop body fuel s = .error e := by
  obtain ⟨fuel, rfl⟩ := Nat.exists_eq_succ_of_ne_zero (show fuel ≠ 0 by omega)
  rw [Nat.succ_eq_add_one, loop, hs]

/-- What a turn from `s` has to do so that `Q` holds of how the loop ends: it holds of how the turn
ends, or carries over from the state behind it. -/
def Leads (Q : σ → Outcome ρ → Prop) (μ : σ → ℕ) (s : σ) : Outcome (Loop σ ρ) → Prop
  | .error e => Q s (.error e)
  | .ok (.returned r) => Q s (.ok r)
  | .ok (.running t) => μ t < μ s ∧ ∀ x, Q t x → Q s x

theorem decreases_of_leads {Q : σ → Outcome ρ → Prop} (hturn : ∀ s, Leads Q μ s (body s)) :
    Decreases body μ := by
  intro s t hs
  have h := hturn s
  rw [hs] at h
  exact h.1

theorem loop_induct {Q : σ → Outcome ρ → Prop} (hturn : ∀ s, Leads Q μ s (body s))
    (hfuel : μ s < fuel) : Q s (loop body fuel s) := by
  induction fuel generalizing s with
  | zero => omega
  | succ fuel ih =>
    have h := hturn s
    rw [loop]
    rcases hs : body s with e | t | r <;> rw [hs] at h
    · exact h
    · have := h.1
      exact h.2 _ (ih (by omega))
    · exact h

/-- A turn that returns the value of `f`, or leaves it as it is. -/
def Keeps (f : σ → ρ) (μ : σ → ℕ) (s : σ) : Outcome (Loop σ ρ) → Prop
  | .error _ => False
  | .ok (.returned r) => f s = r
  | .ok (.running t) => μ t < μ s ∧ f s = f t

theorem loop_eq {f : σ → ρ} (hturn : ∀ s, Keeps f μ s (body s)) (hfuel : μ s < fuel) :
    loop body fuel s = .ok (f s) := by
  refine loop_induct (Q := fun s x => x = .ok (f s)) (fun s => ?_) hfuel
  have h := hturn s
  rcases hs : body s with e | t | r <;> rw [hs] at h
  · exact h.elim
  · exact ⟨h.1, fun x hx => hx.trans (congrArg Except.ok h.2.symm)⟩
  · exact congrArg Except.ok h.symm

end Faults
