import Mathlib.Data.Nat.Find
import Mathlib.Tactic.Common

/-!
# Loops that wait for answers

The body of such a loop makes one call to its environment and goes on with the answer. Some answers
may leave it where it was (a call that was interrupted), and a loop whose other answers all bring it
forward returns unless it gets nothing but those.
-/

/-- Where a loop stands: it waits for an answer, or it has returned. -/
inductive Loop (σ ρ : Type*)
  | running (s : σ)
  | returned (r : ρ)
  deriving DecidableEq, Repr

namespace Loop

variable {σ ρ α : Type*} (body : σ → α → Loop σ ρ)

def resume : Loop σ ρ → α → Loop σ ρ
  | .running s, a => body s a
  | .returned r, _ => .returned r

/-- The loop after `n` answers. -/
def after (l : Loop σ ρ) (answers : ℕ → α) : ℕ → Loop σ ρ
  | 0 => l
  | n + 1 => (after l answers n).resume body (answers n)

variable {body}

theorem inv_after {I : σ → Prop} (hI : ∀ {s t a}, I s → body s a = .running t → I t)
    {l : Loop σ ρ} (hl : ∀ s, l = .running s → I s) {answers : ℕ → α} :
    ∀ {n s}, l.after body answers n = .running s → I s
  | 0, s, h => hl s h
  | n + 1, s, h => by
    rw [after] at h
    cases hn : l.after body answers n with
    | running t =>
      rw [hn] at h
      exact hI (inv_after hI hl hn) h
    | returned r =>
      rw [hn] at h
      exact absurd h nofun

theorem after_stalled {l : Loop σ ρ} {answers : ℕ → α} {stalls : α → Prop} {n : ℕ} {s : σ}
    (hstall : ∀ {a}, stalls a → body s a = .running s)
    (h : l.after body answers n = .running s) :
    ∀ {d}, (∀ k < d, stalls (answers (n + k))) → l.after body answers (n + d) = .running s
  | 0, _ => h
  | d + 1, hall => by
    have ih := after_stalled hstall h fun k hk => hall k (Nat.lt_succ_of_lt hk)
    rw [← Nat.add_assoc, after, ih]
    exact hstall (hall d (Nat.lt_succ_self d))

/-- A loop returns if every answer that does not stall it brings it forward, and it is not stalled
for ever. -/
theorem returns (μ : σ → ℕ) (I : σ → Prop) (stalls : α → Prop) {l : Loop σ ρ}
    {answers : ℕ → α} (hI : ∀ {s t a}, I s → body s a = .running t → I t)
    (hl : ∀ s, l = .running s → I s)
    (hstall : ∀ {s a}, I s → stalls a → body s a = .running s)
    (hforward : ∀ {n s t}, ¬ stalls (answers n) → I s → body s (answers n) = .running t → μ t < μ s)
    (hfair : ∀ n, ∃ k, ¬ stalls (answers (n + k))) :
    ∃ n r, l.after body answers n = .returned r := by
  -- By induction on what is left to do at some round.
  have key : ∀ m n s, l.after body answers n = .running s → μ s = m →
      ∃ k r, l.after body answers k = .returned r := by
    intro m
    induction m using Nat.strong_induction_on with
    | _ m ih =>
      intro n s hn hm
      classical
      have hs : I s := inv_after hI hl hn
      have hk := Nat.find_spec (hfair n)
      have hrun := after_stalled (hstall hs) hn fun k hk => not_not.mp (Nat.find_min (hfair n) hk)
      generalize Nat.find (hfair n) = k at hk hrun
      have hnext : l.after body answers (n + k + 1) = body s (answers (n + k)) := by
        rw [after, hrun, resume]
      cases hb : body s (answers (n + k)) with
      | returned r => exact ⟨_, r, hnext.trans hb⟩
      | running t =>
        have hlt := hforward hk hs hb
        exact ih (μ t) (hm ▸ hlt) _ t (hnext.trans hb) rfl
  cases h0 : l with
  | returned r => exact ⟨0, r, h0 ▸ rfl⟩
  | running s => exact h0 ▸ key (μ s) 0 s h0 rfl

end Loop
