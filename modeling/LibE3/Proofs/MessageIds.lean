import LibE3.Ran

/-!
# The numbers of the messages

`generate_message_id` reduces a counter of 32 bits modulo `2 ^ 32 - 1`, while the counter itself
wraps at `2 ^ 32`. So the last counter before the wrap and the first one behind it give the same
identifier, and no other two do.
-/

namespace LibE3

def counterAfter (n : UInt32) : ℕ → UInt32
  | 0 => n
  | k + 1 => (generateMessageId (counterAfter n k)).2

def messageIdAfter (n : UInt32) (k : ℕ) : UInt32 := (generateMessageId (counterAfter n k)).1

theorem toNat_generateMessageId (n : UInt32) :
    (generateMessageId n).1.toNat = n.toNat % 4294967295 + 1 := by
  have hmod := Nat.mod_lt n.toNat (show 0 < 4294967295 by decide)
  simp only [generateMessageId, UInt32.toNat_add, UInt32.toNat_mod]
  change (n.toNat % 4294967295 + 1) % 2 ^ 32 = _
  exact Nat.mod_eq_of_lt (by omega)

theorem toNat_counterAfter (n : UInt32) :
    ∀ k, (counterAfter n k).toNat = (n.toNat + k) % 4294967296
  | 0 => (Nat.mod_eq_of_lt n.toNat_lt).symm
  | k + 1 => by
    have ih := toNat_counterAfter n k
    simp only [counterAfter, generateMessageId, UInt32.toNat_add]
    change ((counterAfter n k).toNat + 1) % 2 ^ 32 = _
    rw [ih]
    omega

theorem toNat_messageIdAfter (n : UInt32) (k : ℕ) :
    (messageIdAfter n k).toNat = (n.toNat + k) % 4294967296 % 4294967295 + 1 := by
  rw [messageIdAfter, toNat_generateMessageId, toNat_counterAfter]

theorem counterAfter_add (n : UInt32) (k i : ℕ) :
    counterAfter (counterAfter n k) i = counterAfter n (k + i) := by
  apply UInt32.toNat_inj.mp
  rw [toNat_counterAfter, toNat_counterAfter, toNat_counterAfter]
  omega

theorem messageIdAfter_add (n : UInt32) (k i : ℕ) :
    messageIdAfter (counterAfter n k) i = messageIdAfter n (k + i) := by
  rw [messageIdAfter, counterAfter_add, messageIdAfter]

theorem messageIdAfter_ne {n : UInt32} {m i j : ℕ} (hm : n.toNat + m ≤ 4294967296)
    (hlen : m ≤ 4294967295) (hij : i < j) (hj : j < m) :
    messageIdAfter n i ≠ messageIdAfter n j := by
  intro heq
  have hid := congrArg UInt32.toNat heq
  rw [toNat_messageIdAfter, toNat_messageIdAfter, Nat.mod_eq_of_lt (show n.toNat + i < _ by omega),
    Nat.mod_eq_of_lt (show n.toNat + j < _ by omega)] at hid
  -- only the largest counter is reduced, and then the smallest one is not in the window
  have hi : (n.toNat + i) % 4294967295 = n.toNat + i := Nat.mod_eq_of_lt (by omega)
  omega

/-- Up to `2 ^ 32 - 1` identifiers in a row are distinct exactly when the counter does not wrap
between the first and the last of them. -/
theorem distinct_iff_no_wrap {n : UInt32} {m : ℕ} (hm : m ≤ 4294967295) :
    (∀ i j, i < j → j < m → messageIdAfter n i ≠ messageIdAfter n j) ↔
      n.toNat + m ≤ 4294967296 := by
  constructor
  · intro hdistinct
    by_contra hwrap
    have hn := n.toNat_lt
    -- the calls at the two ends of the wrap
    refine hdistinct (4294967295 - n.toNat) (4294967296 - n.toNat) (by omega) (by omega) ?_
    apply UInt32.toNat_inj.mp
    rw [toNat_messageIdAfter, toNat_messageIdAfter,
      show n.toNat + (4294967295 - n.toNat) = 4294967295 by omega,
      show n.toNat + (4294967296 - n.toNat) = 4294967296 by omega]
  · intro hwrap i j hij hj
    exact messageIdAfter_ne hwrap hm hij hj

/-- The identifiers are in the range of the protocol. Those of `2 ^ 32 - 1` calls in a row are
distinct exactly when the counter is 0 or 1 at the first of these calls. -/
theorem message_ids_distinct_iff (n : UInt32) (k : ℕ) :
    (1 ≤ (messageIdAfter n k).toNat ∧ (messageIdAfter n k).toNat ≤ 4294967295) ∧
      ((∀ i j, i < j → j < 4294967295 →
          messageIdAfter n (k + i) ≠ messageIdAfter n (k + j)) ↔
        counterAfter n k = 0 ∨ counterAfter n k = 1) := by
  have hid := toNat_messageIdAfter n k
  have hmod := Nat.mod_lt ((n.toNat + k) % 4294967296) (show 0 < 4294967295 by decide)
  refine ⟨by omega, ?_⟩
  simp only [← messageIdAfter_add]
  rw [distinct_iff_no_wrap le_rfl, ← UInt32.toNat_inj, ← UInt32.toNat_inj]
  change _ ↔ _ = 0 ∨ _ = 1
  omega

/-- At the wrap the same identifier is returned twice in a row. -/
theorem same_id_at_the_wrap :
    messageIdAfter 4294967295 0 = 1 ∧ messageIdAfter 4294967295 1 = 1 := by
  decide

end LibE3
