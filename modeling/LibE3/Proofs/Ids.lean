import LibE3.SubscriptionManager
import Mathlib.Data.Finmap
import Mathlib.Tactic.Common

/-!
# Identifiers and keys

`lowest_free_id` gives the least identifier that is not in use, and the composite key of a pair
determines the pair: every 64-bit key is the key of exactly one pair.
-/

namespace LibE3

theorem makeSubKey_toNat (d f : UInt32) :
    (makeSubKey d f).toNat = d.toNat * 2 ^ 32 + f.toNat := by
  have hd := d.toNat_lt
  have hf := f.toNat_lt
  have hshift : (32 : UInt64).toNat % 64 = 32 := rfl
  rw [makeSubKey, UInt64.toNat_or, UInt64.toNat_shiftLeft, UInt32.toNat_toUInt64,
    UInt32.toNat_toUInt64, hshift, Nat.shiftLeft_eq, Nat.mod_eq_of_lt (by omega),
    ← Nat.shiftLeft_eq, ← Nat.shiftLeft_add_eq_or_of_lt hf, Nat.shiftLeft_eq]

theorem keyDapp_toNat (k : UInt64) : (keyDapp k).toNat = k.toNat / 2 ^ 32 := by
  have hk := k.toNat_lt
  have hshift : (32 : UInt64).toNat % 64 = 32 := rfl
  rw [keyDapp, UInt64.toNat_toUInt32, UInt64.toNat_shiftRight, hshift,
    Nat.shiftRight_eq_div_pow, Nat.mod_eq_of_lt (by omega)]

theorem keyRanFunction_toNat (k : UInt64) : (keyRanFunction k).toNat = k.toNat % 2 ^ 32 := by
  have hmask : (0xffffffff : UInt64).toNat = 2 ^ 32 - 1 := rfl
  rw [keyRanFunction, UInt64.toNat_toUInt32, UInt64.toNat_and, hmask,
    Nat.and_two_pow_sub_one_eq_mod, Nat.mod_mod]

@[simp] theorem keyDapp_makeSubKey (d f : UInt32) : keyDapp (makeSubKey d f) = d := by
  have hf := f.toNat_lt
  apply UInt32.toNat_inj.mp
  rw [keyDapp_toNat, makeSubKey_toNat]
  omega

@[simp] theorem keyRanFunction_makeSubKey (d f : UInt32) :
    keyRanFunction (makeSubKey d f) = f := by
  have hf := f.toNat_lt
  apply UInt32.toNat_inj.mp
  rw [keyRanFunction_toNat, makeSubKey_toNat]
  omega

@[simp] theorem makeSubKey_key (k : UInt64) :
    makeSubKey (keyDapp k) (keyRanFunction k) = k := by
  apply UInt64.toNat_inj.mp
  rw [makeSubKey_toNat, keyDapp_toNat, keyRanFunction_toNat]
  omega

theorem makeSubKey_inj {d f d' f' : UInt32} :
    makeSubKey d f = makeSubKey d' f' ↔ d = d' ∧ f = f' := by
  constructor
  · intro h
    have hd := congrArg keyDapp h
    have hf := congrArg keyRanFunction h
    simp only [keyDapp_makeSubKey, keyRanFunction_makeSubKey] at hd hf
    exact ⟨hd, hf⟩
  · rintro ⟨rfl, rfl⟩
    rfl

/-- An identifier of `E3-DAppID` or a subscription identifier: `1..65535`. -/
def InIdRange (id : UInt32) : Prop := minId ≤ id ∧ id ≤ maxId

instance (id : UInt32) : Decidable (InIdRange id) := inferInstanceAs (Decidable (_ ∧ _))

/-- `id` is the least identifier in `1..65535` that is not in use. -/
structure LeastFree (inUse : UInt32 → Prop) (id : UInt32) : Prop where
  range : InIdRange id
  free : ¬ inUse id
  least : ∀ j, minId ≤ j → j < id → inUse j

theorem inIdRange_iff_toNat {id : UInt32} : InIdRange id ↔ 1 ≤ id.toNat ∧ id.toNat ≤ 65535 := by
  unfold InIdRange minId maxId
  rw [UInt32.le_iff_toNat_le, UInt32.le_iff_toNat_le]
  rfl

theorem InIdRange.ne_zero {id : UInt32} (h : InIdRange id) : id ≠ 0 := by
  rintro rfl
  exact absurd h (by decide)

theorem scanFree_spec (taken : UInt32 → Bool) : ∀ (n : ℕ) (start : UInt32),
    1 ≤ start.toNat → start.toNat + n ≤ 65536 →
    (scanFree taken n start = 0 ∧
        ∀ j : UInt32, start.toNat ≤ j.toNat → j.toNat < start.toNat + n → taken j = true) ∨
      (start.toNat ≤ (scanFree taken n start).toNat ∧
        (scanFree taken n start).toNat < start.toNat + n ∧
        taken (scanFree taken n start) = false ∧
        ∀ j : UInt32, start.toNat ≤ j.toNat → j.toNat < (scanFree taken n start).toNat →
          taken j = true)
  | 0, start, _, _ => by
    left
    refine ⟨rfl, fun j h1 h2 => ?_⟩
    omega
  | n + 1, start, hs, hn => by
    have hsucc : (start + 1).toNat = start.toNat + 1 := by
      rw [UInt32.toNat_add]
      exact Nat.mod_eq_of_lt (by simp only [UInt32.toNat_one]; omega)
    unfold scanFree
    split_ifs with ht
    · -- the head is taken: the claim for the tail, with the head added below it
      have hhead : ∀ j : UInt32, start.toNat ≤ j.toNat → ¬ start.toNat + 1 ≤ j.toNat →
          taken j = true := by
        intro j h1 h2
        rw [show j = start from UInt32.toNat_inj.mp (by omega), ht]
      rcases scanFree_spec taken n (start + 1) (by omega) (by omega) with ⟨h0, hall⟩ |
        ⟨hlo, hhi, hfree, hall⟩
      · left
        refine ⟨h0, fun j h1 h2 => ?_⟩
        by_cases hj : start.toNat + 1 ≤ j.toNat
        · exact hall j (by omega) (by omega)
        · exact hhead j h1 hj
      · right
        refine ⟨by omega, by omega, hfree, fun j h1 h2 => ?_⟩
        by_cases hj : start.toNat + 1 ≤ j.toNat
        · exact hall j (by omega) h2
        · exact hhead j h1 hj
    · right
      refine ⟨le_rfl, by omega, by simpa using ht, fun j h1 h2 => ?_⟩
      omega

/-- `lowest_free_id` gives the least free identifier, or 0 when every identifier is in use. -/
theorem lowestFreeId_spec {ν : Type*} (taken : UnorderedMap UInt32 ν) :
    (lowestFreeId taken = 0 ∧ ∀ id, InIdRange id → id ∈ taken) ∨
      LeastFree (· ∈ taken) (lowestFreeId taken) := by
  have hmin : minId.toNat = 1 := rfl
  have hn : maxId.toNat + 1 - minId.toNat = 65535 := rfl
  rcases scanFree_spec (fun id => decide (id ∈ taken)) (maxId.toNat + 1 - minId.toNat) minId
    (by omega) (by omega) with ⟨h0, hall⟩ | ⟨hlo, hhi, hfree, hall⟩
  · left
    refine ⟨h0, fun id hid => ?_⟩
    rw [inIdRange_iff_toNat] at hid
    exact of_decide_eq_true (hall id (by omega) (by omega))
  · right
    refine ⟨inIdRange_iff_toNat.mpr ⟨hlo, ?_⟩, of_decide_eq_false hfree, fun j h1 h2 => ?_⟩
    · rw [hn, hmin] at hhi
      exact Nat.lt_succ_iff.mp hhi
    · rw [UInt32.le_iff_toNat_le] at h1
      rw [UInt32.lt_iff_toNat_lt] at h2
      exact of_decide_eq_true (hall j h1 h2)

theorem lowestFreeId_eq_zero_iff {ν : Type*} {taken : UnorderedMap UInt32 ν} :
    lowestFreeId taken = 0 ↔ ∀ id, InIdRange id → id ∈ taken := by
  rcases lowestFreeId_spec taken with ⟨h0, hall⟩ | hfree
  · exact iff_of_true h0 hall
  · exact iff_of_false hfree.range.ne_zero fun hall => hfree.free (hall _ hfree.range)

theorem leastFree_lowestFreeId {ν : Type*} {taken : UnorderedMap UInt32 ν}
    (h : lowestFreeId taken ≠ 0) : LeastFree (· ∈ taken) (lowestFreeId taken) :=
  (lowestFreeId_spec taken).resolve_left fun h0 => h h0.1

end LibE3
