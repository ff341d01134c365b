import Mathlib.Data.List.Basic
import Mathlib.Tactic.Common
import Mathlib.Tactic.NormNum
import Mathlib.Tactic.Ring

/-!
# Packed records

Numbers in little-endian order, and records that are laid out as fields of fixed width one behind
the other. What is at an offset of such a layout is the field that starts there, and a file of
blocks of one width is read block by block.
-/

namespace LittleEndian

/-- The `w` bytes of a number, the least significant one first. -/
def bytes : ℕ → ℕ → List UInt8
  | 0, _ => []
  | w + 1, n => UInt8.ofNat n :: bytes w (n / 256)

/-- The number that has these bytes. -/
def value : List UInt8 → ℕ
  | [] => 0
  | b :: bs => b.toNat + 256 * value bs

@[simp] theorem length_bytes : ∀ w n, (bytes w n).length = w
  | 0, _ => rfl
  | w + 1, n => by rw [bytes, List.length_cons, length_bytes w]

theorem value_bytes : ∀ w n, value (bytes w n) = n % 256 ^ w
  | 0, n => by simp [bytes, value, Nat.mod_one]
  | w + 1, n => by
    have hlow : (UInt8.ofNat n).toNat = n % 256 := UInt8.toNat_ofNat'
    rw [bytes, value, value_bytes w, hlow, pow_succ' 256 w, Nat.mod_mul]

theorem value_bytes_of_lt {w n : ℕ} (h : n < 256 ^ w) : value (bytes w n) = n := by
  rw [value_bytes, Nat.mod_eq_of_lt h]

@[simp] theorem value_bytes_uInt32 (n : UInt32) : value (bytes 4 n.toNat) = n.toNat :=
  value_bytes_of_lt n.toNat_lt

@[simp] theorem value_bytes_uInt64 (n : UInt64) : value (bytes 8 n.toNat) = n.toNat :=
  value_bytes_of_lt n.toNat_lt

section Fields

variable {β : Type*}

/-- What stands in the `w` places from `off` on. -/
def field (off w : ℕ) (bs : List β) : List β := (bs.drop off).take w

theorem field_append_left {w : ℕ} {as bs : List β} (h : as.length = w) :
    field 0 w (as ++ bs) = as := by
  rw [field, List.drop_zero, List.take_left' h]

theorem field_append_right {off w : ℕ} {as bs : List β} (h : as.length ≤ off) :
    field off w (as ++ bs) = field (off - as.length) w bs := by
  rw [field, field, List.drop_append, List.drop_eq_nil_of_le h, List.nil_append]

theorem field_all {w : ℕ} {as : List β} (h : as.length = w) : field 0 w as = as := by
  rw [field, List.drop_zero, List.take_of_length_le (Nat.le_of_eq h)]

/-- The first `n` blocks of `w` places. -/
def blocks (w : ℕ) : ℕ → List β → List (List β)
  | 0, _ => []
  | n + 1, bs => bs.take w :: blocks w n (bs.drop w)

theorem blocks_flatten {w : ℕ} : ∀ {bss : List (List β)}, (∀ bs ∈ bss, bs.length = w) →
    blocks w bss.length bss.flatten = bss
  | [], _ => rfl
  | bs :: bss, h => by
    have hbs := h bs List.mem_cons_self
    rw [List.length_cons, blocks, List.flatten_cons, List.take_left' hbs, List.drop_left' hbs,
      blocks_flatten fun cs hcs => h cs (List.mem_cons_of_mem bs hcs)]

theorem length_flatten {w : ℕ} : ∀ {bss : List (List β)}, (∀ bs ∈ bss, bs.length = w) →
    bss.flatten.length = bss.length * w
  | [], _ => by simp
  | bs :: bss, h => by
    rw [List.flatten_cons, List.length_append, h bs List.mem_cons_self,
      length_flatten fun cs hcs => h cs (List.mem_cons_of_mem bs hcs), List.length_cons]
    ring

end Fields

end LittleEndian
