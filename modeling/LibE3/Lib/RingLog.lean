import Mathlib.Data.List.Induction
import Mathlib.Data.List.Nodup
import Mathlib.Order.Lattice
import Mathlib.Order.Nat
import Mathlib.Tactic.Common

/-!
# Logs in a ring

A log that is written to a ring of cells keeps the last items, the newest ones in front of the
oldest ones. If the items have keys that never decrease, the keys of the cells descend at one place
at most, which is where the oldest item is. So a reader that knows only the cells can put the items
in order again.
-/

namespace RingLog

variable {α κ : Type*}

/-- The `i`th item is written. -/
def write (cells : List α) (i : ℕ) (x : α) : List α := cells.set (i % cells.length) x

/-- The items of a list are written, from the `i`th on. -/
def writeAll (cells : List α) (i : ℕ) : List α → List α
  | [] => cells
  | x :: xs => writeAll (write cells i x) (i + 1) xs

@[simp] theorem length_write (cells : List α) (i : ℕ) (x : α) :
    (write cells i x).length = cells.length := by
  simp [write]

theorem writeAll_concat (x : α) : ∀ (xs : List α) (cells : List α) (i : ℕ),
    writeAll cells i (xs ++ [x]) = write (writeAll cells i xs) (i + xs.length) x
  | [], cells, i => rfl
  | y :: xs, cells, i => by
    rw [List.cons_append, writeAll, writeAll, writeAll_concat x xs]
    simp only [List.length_cons]
    congr 1
    omega

/-- As long as there are cells left, the items stand in front of what the other cells had. -/
theorem writeAll_of_le (cells : List α) (xs : List α) (h : xs.length ≤ cells.length) :
    writeAll cells 0 xs = xs ++ cells.drop xs.length := by
  induction xs using List.reverseRecOn with
  | nil => simp [writeAll]
  | append_singleton xs x ih =>
    simp only [List.length_append, List.length_singleton] at h
    have hdrop : cells.drop xs.length = cells[xs.length] :: cells.drop (xs.length + 1) :=
      List.drop_eq_getElem_cons (by omega)
    rw [writeAll_concat, ih (by omega), write, Nat.zero_add]
    have hlen : (xs ++ cells.drop xs.length).length = cells.length := by
      simp
      omega
    rw [hlen, Nat.mod_eq_of_lt (by omega), List.set_append_right _ _ (Nat.le_refl _),
      Nat.sub_self, hdrop, List.set_cons_zero]
    simp

/-- The items that a ring of `c` cells keeps. -/
def kept (c : ℕ) (xs : List α) : List α := xs.drop (xs.length - c)

/-- Of these, the ones that were written since the ring was last filled to its end. -/
def newest (c : ℕ) (xs : List α) : List α := xs.drop (xs.length - xs.length % c)

/-- The ones that are left from the round before. -/
def oldest (c : ℕ) (xs : List α) : List α := (kept c xs).take (c - xs.length % c)

variable {β : Type*}

theorem map_kept (f : α → β) (c : ℕ) (xs : List α) : kept c (xs.map f) = (kept c xs).map f := by
  rw [kept, kept, List.length_map, List.map_drop]

theorem map_newest (f : α → β) (c : ℕ) (xs : List α) :
    newest c (xs.map f) = (newest c xs).map f := by
  rw [newest, newest, List.length_map, List.map_drop]

theorem map_oldest (f : α → β) (c : ℕ) (xs : List α) :
    oldest c (xs.map f) = (oldest c xs).map f := by
  rw [oldest, oldest, map_kept, List.length_map, List.map_take]

theorem oldest_append_newest {c : ℕ} (hc : 0 < c) {xs : List α} (h : c ≤ xs.length) :
    oldest c xs ++ newest c xs = kept c xs := by
  have hw : xs.length % c < c := Nat.mod_lt _ hc
  have hnewest : newest c xs = (kept c xs).drop (c - xs.length % c) := by
    rw [newest, kept, List.drop_drop]
    congr 1
    omega
  rw [hnewest, oldest, List.take_append_drop]

theorem succ_mod {c : ℕ} (hc : 0 < c) (n : ℕ) :
    (n + 1) % c = if n % c + 1 = c then 0 else n % c + 1 := by
  have hw : n % c < c := Nat.mod_lt _ hc
  rw [Nat.add_mod]
  rcases Nat.lt_or_ge 1 c with h1 | h1
  · rw [Nat.mod_eq_of_lt h1]
    split_ifs with h
    · rw [h, Nat.mod_self]
    · exact Nat.mod_eq_of_lt (by omega)
  · obtain rfl : c = 1 := by omega
    simp [Nat.mod_one]

theorem writeAll_of_ge (cells : List α) (hc : 0 < cells.length) (xs : List α)
    (h : cells.length ≤ xs.length) :
    writeAll cells 0 xs = newest cells.length xs ++ oldest cells.length xs := by
  induction xs using List.reverseRecOn with
  | nil =>
    simp only [List.length_nil] at h
    omega
  | append_singleton xs x ih =>
    set c := cells.length with hcells
    simp only [List.length_append, List.length_singleton] at h
    rcases Nat.eq_or_lt_of_le h with heq | hlt
    · -- the ring is just full
      have hle : (xs ++ [x]).length ≤ cells.length := by simp [← hcells, heq]
      rw [writeAll_of_le cells (xs ++ [x]) hle]
      have hlen : (xs ++ [x]).length = c := by simp [heq]
      have hrest : cells.drop c = [] := List.drop_eq_nil_of_le hcells.ge
      have hall : (xs ++ [x]).take c = xs ++ [x] := List.take_of_length_le hlen.le
      have hnone : (xs ++ [x]).drop c = [] := List.drop_eq_nil_of_le hlen.le
      rw [newest, oldest, kept, hlen, hrest]
      simp [hall, hnone]
    · have hw : xs.length % c < c := Nat.mod_lt _ hc
      have hold : c ≤ xs.length := by omega
      have hmod := Nat.mod_le xs.length c
      rw [writeAll_concat, ih hold, write, Nat.zero_add]
      have hnew : (newest c xs).length = xs.length % c := by
        simp [newest]
        omega
      have hlen : (newest c xs ++ oldest c xs).length = c := by
        simp [newest, oldest, kept]
        omega
      rw [hlen, List.set_append_right _ _ hnew.le, hnew, Nat.sub_self]
      -- the oldest item is replaced
      obtain ⟨y, holdest⟩ : ∃ y, oldest c xs
          = y :: (xs.drop (xs.length - c + 1)).take (c - xs.length % c - 1) := by
        have hsucc : c - xs.length % c = (c - xs.length % c - 1) + 1 := by omega
        rw [oldest, kept, List.drop_eq_getElem_cons (by omega), hsucc, List.take_succ_cons]
        exact ⟨_, rfl⟩
      rw [holdest, List.set_cons_zero]
      have hsucc := succ_mod hc xs.length
      have hlen' : (xs ++ [x]).length = xs.length + 1 := by simp
      have hdrop : (xs ++ [x]).drop (xs.length + 1 - c) = xs.drop (xs.length + 1 - c) ++ [x] :=
        List.drop_append_of_le_length (by omega)
      have hback : xs.length - c + 1 = xs.length + 1 - c := by omega
      split_ifs at hsucc with hwrap
      · -- the ring is full again
        have hnone : newest c (xs ++ [x]) = [] := by
          rw [newest, hlen', hsucc]
          simp
        have hall : oldest c (xs ++ [x]) = xs.drop (xs.length + 1 - c) ++ [x] := by
          rw [oldest, kept, hlen', hsucc, hdrop, List.take_of_length_le (by simp; omega)]
        have hone : c - xs.length % c - 1 = 0 := by omega
        have hfront : newest c xs = xs.drop (xs.length + 1 - c) := by
          rw [newest]
          congr 1
          omega
        rw [hnone, hall, hone, hfront]
        simp
      · have hnext : newest c (xs ++ [x]) = newest c xs ++ [x] := by
          rw [newest, hlen', hsucc, newest, ← List.drop_append_of_le_length (by omega)]
          congr 1
          omega
        have hrest : oldest c (xs ++ [x])
            = (xs.drop (xs.length + 1 - c)).take (c - xs.length % c - 1) := by
          rw [oldest, kept, hlen', hsucc, hdrop, List.take_append_of_le_length (by simp; omega)]
          congr 1
        rw [hnext, hrest, hback, List.append_assoc]
        simp

section Descents

variable [LinearOrder κ]

/-- The places where a key is less than the one before it. -/
def descents (keys : List κ) : List ℕ :=
  (List.range' 1 (keys.length - 1)).filter fun i =>
    match keys[i]?, keys[i - 1]? with
    | some a, some b => a < b
    | _, _ => false

/-- The keys descend at `i`. -/
def DescendsAt (keys : List κ) (i : ℕ) : Prop :=
  ∃ a b, keys[i + 1]? = some a ∧ keys[i]? = some b ∧ a < b

theorem mem_descents {keys : List κ} {i : ℕ} :
    i + 1 ∈ descents keys ↔ DescendsAt keys i := by
  unfold descents DescendsAt
  rw [List.mem_filter, List.mem_range'_1]
  constructor
  · rintro ⟨-, h⟩
    simp only [Nat.add_sub_cancel] at h
    rcases ha : keys[i + 1]? with _ | a <;> rcases hb : keys[i]? with _ | b <;>
      simp [ha, hb] at h
    exact ⟨a, b, rfl, rfl, h⟩
  · rintro ⟨a, b, ha, hb, hlt⟩
    have hi : i + 1 < keys.length := (List.getElem?_eq_some_iff.mp ha).1
    refine ⟨by omega, ?_⟩
    simp [ha, hb, hlt]

theorem nodup_descents (keys : List κ) : (descents keys).Nodup :=
  List.Nodup.filter _ List.nodup_range'

theorem pos_of_mem_descents {keys : List κ} {i : ℕ} (h : i ∈ descents keys) : 0 < i := by
  have hrange := (List.mem_filter.mp h).1
  rw [List.mem_range'_1] at hrange
  omega

theorem not_descendsAt {keys : List κ} (h : keys.Pairwise (· ≤ ·)) (i : ℕ) :
    ¬ DescendsAt keys i := by
  rintro ⟨a, b, ha, hb, hlt⟩
  obtain ⟨hi, rfl⟩ := List.getElem?_eq_some_iff.mp ha
  obtain ⟨hi', rfl⟩ := List.getElem?_eq_some_iff.mp hb
  exact absurd (List.pairwise_iff_getElem.mp h i (i + 1) hi' hi (Nat.lt_succ_self i)) (not_le.mpr hlt)

theorem descents_of_sorted {keys : List κ} (h : keys.Pairwise (· ≤ ·)) : descents keys = [] := by
  rw [List.eq_nil_iff_forall_not_mem]
  rintro (_ | i) hi
  · exact absurd (pos_of_mem_descents hi) (Nat.lt_irrefl 0)
  · exact not_descendsAt h i (mem_descents.mp hi)

/-- Two runs of keys that never decrease, the second one of which starts below the end of the
first, descend between them and nowhere else. -/
theorem descents_append {as bs : List κ} {a b : κ} (has : (as ++ [a]).Pairwise (· ≤ ·))
    (hbs : (b :: bs).Pairwise (· ≤ ·)) (hlt : b < a) :
    descents (as ++ [a] ++ b :: bs) = [as.length + 1] := by
  have hlen : (as ++ [a]).length = as.length + 1 := by simp
  have honly : ∀ i, DescendsAt (as ++ [a] ++ b :: bs) i ↔ i = as.length := by
    intro i
    rcases Nat.lt_trichotomy i as.length with hi | rfl | hi
    · refine iff_of_false ?_ (Nat.ne_of_lt hi)
      rintro ⟨x, y, hx, hy, hxy⟩
      rw [List.getElem?_append_left (by omega)] at hx hy
      exact not_descendsAt has i ⟨x, y, hx, hy, hxy⟩
    · refine iff_of_true ⟨b, a, ?_, ?_, hlt⟩ rfl
      · rw [List.getElem?_append_right (by omega), hlen]
        simp
      · rw [List.getElem?_append_left (by omega)]
        simp
    · refine iff_of_false ?_ (Nat.ne_of_gt hi)
      rintro ⟨x, y, hx, hy, hxy⟩
      rw [List.getElem?_append_right (by omega), hlen] at hx hy
      refine not_descendsAt hbs (i - (as.length + 1)) ⟨x, y, ?_, hy, hxy⟩
      rwa [show i - (as.length + 1) + 1 = i + 1 - (as.length + 1) by omega]
  have hmem : ∀ i, i ∈ descents (as ++ [a] ++ b :: bs) ↔ i = as.length + 1 := by
    rintro (_ | i)
    · refine iff_of_false (fun h => ?_) (by omega)
      exact absurd (pos_of_mem_descents h) (Nat.lt_irrefl 0)
    · rw [mem_descents, honly]
      omega
  exact (List.perm_singleton.mp
    ((List.perm_ext_iff_of_nodup (nodup_descents _) (List.nodup_singleton _)).mpr
      fun i => (hmem i).trans List.mem_singleton.symm))

variable {key : α → κ} {c : ℕ} {xs : List α}

theorem length_newest (c : ℕ) (xs : List α) : (newest c xs).length = xs.length % c := by
  have hle := Nat.mod_le xs.length c
  simp [newest]
  omega

theorem length_oldest (h : c ≤ xs.length) : (oldest c xs).length = c - xs.length % c := by
  simp [oldest, kept]
  omega

theorem mem_of_mem_kept {x : α} (h : x ∈ kept c xs) : x ∈ xs := List.mem_of_mem_drop h

theorem sorted_kept (h : (xs.map key).Pairwise (· ≤ ·)) : ((kept c xs).map key).Pairwise (· ≤ ·) :=
  h.sublist ((List.drop_sublist _ _).map key)

/-- Unless the ring has just been filled or all it keeps have one key, the keys of the cells descend
exactly where the oldest item is. -/
theorem descents_cells (hc : 0 < c) (h : c ≤ xs.length) (hw : xs.length % c ≠ 0)
    (hsorted : (xs.map key).Pairwise (· ≤ ·))
    (hne : ∃ x ∈ kept c xs, ∃ y ∈ kept c xs, key x ≠ key y) :
    descents ((newest c xs ++ oldest c xs).map key) = [xs.length % c] := by
  have hlt : xs.length % c < c := Nat.mod_lt _ hc
  have hkept := oldest_append_newest hc h
  have hnew := length_newest c xs
  have hold := length_oldest h
  rcases List.eq_nil_or_concat (newest c xs) with hnil | ⟨as, a, has⟩
  · rw [hnil] at hnew
    simp at hnew
    omega
  rcases hb : oldest c xs with _ | ⟨b, bs⟩
  · rw [hb] at hold
    simp at hold
    omega
  rw [List.concat_eq_append] at has
  rw [has, List.length_append, List.length_singleton] at hnew
  rw [has, hb] at hkept
  have hall := sorted_kept (c := c) hsorted
  rw [← hkept] at hall hne
  simp only [List.map_append, List.map_cons, List.map_nil] at hall
  obtain ⟨holdsorted, hnewsorted, hcross⟩ := List.pairwise_append.mp hall
  -- the first key is the least one and the last key the greatest one
  have hfirst : ∀ x ∈ b :: bs ++ (as ++ [a]), key b ≤ key x := by
    intro x hx
    rcases List.mem_append.mp hx with hx | hx
    · rcases List.mem_cons.mp hx with rfl | hx
      · exact le_refl _
      · exact (List.pairwise_cons.mp holdsorted).1 _ (List.mem_map_of_mem hx)
    · refine hcross _ List.mem_cons_self _ ?_
      simpa using List.mem_map_of_mem (f := key) hx
  have hlast : ∀ x ∈ b :: bs ++ (as ++ [a]), key x ≤ key a := by
    intro x hx
    rcases List.mem_append.mp hx with hx | hx
    · exact hcross _ (by simpa using List.mem_map_of_mem (f := key) hx) _ (by simp)
    · rcases List.mem_append.mp hx with hx | hx
      · exact (List.pairwise_append.mp hnewsorted).2.2 _ (List.mem_map_of_mem hx) _ (by simp)
      · rw [List.mem_singleton.mp hx]
  have hdescent : key b < key a := by
    obtain ⟨x, hx, y, hy, hxy⟩ := hne
    refine lt_of_le_of_ne (hfirst a (by simp)) fun heq => hxy ?_
    have hxa : key x = key a := le_antisymm (hlast x hx) (heq ▸ hfirst x hx)
    have hya : key y = key a := le_antisymm (hlast y hy) (heq ▸ hfirst y hy)
    rw [hxa, hya]
  have hcut : xs.length % c = (as.map key).length + 1 := by
    rw [List.length_map]
    omega
  rw [has, hcut]
  simp only [List.map_append, List.map_cons, List.map_nil]
  exact descents_append hnewsorted holdsorted hdescent

theorem cells_of_mod_eq_zero (hc : 0 < c) (h : c ≤ xs.length) (hw : xs.length % c = 0) :
    newest c xs ++ oldest c xs = kept c xs := by
  have hnil : newest c xs = [] := List.eq_nil_of_length_eq_zero ((length_newest c xs).trans hw)
  rw [← oldest_append_newest hc h, hnil, List.nil_append, List.append_nil]

end Descents

end RingLog
