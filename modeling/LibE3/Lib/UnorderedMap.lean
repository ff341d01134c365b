import Mathlib.Data.Finmap
import Mathlib.Data.Finset.Dedup

/-!
# Unordered maps

Which value a key has is all that can be observed of a hash map, apart from the order an iteration
visits the keys in. That order is not part of the map here: an operation that iterates takes it as
an argument, and `Visits` says which orders are possible.
-/

/-- A hash map from `κ` to `ν`. -/
abbrev UnorderedMap (κ ν : Type*) := Finmap fun _ : κ => ν

namespace Finmap

variable {κ ν : Type*} [DecidableEq κ]

theorem lookup_insert_ite (m : UnorderedMap κ ν) (k j : κ) (v : ν) :
    (m.insert k v).lookup j = if j = k then some v else m.lookup j := by
  split_ifs with h
  · subst h
    exact lookup_insert m
  · exact lookup_insert_of_ne m h

theorem lookup_erase_ite (m : UnorderedMap κ ν) (k j : κ) :
    (m.erase k).lookup j = if j = k then none else m.lookup j := by
  split_ifs with h
  · subst h
    exact lookup_erase j m
  · exact lookup_erase_ne h

theorem lookup_insert_eq_update (m : UnorderedMap κ ν) (k : κ) (v : ν) :
    (fun j => (m.insert k v).lookup j) = Function.update (fun j => m.lookup j) k (some v) := by
  funext j
  rw [lookup_insert_ite, Function.update_apply]

theorem lookup_erase_eq_update (m : UnorderedMap κ ν) (k : κ) :
    (fun j => (m.erase k).lookup j) = Function.update (fun j => m.lookup j) k none := by
  funext j
  rw [lookup_erase_ite, Function.update_apply]

theorem keys_insert (m : UnorderedMap κ ν) (k : κ) (v : ν) :
    (m.insert k v).keys = Insert.insert k m.keys := by
  ext j
  rw [mem_keys, mem_insert, Finset.mem_insert, mem_keys]

variable {m : UnorderedMap κ ν} {k : κ}

theorem lookup_of_notMem (h : k ∉ m) : m.lookup k = none :=
  lookup_eq_none.mpr h

section Ref

variable [Inhabited ν]

/-- The value a subscript refers to: the stored one, or the default one it inserts. -/
def ref (m : UnorderedMap κ ν) (k : κ) : ν := (m.lookup k).getD default

/-- The map after a subscript: a missing key now has the default value. -/
def touch (m : UnorderedMap κ ν) (k : κ) : UnorderedMap κ ν := m.insert k (m.ref k)

theorem ref_of_lookup {v : ν} (h : m.lookup k = some v) :
    m.ref k = v := by
  simp [ref, h]

theorem ref_of_notMem (h : k ∉ m) : m.ref k = default := by
  simp [ref, lookup_of_notMem h]

@[simp] theorem ref_empty (k : κ) : (∅ : UnorderedMap κ ν).ref k = default := by
  simp [ref]

theorem ref_insert (m : UnorderedMap κ ν) (k j : κ) (v : ν) :
    (m.insert k v).ref j = if j = k then v else m.ref j := by
  unfold ref
  rw [lookup_insert_ite]
  split_ifs <;> rfl

theorem ref_erase (m : UnorderedMap κ ν) (k j : κ) :
    (m.erase k).ref j = if j = k then default else m.ref j := by
  unfold ref
  rw [lookup_erase_ite]
  split_ifs <;> rfl

@[simp] theorem ref_touch (m : UnorderedMap κ ν) (k j : κ) : (m.touch k).ref j = m.ref j := by
  rw [touch, ref_insert]
  split_ifs with h
  · rw [h]
  · rfl

@[simp] theorem mem_touch {k j : κ} : j ∈ m.touch k ↔ j = k ∨ j ∈ m :=
  mem_insert

theorem lookup_touch_of_mem (h : k ∈ m) (j : κ) :
    (m.touch k).lookup j = m.lookup j := by
  obtain ⟨v, hv⟩ := mem_iff.mp h
  rw [touch, lookup_insert_ite, ref_of_lookup hv]
  split_ifs with hj
  · rw [hj, hv]
  · rfl

theorem touch_of_mem (h : k ∈ m) : m.touch k = m :=
  ext_lookup fun j => lookup_touch_of_mem h j

theorem ext_mem_ref {m m' : UnorderedMap κ ν} (hmem : ∀ k, k ∈ m ↔ k ∈ m')
    (href : ∀ k, m.ref k = m'.ref k) : m = m' := by
  refine ext_lookup fun k => ?_
  by_cases hk : k ∈ m
  · obtain ⟨v, hv⟩ := mem_iff.mp hk
    obtain ⟨v', hv'⟩ := mem_iff.mp ((hmem k).mp hk)
    have hr := href k
    rw [ref_of_lookup hv, ref_of_lookup hv'] at hr
    rw [hv, hv', hr]
  · rw [lookup_of_notMem hk, lookup_of_notMem (mt (hmem k).mpr hk)]

end Ref

section Inverse

variable [DecidableEq ν]

/-- Two maps that are each other's inverse: the two directions of a one-to-one relation. -/
def Inverse (m : UnorderedMap κ ν) (m' : UnorderedMap ν κ) : Prop :=
  ∀ k v, m.lookup k = some v ↔ m'.lookup v = some k

namespace Inverse

variable {m : UnorderedMap κ ν} {m' : UnorderedMap ν κ} {k : κ} {v : ν}

theorem symm (h : Inverse m m') : Inverse m' m := fun v k => (h k v).symm

theorem empty : Inverse (∅ : UnorderedMap κ ν) ∅ := fun k v => by simp

theorem erase (h : Inverse m m') (hk : m.lookup k = some v) :
    Inverse (m.erase k) (m'.erase v) := by
  intro j w
  rw [lookup_erase_ite, lookup_erase_ite]
  split_ifs with hj hw hw
  · exact Iff.rfl
  · -- `w` was the value of another key, or of none
    subst hj
    refine iff_of_false nofun fun hwk => hw ?_
    exact Option.some.inj (((h j w).mpr hwk).symm.trans hk)
  · subst hw
    refine iff_of_false (fun hjk => hj ?_) nofun
    exact Option.some.inj (((h j w).mp hjk).symm.trans ((h k w).mp hk))
  · exact h j w

theorem eq_of_insert (h : Inverse m m') (hi : Inverse (m.insert k v) (m'.insert v k)) :
    ∀ w ∈ m.lookup k, w = v := by
  intro w hw
  by_contra hne
  have hback : (m'.insert v k).lookup w = some k := by
    rw [lookup_insert_ite, if_neg hne]
    exact (h k w).mp hw
  have hforth := (hi k w).mpr hback
  rw [lookup_insert_ite, if_pos rfl] at hforth
  exact hne (Option.some.inj hforth).symm

theorem insert (h : Inverse m m') (hk : ∀ w ∈ m.lookup k, w = v)
    (hv : ∀ j ∈ m'.lookup v, j = k) : Inverse (m.insert k v) (m'.insert v k) := by
  intro j w
  rw [lookup_insert_ite, lookup_insert_ite]
  split_ifs with hj hw hw
  · rw [hj, hw]
    simp
  · subst hj
    exact iff_of_false (fun hvw => hw (Option.some.inj hvw).symm)
      fun hwk => hw (hk w ((h j w).mpr hwk))
  · subst hw
    exact iff_of_false (fun hjw => hj (hv j ((h j w).mp hjw)))
      fun hkj => hj (Option.some.inj hkj).symm
  · exact h j w

/-- A pair can be added to both directions exactly if neither half has another partner. -/
theorem insert_iff (h : Inverse m m') :
    Inverse (m.insert k v) (m'.insert v k) ↔
      (∀ w ∈ m.lookup k, w = v) ∧ ∀ j ∈ m'.lookup v, j = k :=
  ⟨fun hi => ⟨h.eq_of_insert hi, h.symm.eq_of_insert hi.symm⟩, fun hp => h.insert hp.1 hp.2⟩

theorem card_keys_le (h : Inverse m m') : m.keys.card ≤ m'.keys.card := by
  have hval : ∀ k ∈ m.keys, ∃ v, m.lookup k = some v := fun k hk => mem_iff.mp (mem_keys.mp hk)
  have hcard : (m'.keys.map Function.Embedding.some).card = m'.keys.card := Finset.card_map _
  rw [← hcard]
  refine Finset.card_le_card_of_injOn (fun k => m.lookup k) (fun k hk => ?_) fun k hk j hj hkj => ?_
  · obtain ⟨v, hv⟩ := hval k hk
    have hmem : v ∈ m'.keys := mem_keys.mpr (mem_iff.mpr ⟨k, (h k v).mp hv⟩)
    exact Finset.mem_map.mpr ⟨v, hmem, hv.symm⟩
  · obtain ⟨v, hv⟩ := hval k hk
    have hv' : m.lookup j = some v := hkj.symm.trans hv
    exact Option.some.inj (((h k v).mp hv).symm.trans ((h j v).mp hv'))

theorem card_keys (h : Inverse m m') : m.keys.card = m'.keys.card :=
  Nat.le_antisymm h.card_keys_le h.symm.card_keys_le

end Inverse

end Inverse

@[simp] theorem default_finset (α : Type*) : (default : Finset α) = ∅ := rfl

end Finmap

/-- `order` visits each element of `s` once: one of the orders an iteration can take. -/
def Visits {α : Type*} [DecidableEq α] (order : List α) (s : Finset α) : Prop :=
  order.Nodup ∧ order.toFinset = s

namespace Visits

variable {α : Type*} [DecidableEq α] {order : List α} {s : Finset α}

instance : Decidable (Visits order s) := inferInstanceAs (Decidable (_ ∧ _))

theorem nodup (h : Visits order s) : order.Nodup := h.1

theorem length_eq (h : Visits order s) : order.length = s.card := by
  rw [← h.2, List.toFinset_card_of_nodup h.nodup]

theorem mem_iff (h : Visits order s) {a : α} : a ∈ order ↔ a ∈ s := by
  rw [← h.2, List.mem_toFinset]

theorem exists_order (s : Finset α) : ∃ order, Visits order s := by
  obtain ⟨order, hs⟩ := Quot.exists_rep s.val
  have hn : order.Nodup := by
    have hs' := s.nodup
    rw [← hs] at hs'
    exact hs'
  refine ⟨order, hn, ?_⟩
  ext a
  rw [List.mem_toFinset, Finset.mem_def, ← hs]
  rfl

end Visits
