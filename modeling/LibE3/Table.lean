import LibE3.Proofs.Ids
import Mathlib.Data.Set.Insert

/-!
# The table of subscriptions

What a subscription manager is for, apart from its maps: a set of registered dApps, and for each
pair of a dApp and a RAN function at most one subscription, with an identifier no other pair has.
The structure carries these facts, so a table that breaks them cannot be built. `Represents` ties
a manager to the table its six maps stand for.
-/

namespace LibE3

/-- A subscription: its identifier and what was granted. -/
structure Entry where
  id : UInt32
  details : SubscriptionDetails
  deriving DecidableEq, Repr

@[ext] structure Table where
  registered : Set UInt32
  entry : UInt32 → UInt32 → Option Entry
  registered_range : ∀ d ∈ registered, InIdRange d
  entry_registered : ∀ {d f e}, entry d f = some e → d ∈ registered
  id_range : ∀ {d f e}, entry d f = some e → InIdRange e.id
  id_inj : ∀ {d f e d' f' e'}, entry d f = some e → entry d' f' = some e' → e.id = e'.id →
    d = d' ∧ f = f'

namespace Table

variable (T : Table)

/-- Some dApp subscribes to the RAN function. -/
def Served (f : UInt32) : Prop := ∃ d e, T.entry d f = some e

/-- Some subscription has the identifier. -/
def IdInUse (id : UInt32) : Prop := ∃ d f e, T.entry d f = some e ∧ e.id = id

def empty : Table where
  registered := ∅
  entry _ _ := none
  registered_range _ h := absurd h (Set.notMem_empty _)
  entry_registered h := nomatch h
  id_range h := nomatch h
  id_inj h := nomatch h

def register (d : UInt32) (hd : InIdRange d) : Table where
  registered := insert d T.registered
  entry := T.entry
  registered_range d' h := by
    rcases h with rfl | h
    · exact hd
    · exact T.registered_range d' h
  entry_registered h := Set.mem_insert_of_mem d (T.entry_registered h)
  id_range := T.id_range
  id_inj := T.id_inj

/-- The table without the subscriptions that `keep` rejects. -/
def filter (keep : UInt32 → UInt32 → Entry → Bool) : Table where
  registered := T.registered
  entry d f := (T.entry d f).filter (keep d f)
  registered_range := T.registered_range
  entry_registered h := T.entry_registered (Option.filter_eq_some_iff.mp h).1
  id_range h := T.id_range (Option.filter_eq_some_iff.mp h).1
  id_inj h h' := T.id_inj (Option.filter_eq_some_iff.mp h).1 (Option.filter_eq_some_iff.mp h').1

/-- The table without the subscription of one pair. -/
def drop (d f : UInt32) : Table := T.filter fun d' f' _ => ¬ (d' = d ∧ f' = f)

/-- The table without the subscriptions that have run out. -/
def sweep (time : TimePoint) : Table := T.filter fun _ _ e => !isExpired e.details time

/-- The table without a dApp and its subscriptions. -/
def unregister (d : UInt32) : Table where
  registered := T.registered \ {d}
  entry d' f := if d' = d then none else T.entry d' f
  registered_range d' h := T.registered_range d' h.1
  entry_registered {d' f e} h := by
    split_ifs at h with hd
    exact ⟨T.entry_registered h, hd⟩
  id_range {d' f e} h := by
    split_ifs at h
    exact T.id_range h
  id_inj {d₁ f₁ e₁ d₂ f₂ e₂} h₁ h₂ := by
    split_ifs at h₁ h₂
    exact T.id_inj h₁ h₂

/-- `e` can be the subscription of the pair: the dApp is registered and no other pair has the
identifier. -/
structure Grantable (d f : UInt32) (e : Entry) : Prop where
  registered : d ∈ T.registered
  id_range : InIdRange e.id
  id_free : ∀ {d' f' e'}, T.entry d' f' = some e' → e'.id = e.id → d' = d ∧ f' = f

/-- The table with `e` as the subscription of the pair, new or in place of the old one. -/
def grant (d f : UInt32) (e : Entry) (h : T.Grantable d f e) : Table where
  registered := T.registered
  entry d' f' := if d' = d ∧ f' = f then some e else T.entry d' f'
  registered_range := T.registered_range
  entry_registered {d' f' e'} h' := by
    split_ifs at h' with hp
    · exact hp.1 ▸ h.registered
    · exact T.entry_registered h'
  id_range {d' f' e'} h' := by
    split_ifs at h' with hp
    · exact Option.some.inj h' ▸ h.id_range
    · exact T.id_range h'
  id_inj {d₁ f₁ e₁ d₂ f₂ e₂} h₁ h₂ hid := by
    split_ifs at h₁ h₂ with hp hq hq
    · exact ⟨hp.1.trans hq.1.symm, hp.2.trans hq.2.symm⟩
    · obtain rfl := Option.some.inj h₁
      exact absurd (h.id_free h₂ hid.symm) hq
    · obtain rfl := Option.some.inj h₂
      exact absurd (h.id_free h₁ hid) hp
    · exact T.id_inj h₁ h₂ hid

/-- How the table answers a request for the pair, at a time when what is asked for is `details`:
the answer and the table after it. -/
inductive Added (now : TimePoint) (d f : UInt32) (details : SubscriptionDetails) :
    ErrorCode × UInt32 → Table → Prop
  | unregistered (hd : d ∉ T.registered) : Added now d f details (.dappNotRegistered, 0) T
  | held {e : Entry} (he : T.entry d f = some e) (hx : isExpired e.details now = false) :
    Added now d f details (.subscriptionExists, e.id) T
  | renewed {e : Entry} (he : T.entry d f = some e) (hx : isExpired e.details now = true)
      (hg : T.Grantable d f ⟨e.id, details⟩) :
    Added now d f details (.success, e.id) (T.grant d f ⟨e.id, details⟩ hg)
  | full (hd : d ∈ T.registered) (hn : T.entry d f = none)
      (hall : ∀ id, InIdRange id → T.IdInUse id) : Added now d f details (.internalError, 0) T
  | new {id : UInt32} (hn : T.entry d f = none) (hid : LeastFree T.IdInUse id)
      (hg : T.Grantable d f ⟨id, details⟩) :
    Added now d f details (.success, id) (T.grant d f ⟨id, details⟩ hg)

variable {T} {d f : UInt32} {e : Entry}

theorem grantable_renew (he : T.entry d f = some e) (details : SubscriptionDetails) :
    T.Grantable d f ⟨e.id, details⟩ where
  registered := T.entry_registered he
  id_range := show InIdRange e.id from T.id_range he
  id_free he' hid := T.id_inj he' he hid

theorem grantable_new {d f id : UInt32} (hd : d ∈ T.registered) (hid : LeastFree T.IdInUse id)
    (details : SubscriptionDetails) : T.Grantable d f ⟨id, details⟩ where
  registered := hd
  id_range := hid.range
  id_free he hi := absurd ⟨_, _, _, he, hi⟩ hid.free

/-! ## Reading the operations -/

@[simp] theorem registered_register {d : UInt32} {hd : InIdRange d} :
    (T.register d hd).registered = insert d T.registered := rfl

@[simp] theorem entry_register {d : UInt32} {hd : InIdRange d} :
    (T.register d hd).entry = T.entry := rfl

@[simp] theorem registered_unregister {d : UInt32} :
    (T.unregister d).registered = T.registered \ {d} := rfl

theorem entry_drop (d f d' f' : UInt32) :
    (T.drop d f).entry d' f' = if d' = d ∧ f' = f then none else T.entry d' f' := by
  unfold drop filter
  simp only
  split_ifs with hp <;> cases T.entry d' f' <;> simp [hp]

variable {time : TimePoint}

theorem entry_sweep_eq_some :
    (T.sweep time).entry d f = some e ↔
      T.entry d f = some e ∧ isExpired e.details time = false := by
  simp [sweep, filter, Option.filter_eq_some_iff]

theorem entry_sweep_eq_none :
    (T.sweep time).entry d f = none ↔
      ∀ e, T.entry d f = some e → isExpired e.details time = true := by
  simp [sweep, filter, Option.filter_eq_none_iff]

theorem entry_unregister (d d' f : UInt32) :
    (T.unregister d).entry d' f = if d' = d then none else T.entry d' f := rfl

theorem entry_grant {h : T.Grantable d f e} (d' f' : UInt32) :
    (T.grant d f e h).entry d' f' = if d' = d ∧ f' = f then some e else T.entry d' f' := rfl

theorem entry_grant_pair {h : T.Grantable d f e} :
    (T.grant d f e h).entry d f = some e := by
  rw [entry_grant, if_pos ⟨rfl, rfl⟩]

theorem entry_grant_self {h : T.Grantable d f e} :
    (T.grant d f e h).entry d = Function.update (T.entry d) f (some e) := by
  funext f'
  simp [entry_grant, Function.update_apply]

theorem entry_grant_of_ne {d f d' : UInt32} {h : T.Grantable d f e} (hd : d' ≠ d) :
    (T.grant d f e h).entry d' = T.entry d' := by
  funext f'
  simp [entry_grant, hd]

theorem entry_drop_self (d f : UInt32) :
    (T.drop d f).entry d = Function.update (T.entry d) f none := by
  funext f'
  simp [entry_drop, Function.update_apply]

theorem entry_drop_of_ne {d d' : UInt32} (f : UInt32) (hd : d' ≠ d) :
    (T.drop d f).entry d' = T.entry d' := by
  funext f'
  simp [entry_drop, hd]

theorem served_iff_isSome {f : UInt32} : T.Served f ↔ ∃ d, (T.entry d f).isSome := by
  simp only [Served, Option.isSome_iff_exists]

theorem entry_eq_none_of_notMem {d : UInt32} (hd : d ∉ T.registered) (f : UInt32) :
    T.entry d f = none := by
  cases h : T.entry d f with
  | none => rfl
  | some e => exact absurd (T.entry_registered h) hd

theorem served_drop_of_ne {d f g : UInt32} (h : g ≠ f) : (T.drop d f).Served g ↔ T.Served g := by
  simp only [Served, entry_drop, h, and_false, if_false]

theorem served_of_drop {d f g : UInt32} (h : (T.drop d f).Served g) : T.Served g := by
  obtain ⟨d', e, he⟩ := h
  rw [entry_drop] at he
  split_ifs at he
  exact ⟨d', e, he⟩

/-- The table without the subscriptions of a dApp to the RAN functions of a list. -/
def dropAll (T : Table) (d : UInt32) (l : List UInt32) : Table := l.foldl (·.drop d ·) T

theorem entry_dropAll (d d' f : UInt32) : ∀ (l : List UInt32) (T : Table),
    (T.dropAll d l).entry d' f = if d' = d ∧ f ∈ l then none else T.entry d' f
  | [], T => by simp [dropAll]
  | g :: l, T => by
    have ih := entry_dropAll d d' f l (T.drop d g)
    unfold dropAll at ih ⊢
    rw [List.foldl_cons, ih, entry_drop]
    by_cases hd : d' = d
    · by_cases hg : f = g <;> simp [hd, hg]
    · simp [hd]

/-- The table without the subscriptions that have run out, as far as their keys are in `l`. -/
def sweepKeys (T : Table) (time : TimePoint) (l : List UInt64) : Table :=
  T.filter fun d f e => ¬ (makeSubKey d f ∈ l ∧ isExpired e.details time = true)

theorem entry_sweepKeys_eq_some {l : List UInt64} :
    (T.sweepKeys time l).entry d f = some e ↔
      T.entry d f = some e ∧ ¬ (makeSubKey d f ∈ l ∧ isExpired e.details time = true) := by
  simp only [sweepKeys, filter, Option.filter_eq_some_iff, decide_eq_true_eq]

theorem sweepKeys_nil (time : TimePoint) : T.sweepKeys time [] = T := by
  apply Table.ext
  · rfl
  · funext d f
    apply Option.ext
    intro e
    rw [entry_sweepKeys_eq_some]
    simp

theorem sweepKeys_cons_expired (l : List UInt64) (he : T.entry d f = some e)
    (hx : isExpired e.details time = true) :
    T.sweepKeys time (makeSubKey d f :: l) = (T.drop d f).sweepKeys time l := by
  apply Table.ext
  · rfl
  · funext d' f'
    apply Option.ext
    intro e'
    simp only [entry_sweepKeys_eq_some, entry_drop, List.mem_cons, makeSubKey_inj]
    by_cases hp : d' = d ∧ f' = f
    · obtain ⟨rfl, rfl⟩ := hp
      simp only [and_self, true_or, true_and, if_true, reduceCtorEq, false_and, iff_false,
        Bool.not_eq_true]
      rintro ⟨he', hx'⟩
      obtain rfl := Option.some.inj (he.symm.trans he')
      rw [hx] at hx'
      exact nomatch hx'
    · simp only [hp, if_false, false_or]

theorem sweepKeys_cons_live (l : List UInt64)
    (hx : ∀ e, T.entry d f = some e → isExpired e.details time = false) :
    T.sweepKeys time (makeSubKey d f :: l) = T.sweepKeys time l := by
  apply Table.ext
  · rfl
  · funext d' f'
    apply Option.ext
    intro e'
    simp only [entry_sweepKeys_eq_some, List.mem_cons, makeSubKey_inj]
    by_cases hp : d' = d ∧ f' = f
    · obtain ⟨rfl, rfl⟩ := hp
      refine and_congr_right fun he' => ?_
      simp [hx e' he']
    · simp only [hp, false_or]

theorem sweepKeys_eq_sweep {l : List UInt64} (hl : ∀ d f, (T.entry d f).isSome → makeSubKey d f ∈ l)
    :
    T.sweepKeys time l = T.sweep time := by
  apply Table.ext
  · rfl
  · funext d f
    apply Option.ext
    intro e
    rw [entry_sweepKeys_eq_some, entry_sweep_eq_some]
    refine and_congr_right fun he => ?_
    simp [hl d f (by rw [he]; rfl)]

end Table

end LibE3
