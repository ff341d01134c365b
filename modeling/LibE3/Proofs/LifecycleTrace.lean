import LibE3.Lib.Partial
import LibE3.Lifecycle
import LibE3.Proofs.Consistent

/-!
# Starts and stops alternate

When each call runs to completion, it makes for each RAN function the one callback its change of
subscribers calls for. So the callbacks for a RAN function alternate between start and stop, and the
last one says whether it has a subscriber.
-/

namespace LibE3

open SubscriptionManager Runs

/-- `b`, `!b`, `b`, and so on. -/
def Alternates : Bool → List Bool → Prop
  | _, [] => True
  | b, x :: xs => x = b ∧ Alternates (!b) xs

theorem alternates_concat (y : Bool) : ∀ (b : Bool) (xs : List Bool),
    Alternates b (xs ++ [y]) ↔ Alternates b xs ∧ y = (xs.getLast?.map not).getD b
  | b, [] => by simp [Alternates]
  | b, x :: xs => by
    rw [List.cons_append, Alternates, Alternates, alternates_concat y (!b) xs, and_assoc]
    refine and_congr_right fun hx => and_congr_right fun _ => ?_
    cases xs with
    | nil => simp [hx]
    | cons x' xs => simp [List.getLast?_cons]

theorem callbacksFor_append (f : UInt32) (l l' : List (UInt32 × Bool)) :
    callbacksFor f (l ++ l') = callbacksFor f l ++ callbacksFor f l' := by
  simp [callbacksFor]

variable {m : SubscriptionManager} {T T' : Table} {f : UInt32}

variable {checks : List (UInt32 × Bool)}

theorem checkSmLifecycle_of_reports {c : UInt32 × Bool} (h : Represents m T')
    (hr : Reports T T' checks) (hc : c ∈ checks) :
    m.checkSmLifecycle c = some (c.1, !c.2) := by
  obtain ⟨f, had⟩ := c
  have hchanged := ((hr.mem_iff f had).mp hc).2
  rw [← h.hasSubscribers_iff] at hchanged
  cases had <;> cases hnow : m.hasSubscribers f <;> simp_all [checkSmLifecycle]

theorem callbacks_eq_map (h : Represents m T') (hr : Reports T T' checks) :
    checks.filterMap m.checkSmLifecycle = checks.map fun c => (c.1, !c.2) := by
  rw [← List.filterMap_eq_map]
  exact List.filterMap_congr fun c hc => checkSmLifecycle_of_reports h hr hc

theorem callbacksFor_eq {l : List (UInt32 × Bool)} (hn : (l.map Prod.fst).Nodup) :
    (callbacksFor f l = [] ∧ ∀ b, (f, b) ∉ l) ∨ ∃ b, callbacksFor f l = [b] ∧ (f, b) ∈ l := by
  induction l with
  | nil => simp [callbacksFor]
  | cons c l ih =>
    obtain ⟨g, b⟩ := c
    rw [List.map_cons, List.nodup_cons] at hn
    by_cases hg : g = f
    · subst hg
      have hnone : callbacksFor g l = [] := by
        rcases ih hn.2 with h | ⟨b', -, hb'⟩
        · exact h.1
        · exact absurd (List.mem_map_of_mem hb') hn.1
      right
      refine ⟨b, ?_, List.mem_cons_self⟩
      unfold callbacksFor at hnone ⊢
      simp [hnone]
    · have hskip : callbacksFor f ((g, b) :: l) = callbacksFor f l := by
        simp [callbacksFor, hg]
      rw [hskip]
      rcases ih hn.2 with ⟨h₁, h₂⟩ | ⟨b', h₁, h₂⟩
      · left
        refine ⟨h₁, fun b' hb' => ?_⟩
        rcases List.mem_cons.mp hb' with heq | hmem
        · exact hg (congrArg Prod.fst heq).symm
        · exact h₂ b' hmem
      · exact .inr ⟨b', h₁, List.mem_cons_of_mem _ h₂⟩

/-- A call makes one callback for a RAN function whose subscribers came or went, and none for
any other. -/
theorem callbacksFor_reports {mgr : SubscriptionManager} (h : Represents m T)
    (h' : Represents mgr T') (hr : Reports T T' checks) (f : UInt32) :
    callbacksFor f (checks.filterMap mgr.checkSmLifecycle) =
      if m.hasSubscribers f = mgr.hasSubscribers f then [] else [mgr.hasSubscribers f] := by
  rw [callbacks_eq_map h' hr]
  have hmap : callbacksFor f (checks.map fun c => (c.1, !c.2)) =
      (callbacksFor f checks).map not := by
    simp [callbacksFor, List.filter_map, Function.comp_def]
  rw [hmap]
  have hmem := fun had => hr.mem_iff f had
  simp only [← h.hasSubscribers_iff, ← h'.hasSubscribers_iff] at hmem
  rcases callbacksFor_eq (f := f) hr.nodup with ⟨hnil, hnot⟩ | ⟨b, heq, hb⟩
  · rw [hnil]
    have := hnot (m.hasSubscribers f)
    rw [hmem] at this
    cases hm : m.hasSubscribers f <;> cases hm' : mgr.hasSubscribers f <;> simp_all
  · rw [heq]
    rw [hmem] at hb
    cases b <;> cases hm : m.hasSubscribers f <;> cases hm' : mgr.hasSubscribers f <;> simp_all

theorem Table.Step.eq_of_ne_success {op : Operation} {ret : ErrorCode} (h : T.Step op ret T')
    (hne : ret ≠ .success) : T' = T := by
  cases h with
  | add ha =>
    cases ha with
    | unregistered _ => rfl
    | held _ _ => rfl
    | renewed _ _ _ => exact absurd rfl hne
    | full _ _ _ => rfl
    | new _ _ _ => exact absurd rfl hne
  | registerFull _ => rfl
  | unregisterNone _ => rfl
  | removeNone _ => rfl
  | removeByIdNone _ => rfl
  | register _ => exact absurd rfl hne
  | unregister _ => exact absurd rfl hne
  | remove _ => exact absurd rfl hne
  | removeById _ => exact absurd rfl hne
  | expire => exact absurd rfl hne
  | clear => exact absurd rfl hne

theorem Reports.eq_nil (hr : Reports T T' checks) (h : ∀ f, T.Served f ↔ T'.Served f) :
    checks = [] := by
  rw [List.eq_nil_iff_forall_not_mem]
  rintro ⟨f, had⟩ hc
  obtain ⟨h₁, h₂⟩ := (hr.mem_iff f had).mp hc
  exact h₂ ((h f).symm.trans h₁)

/-- A request for a pair that is held, run out or not, gives no RAN function a subscriber. -/
theorem Table.Added.served_iff {now : TimePoint} {d f : UInt32} {details : SubscriptionDetails}
    {ret : ErrorCode × UInt32} (h : T.Added now d f details ret T') (hs : (T.entry d f).isSome)
    (g : UInt32) : T.Served g ↔ T'.Served g := by
  cases h with
  | unregistered _ => rfl
  | held _ _ => rfl
  | full _ _ _ => rfl
  | renewed _ _ hg =>
    by_cases hgf : g = f
    · subst hgf
      exact iff_of_true (Table.served_iff_isSome.mpr ⟨d, hs⟩) served_grant
    · exact (served_grant_of_ne hgf).symm
  | new hn _ _ =>
    rw [hn] at hs
    exact nomatch hs

/-- The callbacks a call makes from a manager in state `m`. -/
structure CallbackLaw (m : SubscriptionManager) (op : Operation) : Prop where
  /-- One callback for each RAN function whose having a subscriber changes, none for another. -/
  changes : ∀ f, callbacksFor f (op.exec m).callbacks =
    if m.hasSubscribers f = (op.exec m).mgr.hasSubscribers f then []
    else [(op.exec m).mgr.hasSubscribers f]
  /-- A failed call makes none; a duplicate request counts as failed here. -/
  failed : (op.exec m).ret ≠ .success → (op.exec m).callbacks = []
  /-- A request for a pair that is held makes none, also when it renews it after expiry. -/
  held : ∀ now d f ts cs p s, op = .addSubscription now d f ts cs p s →
    m.isSubscribed d f = true → (op.exec m).callbacks = []

theorem callbackLaw {op : Operation} (h : Represents m T) (hp : op.Possible m)
    (hc : op ≠ .clear) : CallbackLaw m op := by
  obtain ⟨T', hstep, hrep, hreports⟩ := exec_refines h hp
  have hr := hreports hc
  refine ⟨fun f => callbacksFor_reports h hrep hr f, fun hne => ?_, ?_⟩
  · have hnil := hr.eq_nil fun f => by rw [hstep.eq_of_ne_success hne]
    simp [Locked.callbacks, hnil]
  · rintro now d f ts cs p s rfl hs
    rw [h.isSubscribed_iff] at hs
    generalize (Operation.exec m (.addSubscription now d f ts cs p s)).ret = ret at hstep
    cases hstep with
    | add ha =>
      have hnil := hr.eq_nil (ha.served_iff hs)
      simp [Locked.callbacks, hnil]

/-- The callbacks so far alternate, and the last one tells who has subscribers. -/
structure TraceInv (h : History) : Prop where
  represents : ∃ T, Represents h.mgr T
  alternates : ∀ f, Alternates true (callbacksFor f h.trace)
  last : ∀ f, (callbacksFor f h.trace).getLast? = some true ↔ h.mgr.hasSubscribers f = true

theorem traceInv_fresh : TraceInv .fresh where
  represents := ⟨_, represents_fresh⟩
  alternates _ := trivial
  last f := by simp [callbacksFor, History.fresh, fresh, hasSubscribers]

theorem traceInv_step {h h' : History} {op : Operation} (hi : TraceInv h)
    (hs : h.step op = some h') : TraceInv h' := by
  obtain ⟨hp, rfl⟩ := Partial.of_check hs
  obtain ⟨T, hrep⟩ := hi.represents
  have hlaw := callbackLaw hrep hp.1 hp.2
  obtain ⟨T', -, hrep', -⟩ := exec_refines hrep hp.1
  refine ⟨⟨T', hrep'⟩, fun f => ?_, fun f => ?_⟩
  · rw [callbacksFor_append, hlaw.changes]
    split_ifs with heq
    · rw [List.append_nil]
      exact hi.alternates f
    · refine (alternates_concat _ _ _).mpr ⟨hi.alternates f, ?_⟩
      have hlast := hi.last f
      -- the new callback is the opposite of the last one, or the first start
      rcases hl : (callbacksFor f h.trace).getLast? with _ | b
      · rw [hl] at hlast
        simp_all
      · rw [hl] at hlast
        cases b <;> simp_all
  · rw [callbacksFor_append, hlaw.changes]
    split_ifs with heq
    · rw [List.append_nil, hi.last, heq]
    · simp

/-- After any calls run to completion on a fresh manager, for every RAN function the callbacks
alternate from a start, the last one is a start exactly when there is a subscriber, and every
next call obeys the callback law. -/
theorem lifecycle_callbacks_alternate {ops : List Operation} {h : History}
    (hrun : run History.step .fresh ops = some h) :
    (∀ f, Alternates true (callbacksFor f h.trace) ∧
      ((callbacksFor f h.trace).getLast? = some true ↔ h.mgr.hasSubscribers f = true)) ∧
    ∀ op : Operation, op.Possible h.mgr → op ≠ .clear → CallbackLaw h.mgr op := by
  have hi := inv traceInv_step traceInv_fresh hrun
  obtain ⟨T, hrep⟩ := hi.represents
  exact ⟨fun f => ⟨hi.alternates f, hi.last f⟩, fun op hp hc => callbackLaw hrep hp hc⟩

/-- One sweep ends the last subscriptions to two RAN functions, a third keeps one. -/
theorem lifecycle_callbacks_alternate_sweep :
    ∃ h, run History.step .fresh [.registerDapp, .registerDapp, .addSubscription 0 1 7 [1] [] 0 5,
        .addSubscription 0 1 8 [1] [] 0 5, .addSubscription 0 1 9 [1] [] 0 5,
        .addSubscription 0 2 9 [1] [] 0 0, .expireSubscriptions 5000000000
          [makeSubKey 1 9, makeSubKey 1 8, makeSubKey 2 9, makeSubKey 1 7]] = some h ∧
      h.trace = [(7, true), (8, true), (9, true), (8, false), (7, false)] ∧
      ((∀ f, Alternates true (callbacksFor f h.trace) ∧
        ((callbacksFor f h.trace).getLast? = some true ↔ h.mgr.hasSubscribers f = true)) ∧
      ∀ op : Operation, op.Possible h.mgr → op ≠ .clear → CallbackLaw h.mgr op) := by
  exact exists_run (fun h => h.trace =
      [(7, true), (8, true), (9, true), (8, false), (7, false)]) (by decide +kernel)
    fun h hh ht => ⟨ht, lifecycle_callbacks_alternate hh⟩

end LibE3
