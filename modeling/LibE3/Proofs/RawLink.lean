import LibE3.Proofs.RoundRobin

/-!
# Messages to the RAN have no boundaries

A dApp writes its messages one after the other and the RAN takes what a read gives for a message.
So the messages come out right exactly when each read hands out the next message, no more and no
less, and the RAN closes no connection on which it has not read them all.
-/

namespace LibE3.Posix.Inbound

variable {s t : Inbound} {c : ℕ} {answers : Answers}

/-! ## The property, and what the kernel has to answer -/

/-- The RAN has closed its end of the connection. -/
def Closed (s : Inbound) (c : ℕ) : Prop :=
  (s.wires c).connected = true ∧ c ∉ s.peers ++ s.backlog

/-- The RAN has returned the first messages that were sent with success, each once and whole, and
all of them if it has closed the connection. -/
structure KeepsBoundaries (c : ℕ) (s : Inbound) : Prop where
  inOrder : (s.wires c).received <+: (s.wires c).sent
  complete : s.Closed c → (s.wires c).received = (s.wires c).sent

/-- The scan over the peers gets to `c`: none before it has data ready. -/
inductive GetsTo (pfds : List ℕ) (ready : ℕ → Prop) (c : ℕ) : List ℕ → Prop
  | here {idx : ℕ} {rest : List ℕ} : pfds[idx]? = some c → GetsTo pfds ready c (idx :: rest)
  | later {idx : ℕ} {rest : List ℕ} : (∀ d, pfds[idx]? = some d → ¬ ready d) →
      GetsTo pfds ready c rest → GetsTo pfds ready c (idx :: rest)

def LooksAt (s : Inbound) (answers : Answers) (c : ℕ) : Prop :=
  s.listening = true ∧ GetsTo s.peers (s.IsReady answers) c
    ((List.range s.peers.length).map fun k => (s.inboundRr + k) % s.peers.length)

/-- The kernel reports the connection as broken: the poll does, or a read finds its end or fails. -/
def IsBroken (answers : Answers) (c : ℕ) : Prop :=
  match answers with
  | .ready _ _ revents reads =>
    (revents c).broken = true ∨ (revents c).pollin = true ∧ (reads c = .closed ∨ reads c = .failed)
  | _ => False

/-- What the kernel answers fits the messages on the connection. A `receive()` that looks at the
peer is handed the next message, or nothing; if it is told that the connection is broken, there is
no message left. After the RAN has closed the connection, no message is taken whole. -/
def AtBoundary (c : ℕ) (s : Inbound) : Event → Prop
  | .receive answers => s.LooksAt answers c →
    (∀ bs, s.Offers answers c bs → (s.wires c).sent[(s.wires c).received.length]? = some bs)
      ∧ (¬ s.IsReady answers c → IsBroken answers c → (s.wires c).received = (s.wires c).sent)
  | .send d data (.moved n) =>
    d = c → s.Closed c → (s.wires c).shutdownRequested = false → n < data.length
  | _ => True

/-! ## One call of `receive()` -/

/-- What a call is told at a peer: the bytes that are read, and whether it is broken. -/
def told (s : Inbound) (answers : Answers) (c : ℕ) : Option Bytes × Bool :=
  match answers with
  | .ready _ _ revents reads => serve (s.wires c) (revents c) (reads c)
  | _ => (none, false)

theorem offers_iff_told {bs : Bytes} : s.Offers answers c bs ↔ (s.told answers c).1 = some bs := by
  rcases answers with _ | _ | _ | ⟨listener, accepted, revents, reads⟩
  · simp [Offers, told]
  · simp [Offers, told]
  · simp [Offers, told]
  · exact serve_eq_some.symm

theorem told_eq_broken :
    s.told answers c = (none, true) ↔ ¬ s.IsReady answers c ∧ IsBroken answers c := by
  simp only [IsReady, offers_iff_told, not_exists]
  rcases answers with _ | _ | _ | ⟨listener, accepted, revents, reads⟩
  · simp [told, IsBroken]
  · simp [told, IsBroken]
  · simp [told, IsBroken]
  · simp only [told, IsBroken, serve]
    rcases hp : (revents c).pollin
    · simp
    · rcases hr : reads c with n | _ | _ | _
      · rcases ha : (Arrival.moved n).answer defaultBufferSize (s.wires c).unread
          with _ | (bs | _ | _ | _)
        · simp
        · simp
        all_goals
          simp only [Arrival.answer] at ha
          split at ha <;> simp at ha
      all_goals simp [Arrival.answer]

/-- What a scan does to a connection, by whether it gets to it and by what it is told there. -/
structure Scanned (gets : Prop) (told : Option Bytes × Bool) (c : ℕ) (s t : Inbound) : Prop where
  peers : t.peers.Sublist s.peers
  backlog : t.backlog = s.backlog
  served : gets → ∀ bs, told.1 = some bs → t.wires c = (s.wires c).take bs
  passed : (gets → told.1 = none) → t.wires c = s.wires c
  attached : c ∈ t.peers ↔ c ∈ s.peers ∧ ¬ (gets ∧ told = (none, true))

theorem Scanned.skip {gets gets' : Prop} {told : Option Bytes × Bool} {u : Inbound}
    (h : Scanned gets' told c u t) (hpeers : u.peers.Sublist s.peers)
    (hmem : c ∈ u.peers ↔ c ∈ s.peers) (hbacklog : u.backlog = s.backlog)
    (hwires : u.wires = s.wires) (hgets : (gets ↔ gets') ∨ told = (none, false)) :
    Scanned gets told c s t := by
  refine ⟨h.peers.trans hpeers, h.backlog.trans hbacklog, fun hg bs hbs => ?_, fun hg => ?_, ?_⟩
  · rcases hgets with hiff | rfl
    · rw [h.served (hiff.mp hg) bs hbs, hwires]
    · simp at hbs
  · rw [← hwires]
    refine h.passed fun hg' => ?_
    rcases hgets with hiff | rfl
    · exact hg (hiff.mpr hg')
    · rfl
  · rw [h.attached, hmem]
    rcases hgets with hiff | rfl
    · rw [hiff]
    · simp

/-- The peer is dropped when it is told to be broken. -/
theorem Scanned.drop {gets gets' : Prop} {told : Option Bytes × Bool}
    (h : Scanned gets' told c { s with peers := s.peers.filter (· ≠ c) } t) (hgets : gets)
    (htold : told = (none, true)) : Scanned gets told c s t := by
  subst htold
  refine ⟨h.peers.trans List.filter_sublist, h.backlog, fun _ bs hbs => ?_,
    fun _ => h.passed fun _ => rfl, ?_⟩
  · cases hbs
  · simp [h.attached, hgets]

/-- The scan ends at a peer that has data ready. -/
theorem Scanned.take {gets : Prop} {told : Option Bytes × Bool} {fd : ℕ} {bs : Bytes}
    (hgets : gets ↔ fd = c) (htold : fd = c → told.1 = some bs) (inboundRr : ℕ) :
    Scanned gets told c s { s.setWire fd ((s.wires fd).take bs) with inboundRr := inboundRr } := by
  refine ⟨List.Sublist.refl _, rfl, fun hg bs' hbs => ?_, fun hnone => ?_, ?_⟩
  · obtain rfl := hgets.mp hg
    obtain rfl : bs = bs' := Option.some.inj ((htold rfl).symm.trans hbs)
    exact Function.update_self ..
  · refine Function.update_of_ne (fun hc => ?_) ..
    have hsome := htold hc.symm
    rw [hnone (hgets.mpr hc.symm)] at hsome
    cases hsome
  · have hno : ¬ (gets ∧ told = (none, true)) := by
      rintro ⟨hg, rfl⟩
      cases htold (hgets.mp hg)
    simp [hno, setWire]

theorem getsTo_cons {pfds rest : List ℕ} {ready : ℕ → Prop} {idx : ℕ}
    (hnot : ∀ d, pfds[idx]? = some d → ¬ ready d) (hne : pfds[idx]? ≠ some c) :
    GetsTo pfds ready c (idx :: rest) ↔ GetsTo pfds ready c rest := by
  constructor
  · rintro (hfd | ⟨-, hrest⟩)
    · exact absurd hfd hne
    · exact hrest
  · exact .later hnot

theorem getsTo_cons_ready {pfds rest : List ℕ} {ready : ℕ → Prop} {idx fd : ℕ}
    (hfd : pfds[idx]? = some fd) (hready : ready fd) :
    GetsTo pfds ready c (idx :: rest) ↔ fd = c := by
  constructor
  · rintro (hc | ⟨hnot, -⟩)
    · exact Option.some.inj (hfd.symm.trans hc)
    · exact absurd hready (hnot fd hfd)
  · rintro rfl
    exact .here hfd

theorem scan_scanned {pfds : List ℕ} {revents : ℕ → Revents} {reads : ℕ → Arrival}
    {ready : ℕ → Prop} : ∀ {order : List ℕ} {s : Inbound},
    (∀ d, ready d ↔ ∃ bs, (serve (s.wires d) (revents d) (reads d)).1 = some bs) →
      Scanned (GetsTo pfds ready c order) (serve (s.wires c) (revents c) (reads c)) c s
        (scan pfds revents reads order s).2
  | [], s, _ => by
    have hgets : ¬ GetsTo pfds ready c [] := by
      rintro ⟨⟩
    unfold scan
    dsimp only
    split_ifs <;> exact ⟨List.Sublist.refl _, rfl, fun h => absurd h hgets, fun _ => rfl,
      by simp [hgets]⟩
  | idx :: rest, s, hready => by
    rw [scan_cons]
    rcases hfd : pfds[idx]? with _ | fd
    · exact (scan_scanned hready).skip (List.Sublist.refl _) Iff.rfl rfl rfl
        (.inl (getsTo_cons (by simp [hfd]) (by simp [hfd])))
    · have hfdReady := hready fd
      dsimp only
      rcases hserve : serve (s.wires fd) (revents fd) (reads fd) with ⟨_ | bs, broken⟩
      · -- nothing is read, and the scan goes on
        have hnot : ∀ d, pfds[idx]? = some d → ¬ ready d := by
          intro d hd
          obtain rfl := Option.some.inj (hfd.symm.trans hd)
          simp [hfdReady, hserve]
        have hlater (hne : fd ≠ c) :
            GetsTo pfds ready c (idx :: rest) ↔ GetsTo pfds ready c rest :=
          getsTo_cons hnot (by simpa [hfd] using hne)
        rcases broken
        · refine (scan_scanned hready).skip (List.Sublist.refl _) Iff.rfl rfl rfl ?_
          rcases eq_or_ne fd c with rfl | hne
          · exact .inr hserve
          · exact .inl (hlater hne)
        · have hrest : Scanned (GetsTo pfds ready c rest)
              (serve (s.wires c) (revents c) (reads c)) c _ _ :=
            scan_scanned (s := { s with peers := s.peers.filter (· ≠ fd) }) hready
          rcases eq_or_ne fd c with rfl | hne
          · exact hrest.drop (.here hfd) hserve
          · exact hrest.skip List.filter_sublist (by simp [hne.symm]) rfl rfl
              (.inl (hlater hne))
      · refine .take (getsTo_cons_ready hfd (hfdReady.mpr ⟨bs, by rw [hserve]⟩)) ?_ (idx + 1)
        rintro rfl
        rw [hserve]

theorem receive_scanned (s : Inbound) (answers : Answers) (c : ℕ) :
    ∃ u : Inbound, s.peers ⊆ u.peers ∧ u.peers ++ u.backlog = s.peers ++ s.backlog
      ∧ u.wires = s.wires
      ∧ Scanned (s.LooksAt answers c) (s.told answers c) c u (s.receive answers).2 := by
  have hstay : (s.LooksAt answers c → s.told answers c = (none, false)) →
      Scanned (s.LooksAt answers c) (s.told answers c) c s s := by
    intro h
    refine ⟨List.Sublist.refl _, rfl, fun hlooks bs hbs => ?_, fun _ => rfl, ?_⟩
    · simp [h hlooks] at hbs
    · have : ¬ (s.LooksAt answers c ∧ s.told answers c = (none, true)) := by
        rintro ⟨hlooks, htold⟩
        simp [h hlooks] at htold
      simp [this]
  unfold receive
  split_ifs with hl
  · simp only [Bool.not_eq_true'] at hl
    exact ⟨s, fun _ h => h, rfl, rfl, hstay fun hlooks => by simp [hlooks.1] at hl⟩
  · simp only [Bool.not_eq_true', Bool.not_eq_false] at hl
    rcases answers with _ | _ | _ | ⟨listener, accepted, revents, reads⟩
    · exact ⟨s, fun _ h => h, rfl, rfl, hstay fun _ => rfl⟩
    · exact ⟨s, fun _ h => h, rfl, rfl, hstay fun _ => rfl⟩
    · exact ⟨s, fun _ h => h, rfl, rfl, hstay fun _ => rfl⟩
    · obtain ⟨u, hu, hrr, hwires, hpeers, hall⟩ :
          ∃ u, (if listener then s.drainAccept accepted else s) = u ∧ u.inboundRr = s.inboundRr
            ∧ u.wires = s.wires ∧ s.peers ⊆ u.peers
            ∧ u.peers ++ u.backlog = s.peers ++ s.backlog := by
        rcases listener
        · exact ⟨s, rfl, rfl, rfl, fun _ h => h, rfl⟩
        · exact ⟨s.drainAccept accepted, rfl, rfl, rfl, List.subset_append_left _ _,
            by simp [drainAccept]⟩
      refine ⟨u, hpeers, hall, hwires, ?_⟩
      have hready : ∀ d, s.IsReady (.ready listener accepted revents reads) d
          ↔ ∃ bs, (serve (u.wires d) (revents d) (reads d)).1 = some bs := by
        intro d
        rw [hwires]
        exact exists_congr fun bs => serve_eq_some.symm
      simp only [LooksAt, hl, true_and, told, ← hwires, hu, ← hrr]
      exact scan_scanned hready

/-! ## The whole run -/

/-- A connection is in one place at most at the RAN, and only after the dApp has connected. -/
structure Listed (s : Inbound) : Prop where
  nodup : (s.peers ++ s.backlog).Nodup
  connected : ∀ d ∈ s.peers ++ s.backlog, (s.wires d).connected = true

theorem send_cases (w : Wire) (data : Bytes) (sent : WriteResult) :
    (w.send data sent).2.connected = w.connected
      ∧ (w.send data sent).2.received = w.received
      ∧ (((w.send data sent).2.sent = w.sent ++ [data] ∧ w.shutdownRequested = false
          ∧ ∃ n, sent = .moved n ∧ data.length ≤ n)
        ∨ (w.send data sent).2.sent = w.sent ∧ (w.shutdownRequested = false →
          w.connected = true → ∀ n, sent = .moved n → n < data.length)) := by
  unfold Wire.send
  split_ifs with hdown hconnected
  · exact ⟨rfl, rfl, .inr ⟨rfl, fun h => by simp [h] at hdown⟩⟩
  · exact ⟨rfl, rfl, .inr ⟨rfl, fun _ h => by simp [h] at hconnected⟩⟩
  · cases sent with
    | interrupted => exact ⟨rfl, rfl, .inr ⟨rfl, by simp⟩⟩
    | failed => exact ⟨rfl, rfl, .inr ⟨rfl, by simp⟩⟩
    | moved n =>
      dsimp only
      split_ifs with hout
      · refine ⟨rfl, rfl, .inr ⟨rfl, fun _ _ m hm => ?_⟩⟩
        obtain rfl := WriteResult.moved.inj hm
        rw [List.length_take] at hout
        omega
      · refine ⟨rfl, rfl, .inl ⟨rfl, by simpa using hdown, n, rfl, ?_⟩⟩
        rw [List.length_take] at hout
        omega

theorem receive_connected (s : Inbound) (answers : Answers) (d : ℕ) :
    ((s.receive answers).2.wires d).connected = (s.wires d).connected := by
  obtain ⟨u, -, -, hwires, hscan⟩ := receive_scanned s answers d
  by_cases h : s.LooksAt answers d → (s.told answers d).1 = none
  · rw [hscan.passed h, hwires]
  · obtain ⟨hlooks, hsome⟩ := Classical.not_imp.mp h
    obtain ⟨bs, hbs⟩ := Option.ne_none_iff_exists'.mp hsome
    rw [hscan.served hlooks bs hbs, hwires]
    rfl

theorem Listed.setWire (h : s.Listed) {c : ℕ} {w : Wire}
    (hw : w.connected = (s.wires c).connected) : (s.setWire c w).Listed := by
  refine ⟨h.nodup, fun d hd => ?_⟩
  have hconnected := h.connected d hd
  rcases eq_or_ne d c with rfl | hne
  · simpa [Inbound.setWire, hw] using hconnected
  · simpa [Inbound.setWire, hne] using hconnected

theorem listed_step {e : Event} (h : s.Listed) (hstep : s.step e = some t) : t.Listed := by
  cases e with
  | listen =>
    obtain rfl := Option.some.inj hstep
    exact ⟨h.nodup, h.connected⟩
  | connect c =>
    simp only [step] at hstep
    split_ifs at hstep with hc
    obtain rfl := Option.some.inj hstep
    have hnew : c ∉ s.peers ++ s.backlog := fun hmem => hc (h.connected c hmem)
    refine ⟨?_, fun d hd => ?_⟩
    · show (s.peers ++ (s.backlog ++ [c])).Nodup
      rw [← List.append_assoc, ← List.concat_eq_append]
      exact List.Nodup.concat hnew h.nodup
    · rcases eq_or_ne d c with rfl | hne
      · simp [Inbound.setWire]
      · have hd' : d ∈ s.peers ++ s.backlog := by
          simpa [Inbound.setWire, hne] using hd
        simpa [Inbound.setWire, hne] using h.connected d hd'
  | shutdown c =>
    obtain rfl := Option.some.inj hstep
    exact h.setWire rfl
  | send c data sent =>
    obtain rfl := Option.some.inj hstep
    exact h.setWire (send_cases _ data sent).1
  | receive answers =>
    obtain rfl := Option.some.inj hstep
    obtain ⟨u, -, hall, -, hscan⟩ := receive_scanned s answers 0
    have hsub : ((s.receive answers).2.peers ++ (s.receive answers).2.backlog).Sublist
        (s.peers ++ s.backlog) := by
      rw [← hall, hscan.backlog]
      exact hscan.peers.append_right _
    refine ⟨h.nodup.sublist hsub, fun d hd => ?_⟩
    rw [receive_connected]
    exact h.connected d (hsub.subset hd)

/-- A list of messages is a beginning of another one with one more message if this is the next. -/
theorem concat_prefix_iff {first all : List Bytes} (h : first <+: all) (x : Bytes) :
    first ++ [x] <+: all ↔ all[first.length]? = some x := by
  obtain ⟨rest, rfl⟩ := h
  rw [List.prefix_append_right_inj, List.getElem?_append_right (Nat.le_refl _), Nat.sub_self]
  rcases rest with _ | ⟨y, rest⟩
  · simp
  · simp [eq_comm]

theorem GetsTo.mem {pfds order : List ℕ} {ready : ℕ → Prop} (h : GetsTo pfds ready c order) :
    c ∈ pfds := by
  induction h with
  | here hfd => exact List.mem_of_getElem? hfd
  | later _ _ ih => exact ih

theorem KeepsBoundaries.congr (h : s.KeepsBoundaries c)
    (hreceived : (t.wires c).received = (s.wires c).received)
    (hsent : (t.wires c).sent = (s.wires c).sent) (hclosed : t.Closed c → s.Closed c) :
    t.KeepsBoundaries c := by
  refine ⟨?_, fun hc => ?_⟩
  · rw [hreceived, hsent]
    exact h.inOrder
  · rw [hreceived, hsent]
    exact h.complete (hclosed hc)

/-- A call that reads from the connection leaves it open, and what it reads has to be next. -/
theorem KeepsBoundaries.ready_iff {u : Inbound} {bs : Bytes} (h : s.KeepsBoundaries c)
    (hscan : Scanned (s.LooksAt answers c) (s.told answers c) c u t) (hwires : u.wires = s.wires)
    (hpeers : s.peers ⊆ u.peers) (hlooks : s.LooksAt answers c) (hbs : s.Offers answers c bs) :
    t.KeepsBoundaries c ↔ (s.wires c).sent[(s.wires c).received.length]? = some bs := by
  have htold := offers_iff_told.mp hbs
  have hw := hscan.served hlooks bs htold
  rw [hwires] at hw
  have hstays : c ∈ t.peers := by
    refine hscan.attached.mpr ⟨hpeers hlooks.2.mem, fun hgone => ?_⟩
    simp [hgone.2] at htold
  have hnext : (t.wires c).received <+: (t.wires c).sent
      ↔ (s.wires c).sent[(s.wires c).received.length]? = some bs := by
    rw [hw]
    exact concat_prefix_iff h.inOrder bs
  refine ⟨fun hkept => hnext.mp hkept.inOrder, fun hat => ⟨hnext.mpr hat, fun hclosed => ?_⟩⟩
  exact absurd (List.mem_append_left _ hstays) hclosed.2

/-- A call that reads nothing closes the connection if it is broken. -/
theorem KeepsBoundaries.not_ready_iff (h : s.KeepsBoundaries c)
    (hw : t.wires c = s.wires c) (hclosed : t.Closed c ↔ IsBroken answers c) :
    t.KeepsBoundaries c ↔ (IsBroken answers c → (s.wires c).received = (s.wires c).sent) := by
  constructor
  · intro hkept hbroken
    rw [← hw]
    exact hkept.complete (hclosed.mpr hbroken)
  · intro hat
    refine ⟨?_, fun hc => ?_⟩
    · rw [hw]
      exact h.inOrder
    · rw [hw]
      exact hat (hclosed.mp hc)

theorem KeepsBoundaries.receive_iff (hlisted : s.Listed) (h : s.KeepsBoundaries c)
    (answers : Answers) :
    (s.receive answers).2.KeepsBoundaries c ↔ AtBoundary c s (.receive answers) := by
  obtain ⟨u, hpeers, hall, hwires, hscan⟩ := receive_scanned s answers c
  have hconnected := receive_connected s answers c
  generalize (s.receive answers).2 = t at hscan hconnected ⊢
  by_cases hlooks : s.LooksAt answers c
  · rw [AtBoundary, forall_prop_of_true hlooks]
    by_cases hready : s.IsReady answers c
    · obtain ⟨bs, hbs⟩ := hready
      rw [h.ready_iff hscan hwires hpeers hlooks hbs]
      refine ⟨fun hnext => ⟨fun bs' hbs' => ?_, fun hnot => absurd ⟨bs, hbs⟩ hnot⟩,
        fun hat => hat.1 bs hbs⟩
      obtain rfl : bs = bs' :=
        Option.some.inj ((offers_iff_told.mp hbs).symm.trans (offers_iff_told.mp hbs'))
      exact hnext
    · have hnone : (s.told answers c).1 = none := by
        rcases htold : (s.told answers c).1 with _ | bs
        · rfl
        · exact absurd ⟨bs, offers_iff_told.mpr htold⟩ hready
      have hw := hscan.passed fun _ => hnone
      rw [hwires] at hw
      have hclosed : t.Closed c ↔ IsBroken answers c := by
        have hc : (s.wires c).connected = true :=
          hlisted.connected c (List.mem_append_left _ hlooks.2.mem)
        have hbacklog : c ∉ u.backlog := fun hb =>
          (List.nodup_append.mp (hall ▸ hlisted.nodup)).2.2 c (hpeers hlooks.2.mem) c hb rfl
        simp only [Closed, hconnected, hc, List.mem_append, hscan.attached, hscan.backlog,
          hbacklog, hpeers hlooks.2.mem, hlooks, told_eq_broken, hready]
        simp
      rw [h.not_ready_iff hw hclosed]
      exact ⟨fun hat => ⟨fun bs hbs => absurd ⟨bs, hbs⟩ hready, fun _ => hat⟩,
        fun hat => hat.2 hready⟩
  · have hw := hscan.passed fun hl => absurd hl hlooks
    rw [hwires] at hw
    refine iff_of_true (h.congr (by rw [hw]) (by rw [hw]) fun hclosed => ?_)
      fun hl => absurd hl hlooks
    refine ⟨hconnected ▸ hclosed.1, ?_⟩
    rw [← hall, List.mem_append, ← hscan.backlog]
    have hsame : c ∈ t.peers ↔ c ∈ u.peers := by simp [hscan.attached, hlooks]
    rw [← hsame, ← List.mem_append]
    exact hclosed.2

theorem KeepsBoundaries.send_iff (h : s.KeepsBoundaries c) (d : ℕ) (data : Bytes)
    (sent : WriteResult) :
    (s.setWire d ((s.wires d).send data sent).2).KeepsBoundaries c
      ↔ AtBoundary c s (.send d data sent) := by
  rcases eq_or_ne c d with rfl | hne
  · obtain ⟨hconnected, hreceived, hcases⟩ := send_cases (s.wires c) data sent
    generalize hw : ((s.wires c).send data sent).2 = w at hconnected hreceived hcases ⊢
    have hself : (s.setWire c w).wires c = w := Function.update_self ..
    have hclosed : (s.setWire c w).Closed c ↔ s.Closed c := by
      rw [Closed, hself, hconnected]
      rfl
    rcases hcases with ⟨hsent, hup, n, rfl, hn⟩ | ⟨hsent, hfails⟩
    · constructor
      · intro hkept _ hc _
        have hall := hkept.complete (hclosed.mpr hc)
        rw [hself, hreceived, hsent, h.complete hc] at hall
        simp at hall
      · intro hat
        have hopen : ¬ s.Closed c := fun hc => absurd (hat rfl hc hup) (Nat.not_lt.mpr hn)
        refine ⟨?_, fun hc => absurd (hclosed.mp hc) hopen⟩
        rw [hself, hreceived, hsent]
        exact h.inOrder.trans (List.prefix_append _ _)
    · refine iff_of_true (h.congr (by rw [hself, hreceived]) (by rw [hself, hsent]) hclosed.mp) ?_
      cases sent with
      | moved n => exact fun _ hc hup => hfails hup hc.1 n rfl
      | interrupted => trivial
      | failed => trivial
  · have hw : (s.setWire d ((s.wires d).send data sent).2).wires c = s.wires c :=
      Function.update_of_ne hne ..
    refine iff_of_true (h.congr (by rw [hw]) (by rw [hw]) fun hclosed => ?_) ?_
    · exact ⟨hw ▸ hclosed.1, hclosed.2⟩
    · cases sent with
      | moved n => exact fun hd => absurd hd.symm hne
      | interrupted => trivial
      | failed => trivial

theorem keepsBoundaries_step_iff {e : Event} (hlisted : s.Listed) (h : s.KeepsBoundaries c)
    (hstep : s.step e = some t) : t.KeepsBoundaries c ↔ AtBoundary c s e := by
  cases e with
  | listen =>
    obtain rfl := Option.some.inj hstep
    exact iff_of_true (h.congr rfl rfl id) trivial
  | connect d =>
    simp only [step] at hstep
    split_ifs at hstep
    obtain rfl := Option.some.inj hstep
    refine iff_of_true ?_ trivial
    rcases eq_or_ne c d with rfl | hne
    · refine h.congr ?_ ?_ fun hclosed => absurd hclosed.2 ?_
      · simp [setWire]
      · simp [setWire]
      · simp
    · refine h.congr ?_ ?_ fun hclosed => ?_
      · simp [setWire, hne]
      · simp [setWire, hne]
      · simpa [Closed, setWire, hne] using hclosed
  | shutdown d =>
    obtain rfl := Option.some.inj hstep
    refine iff_of_true ?_ trivial
    rcases eq_or_ne c d with rfl | hne
    · exact h.congr (by simp [setWire]) (by simp [setWire]) fun hc => by
        simpa [Closed, setWire] using hc
    · exact h.congr (by simp [setWire, hne]) (by simp [setWire, hne]) fun hc => by
        simpa [Closed, setWire, hne] using hc
  | send d data sent =>
    obtain rfl := Option.some.inj hstep
    exact h.send_iff d data sent
  | receive answers =>
    obtain rfl := Option.some.inj hstep
    exact h.receive_iff hlisted answers

theorem listed_initial : initial.Listed := ⟨List.nodup_nil, by simp [initial]⟩

theorem keepsBoundaries_initial (c : ℕ) : initial.KeepsBoundaries c :=
  ⟨List.prefix_rfl, fun _ => rfl⟩

/-- In every run and for every connection: at each moment the RAN has returned the first messages
of the dApp, each once and whole, and all of them if it has closed the connection, if and only if
at each step the kernel's answers fit the messages on the connection. -/
theorem boundaries_kept_iff {es : List Event} {s : Inbound}
    (hrun : Runs.run step initial es = some s) (c : ℕ) :
    Runs.Always step (KeepsBoundaries c) initial es ↔ Runs.Meets step (AtBoundary c) initial es :=
  Runs.always_iff_meets_of_inv listed_step keepsBoundaries_step_iff listed_initial
    (keepsBoundaries_initial c) hrun

def reading (n : ℕ) : Event :=
  .receive (.ready false 0 (fun _ => ⟨true, false⟩) fun _ => .moved n)

def attached : List Event :=
  [.listen, .connect 0, .receive (.ready true 1 (fun _ => ⟨false, false⟩) fun _ => .closed)]

/-- A message of two bytes, read as one. -/
theorem boundaries_kept_one_message :
    (∃ s, Runs.run step initial (attached ++ [.send 0 [1, 2] (.moved 2), reading 9]) = some s
      ∧ (s.wires 0).received = [[1, 2]])
    ∧ Runs.Always step (KeepsBoundaries 0) initial
      (attached ++ [.send 0 [1, 2] (.moved 2), reading 9]) := by
  refine ⟨⟨_, rfl, by decide⟩, (boundaries_kept_iff rfl 0).mpr ?_⟩
  refine ⟨trivial, fun t ht => ?_⟩
  obtain rfl := Option.some.inj ht
  refine ⟨trivial, fun t ht => ?_⟩
  obtain rfl := Option.some.inj ht
  refine ⟨fun hlooks => absurd hlooks.2.mem (by decide), fun t ht => ?_⟩
  obtain rfl := Option.some.inj ht
  refine ⟨fun _ hclosed => absurd hclosed.2 (by decide), fun t ht => ?_⟩
  obtain rfl := Option.some.inj ht
  refine ⟨fun _ => ⟨fun bs hbs => ?_, fun hnot => absurd ⟨[1, 2], rfl, rfl⟩ hnot⟩, fun _ _ => trivial⟩
  have hread : some (ReadResult.bytes [1, 2]) = some (.bytes bs) := hbs.2
  obtain rfl := ReadResult.bytes.inj (Option.some.inj hread)
  rfl

/-- Two messages that were both sent before the RAN reads come out as one. -/
theorem two_sends_joined :
    ∃ s, Runs.run step initial
        (attached ++ [.send 0 [1] (.moved 1), .send 0 [2] (.moved 1), reading 9]) = some s
      ∧ (s.wires 0).sent = [[1], [2]] ∧ (s.wires 0).received = [[1, 2]]
      ∧ ¬ s.KeepsBoundaries 0 := by
  refine ⟨_, rfl, by decide, by decide, fun h => absurd h.inOrder ?_⟩
  decide

end LibE3.Posix.Inbound
