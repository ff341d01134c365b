import LibE3.PosixConnector
import LibE3.Lib.Runs

/-!
# Every peer gets its turn

A call of `receive()` looks at the peers in cyclic order from the cursor, and leaves the cursor one
behind the peer that it serves. So a peer that waits comes nearer with each call that serves another
one, and with `n` peers it is served by the `n`th call at the latest. The cursor is a natural
number, since it stays at most at the number of the peers.
-/

namespace LibE3.Posix.Inbound

/-- At the call the poll reports the peer as readable, and a read of it hands out `bs`. -/
def Offers (s : Inbound) (answers : Answers) (c : ℕ) (bs : Bytes) : Prop :=
  match answers with
  | .ready _ _ revents reads =>
    (revents c).pollin = true
      ∧ (reads c).answer defaultBufferSize (s.wires c).unread = some (.bytes bs)
  | _ => False

def IsReady (s : Inbound) (answers : Answers) (c : ℕ) : Prop := ∃ bs, s.Offers answers c bs

def Serves (s : Inbound) (answers : Answers) (c : ℕ) : Prop :=
  ∃ bs, bs ≠ [] ∧ s.Offers answers c bs ∧ (s.receive answers).1 = .ok bs
    ∧ (s.receive answers).2.wires = Function.update s.wires c ((s.wires c).take bs)

/-- The peer that is the `k`th one from the cursor on. -/
def turn (s : Inbound) (k : ℕ) : Option ℕ := s.peers[(s.inboundRr + k) % s.peers.length]?

/-- The call changes nothing about who is attached. -/
def KeepsPeers (s : Inbound) (answers : Answers) : Prop := (s.receive answers).2.peers = s.peers

variable {pfds : List ℕ} {revents : ℕ → Revents} {reads : ℕ → Arrival} {s : Inbound}

theorem serve_eq_some {w : Wire} {re : Revents} {read : Arrival} {bs : Bytes} :
    (serve w re read).1 = some bs
      ↔ re.pollin = true ∧ read.answer defaultBufferSize w.unread = some (.bytes bs) := by
  unfold serve
  rcases hp : re.pollin
  · simp
  · rcases ha : read.answer defaultBufferSize w.unread with _ | (bs' | _ | _ | _) <;> simp

theorem ne_nil_of_answer {a : Arrival} {size : ℕ} {unread bs : Bytes}
    (h : a.answer size unread = some (.bytes bs)) : bs ≠ [] := by
  unfold Arrival.answer at h
  rcases a with n | _ | _ | _
  · simp only [] at h
    split at h
    · simp at h
    · simp only [Option.some.injEq, ReadResult.bytes.injEq] at h
      simp [← h]
  all_goals simp at h

/-- One peer of the scan. One without an event is passed over like one that is read in vain. -/
theorem scan_cons (idx : ℕ) (rest : List ℕ) (s : Inbound) :
    scan pfds revents reads (idx :: rest) s =
      match pfds[idx]? with
      | none => scan pfds revents reads rest s
      | some fd =>
        match serve (s.wires fd) (revents fd) (reads fd) with
        | (some bs, _) =>
          (bs, { s.setWire fd ((s.wires fd).take bs) with inboundRr := idx + 1 })
        | (none, true) => scan pfds revents reads rest { s with peers := s.peers.filter (· ≠ fd) }
        | (none, false) => scan pfds revents reads rest s := by
  conv_lhs => unfold scan
  rcases pfds[idx]? with _ | fd
  · rfl
  · simp only []
    split_ifs with hre
    · simp only [Bool.not_eq_true', Bool.or_eq_false_iff] at hre
      simp [serve, hre]
    · rfl

theorem scan_cons_none {idx : ℕ} (rest : List ℕ)
    (h : ∀ fd, pfds[idx]? = some fd →
      (serve (s.wires fd) (revents fd) (reads fd)).1 = none) :
    ∃ peers, scan pfds revents reads (idx :: rest) s
      = scan pfds revents reads rest { s with peers := peers } := by
  rw [scan_cons]
  rcases hfd : pfds[idx]? with _ | fd
  · exact ⟨s.peers, rfl⟩
  · have hnone := h fd hfd
    dsimp only
    rcases hserve : serve (s.wires fd) (revents fd) (reads fd) with ⟨_ | bs, _ | _⟩
    · exact ⟨s.peers, rfl⟩
    · exact ⟨s.peers.filter (· ≠ fd), rfl⟩
    all_goals simp [hserve] at hnone

theorem scan_cons_some {idx fd : ℕ} {bs : Bytes} (rest : List ℕ) (hfd : pfds[idx]? = some fd)
    (hserve : (serve (s.wires fd) (revents fd) (reads fd)).1 = some bs) :
    scan pfds revents reads (idx :: rest) s
      = (bs, { s.setWire fd ((s.wires fd).take bs) with inboundRr := idx + 1 }) := by
  rw [scan_cons, hfd]
  dsimp only
  rcases hs : serve (s.wires fd) (revents fd) (reads fd) with ⟨_ | bs', broken⟩
  · simp [hs] at hserve
  · rw [hs] at hserve
    simp [Option.some.inj hserve]

theorem scan_first {idx fd : ℕ} {bs : Bytes} (rest : List ℕ) (hfd : pfds[idx]? = some fd) :
    ∀ {before : List ℕ} {s : Inbound},
      (∀ i ∈ before, ∀ fd', pfds[i]? = some fd' →
        (serve (s.wires fd') (revents fd') (reads fd')).1 = none) →
      (serve (s.wires fd) (revents fd) (reads fd)).1 = some bs →
      ∃ peers, scan pfds revents reads (before ++ idx :: rest) s
        = (bs, { s with
            peers := peers
            wires := Function.update s.wires fd ((s.wires fd).take bs)
            inboundRr := idx + 1 })
  | [], s, _, hserve => ⟨s.peers, scan_cons_some rest hfd hserve⟩
  | i :: before, s, hbefore, hserve => by
    obtain ⟨peers, hskip⟩ := scan_cons_none (before ++ idx :: rest)
      (hbefore i List.mem_cons_self)
    obtain ⟨peers', hrest⟩ := scan_first rest hfd (s := { s with peers := peers })
      (fun j hj => hbefore j (List.mem_cons_of_mem i hj)) hserve
    exact ⟨peers', by rw [List.cons_append, hskip, hrest]⟩

theorem order_split (f : ℕ → ℕ) {k n : ℕ} (hk : k < n) :
    (List.range n).map f
      = (List.range k).map f ++ f k :: (List.range' (k + 1) (n - k - 1)).map f := by
  obtain ⟨m, rfl⟩ := Nat.exists_eq_add_of_lt hk
  have hsplit : List.range (k + m + 1) = List.range k ++ List.range' k (m + 1) := by
    rw [Nat.add_assoc, List.range_eq_range', List.range_eq_range', ← List.range'_append_1]
    simp
  rw [hsplit, List.range'_succ, List.map_append, List.map_cons]
  congr 4
  omega

/-- A call that finds a peer ready serves the first one from the cursor on, and leaves the cursor
behind it. -/
theorem receive_first {answers : Answers} {k c : ℕ} (hl : s.listening = true)
    (hk : k < s.peers.length) (hc : s.turn k = some c) (hready : s.IsReady answers c)
    (hfirst : ∀ j < k, ∀ d, s.turn j = some d → ¬ s.IsReady answers d) :
    s.Serves answers c
      ∧ (s.receive answers).2.inboundRr = (s.inboundRr + k) % s.peers.length + 1 := by
  obtain ⟨bs, hbs⟩ := hready
  rcases answers with _ | _ | _ | ⟨listener, accepted, revents, reads⟩
  · exact hbs.elim
  · exact hbs.elim
  · exact hbs.elim
  · -- accepting peers leaves the cursor and the streams as they are
    obtain ⟨s', hs', hrr, hwires⟩ : ∃ s', (if listener then s.drainAccept accepted else s) = s'
        ∧ s'.inboundRr = s.inboundRr ∧ s'.wires = s.wires := by
      rcases listener
      · exact ⟨s, rfl, rfl, rfl⟩
      · exact ⟨s.drainAccept accepted, rfl, rfl, rfl⟩
    have hserve : (serve (s'.wires c) (revents c) (reads c)).1 = some bs := by
      rw [hwires]
      exact serve_eq_some.mpr hbs
    have hnone : ∀ i ∈ (List.range k).map fun j => (s'.inboundRr + j) % s.peers.length,
        ∀ fd, s.peers[i]? = some fd →
          (serve (s'.wires fd) (revents fd) (reads fd)).1 = none := by
      simp only [List.mem_map, List.mem_range]
      rintro i ⟨j, hj, rfl⟩ fd hfd
      rcases hfd' : (serve (s'.wires fd) (revents fd) (reads fd)).1 with _ | bs'
      · rfl
      · rw [hrr] at hfd
        rw [hwires] at hfd'
        exact absurd ⟨bs', serve_eq_some.mp hfd'⟩ (hfirst j hj fd hfd)
    have hturn : s.peers[(s'.inboundRr + k) % s.peers.length]? = some c := by
      rw [hrr]
      exact hc
    obtain ⟨peers, hscan⟩ := scan_first ((List.range' (k + 1) (s.peers.length - k - 1)).map
      fun j => (s'.inboundRr + j) % s.peers.length) hturn hnone hserve
    have hreceive : s.receive (.ready listener accepted revents reads) = (.ok bs, { s' with
        peers := peers
        wires := Function.update s'.wires c ((s'.wires c).take bs)
        inboundRr := (s'.inboundRr + k) % s.peers.length + 1 }) := by
      unfold receive
      simp only [hl, hs', Bool.not_true, Bool.false_eq_true, if_false]
      rw [order_split (fun j => (s'.inboundRr + j) % s.peers.length) hk, hscan]
    refine ⟨⟨bs, ne_nil_of_answer hbs.2, hbs, ?_, ?_⟩, ?_⟩
    · rw [hreceive]
    · rw [hreceive]
      simp [hwires]
    · rw [hreceive]
      simp [hrr]

/-- A call that finds some peer ready serves the first one in cyclic order from the cursor. -/
theorem receive_serves {answers : Answers} {d c : ℕ} (hl : s.listening = true)
    (hd : d < s.peers.length) (hc : s.turn d = some c) (hready : s.IsReady answers c) :
    ∃ k ≤ d, ∃ c', s.turn k = some c' ∧ s.Serves answers c'
      ∧ (∀ j < k, ∀ e, s.turn j = some e → ¬ s.IsReady answers e)
      ∧ (s.receive answers).2.inboundRr = (s.inboundRr + k) % s.peers.length + 1 := by
  classical
  have hex : ∃ k, ∃ c', s.turn k = some c' ∧ s.IsReady answers c' := ⟨d, c, hc, hready⟩
  obtain ⟨c', hturn, hready'⟩ := Nat.find_spec hex
  have hle : Nat.find hex ≤ d := Nat.find_min' hex ⟨c, hc, hready⟩
  have hfirst : ∀ j < Nat.find hex, ∀ e, s.turn j = some e → ¬ s.IsReady answers e :=
    fun j hj e he hr => Nat.find_min hex hj ⟨e, he, hr⟩
  obtain ⟨hserves, hcursor⟩ := receive_first hl (by omega) hturn hready' hfirst
  exact ⟨_, hle, c', hturn, hserves, hfirst, hcursor⟩

theorem exists_turn {c : ℕ} (h : c ∈ s.peers) : ∃ d < s.peers.length, s.turn d = some c := by
  obtain ⟨i, hi, hget⟩ := List.mem_iff_getElem.mp h
  set n := s.peers.length with hn
  have hr : s.inboundRr % n < n := Nat.mod_lt _ (by omega)
  refine ⟨(i + (n - s.inboundRr % n)) % n, Nat.mod_lt _ (by omega), ?_⟩
  have hplace : (s.inboundRr + (i + (n - s.inboundRr % n)) % n) % n = i := by
    calc (s.inboundRr + (i + (n - s.inboundRr % n)) % n) % n
        = (s.inboundRr % n + (i + (n - s.inboundRr % n))) % n := by
          rw [Nat.add_mod_mod, Nat.mod_add_mod]
      _ = (i + n) % n := by
          congr 1
          omega
      _ = i := by rw [Nat.add_mod_right, Nat.mod_eq_of_lt hi]
  unfold turn
  rw [← hn, hplace, List.getElem?_eq_getElem hi, hget]

/-- The calls of `receive()` in a run, each with the state it is made in. -/
def calls (s : Inbound) : List Event → List (Inbound × Answers)
  | [] => []
  | e :: es =>
    let rest := match s.step e with
      | some t => calls t es
      | none => []
    match e with
    | .receive answers => (s, answers) :: rest
    | _ => rest

/-- What `receive()` goes by is the same in both states. -/
structure SameTurns (s t : Inbound) : Prop where
  listening : s.listening = true → t.listening = true
  peers : t.peers = s.peers
  inboundRr : t.inboundRr = s.inboundRr

theorem SameTurns.trans {s t u : Inbound} (h : SameTurns s t) (h' : SameTurns t u) :
    SameTurns s u :=
  ⟨fun hl => h'.listening (h.listening hl), h'.peers.trans h.peers,
    h'.inboundRr.trans h.inboundRr⟩

theorem sameTurns_step {e : Event} {t : Inbound} (he : ∀ answers, e ≠ .receive answers)
    (h : s.step e = some t) : SameTurns s t := by
  unfold step at h
  rcases e with _ | c | c | ⟨c, data, sent⟩ | answers
  · simp only [Option.some.injEq] at h
    exact h ▸ ⟨fun _ => rfl, rfl, rfl⟩
  · simp only [] at h
    split_ifs at h
    simp only [Option.some.injEq] at h
    exact h ▸ ⟨id, rfl, rfl⟩
  · simp only [Option.some.injEq] at h
    exact h ▸ ⟨id, rfl, rfl⟩
  · simp only [Option.some.injEq] at h
    exact h ▸ ⟨id, rfl, rfl⟩
  · exact absurd rfl (he answers)

/-- The next call finds the turns as this one leaves them. -/
def Follows (x y : Inbound × Answers) : Prop := SameTurns (x.1.receive x.2).2 y.1

theorem calls_cons {e : Event} {es : List Event} {t : Inbound}
    (he : ∀ answers, e ≠ .receive answers) (h : s.step e = some t) :
    calls s (e :: es) = calls t es := by
  rcases e with _ | c | c | ⟨c, data, sent⟩ | answers
  · simp [calls, h]
  · simp [calls, h]
  · simp [calls, h]
  · simp [calls, h]
  · exact absurd rfl (he answers)

theorem calls_isChain : ∀ (es : List Event) (s : Inbound),
    (∀ y ∈ (calls s es).head?, SameTurns s y.1) ∧ (calls s es).IsChain Follows
  | [], s => by simp [calls]
  | e :: es, s => by
    by_cases he : ∃ answers, e = .receive answers
    · obtain ⟨answers, rfl⟩ := he
      obtain ⟨hhead, hchain⟩ := calls_isChain es (s.receive answers).2
      have hcalls : calls s (.receive answers :: es)
          = (s, answers) :: calls (s.receive answers).2 es := rfl
      rw [hcalls]
      refine ⟨?_, List.isChain_cons.mpr ⟨hhead, hchain⟩⟩
      rintro y hy
      simp only [List.head?_cons, Option.mem_some_iff] at hy
      exact hy ▸ ⟨id, rfl, rfl⟩
    · have he' : ∀ answers, e ≠ .receive answers := fun answers h => he ⟨answers, h⟩
      rcases hstep : s.step e with _ | t
      · rcases e with _ | c | c | ⟨c, data, sent⟩ | answers
        all_goals simp_all [calls]
      · obtain ⟨hhead, hchain⟩ := calls_isChain es t
        rw [calls_cons he' hstep]
        exact ⟨fun y hy => (sameTurns_step he' hstep).trans (hhead y hy), hchain⟩

theorem scan_listening (order : List ℕ) (s : Inbound) :
    (scan pfds revents reads order s).2.listening = s.listening := by
  induction order generalizing s with
  | nil =>
    simp only [scan]
    split_ifs <;> rfl
  | cons idx rest ih =>
    rw [scan_cons]
    split
    · exact ih s
    · split
      · rfl
      · exact ih _
      · exact ih s

theorem receive_listening (s : Inbound) (answers : Answers) :
    (s.receive answers).2.listening = s.listening := by
  unfold receive
  split_ifs with hl
  · rfl
  · rcases answers with _ | _ | _ | ⟨listener, accepted, revents, reads⟩
    · rfl
    · rfl
    · rfl
    · simp only [scan_listening]
      split_ifs <;> rfl

theorem scan_inboundRr_le (order : List ℕ) (s : Inbound) :
    (scan pfds revents reads order s).2.inboundRr ≤ max s.inboundRr pfds.length := by
  induction order generalizing s with
  | nil =>
    simp only [scan]
    split_ifs with hpos
    · exact (Nat.mod_lt _ hpos).le.trans (Nat.le_max_right _ _)
    · exact Nat.le_max_left _ _
  | cons idx rest ih =>
    rw [scan_cons]
    split
    · exact ih s
    · rename_i fd hfd
      have hidx : idx < pfds.length := (List.getElem?_eq_some_iff.mp hfd).1
      split
      · exact (Nat.succ_le_of_lt hidx).trans (Nat.le_max_right _ _)
      · exact ih _
      · exact ih s

/-- The cursor does not run away: a call leaves it where it was, or at most at the number of the
peers. -/
theorem receive_inboundRr_le (s : Inbound) (answers : Answers) :
    (s.receive answers).2.inboundRr ≤ max s.inboundRr s.peers.length := by
  unfold receive
  split_ifs
  · exact Nat.le_max_left _ _
  · rcases answers with _ | _ | _ | ⟨listener, accepted, revents, reads⟩
    · exact Nat.le_max_left _ _
    · exact Nat.le_max_left _ _
    · exact Nat.le_max_left _ _
    · refine (scan_inboundRr_le _ _).trans ?_
      rcases listener <;> rfl

/-- A peer that is `d` places from the cursor at the first call, and ready at every call, is served
by one of the first `d + 1` calls. -/
theorem served_within {c : ℕ} : ∀ {w : List (Inbound × Answers)} {x : Inbound × Answers} {d : ℕ},
    (x :: w).IsChain Follows → x.1.listening = true →
    (∀ y ∈ x :: w, KeepsPeers y.1 y.2 ∧ y.1.IsReady y.2 c) → d < x.1.peers.length →
    x.1.turn d = some c → d ≤ w.length → ∃ y ∈ x :: w, y.1.Serves y.2 c
  | w, x, d, hchain, hl, hall, hd, hturn, hlen => by
    obtain ⟨hkeep, hready⟩ := hall x List.mem_cons_self
    obtain ⟨k, hk, c', hturn', hserves, -, hcursor⟩ := receive_serves hl hd hturn hready
    rcases Nat.lt_or_ge k d with hlt | hge
    · -- another peer was served, and `c` is `d - k - 1` places from the new cursor
      rcases w with _ | ⟨y, w⟩
      · simp only [List.length_nil] at hlen
        omega
      · obtain ⟨hfollows, hrest⟩ := List.isChain_cons_cons.mp hchain
        have hpeers : y.1.peers = x.1.peers := hfollows.peers.trans hkeep
        have hturn'' : y.1.turn (d - k - 1) = some c := by
          unfold turn
          rw [hpeers, hfollows.inboundRr, hcursor, ← hturn]
          unfold turn
          congr 1
          rw [Nat.add_assoc, Nat.mod_add_mod]
          congr 1
          omega
        obtain ⟨z, hz, hserved⟩ := served_within hrest
          (hfollows.listening ((receive_listening _ _).trans hl))
          (fun z hz => hall z (List.mem_cons_of_mem x hz)) (by rw [hpeers]; omega) hturn''
          (by simp only [List.length_cons] at hlen; omega)
        exact ⟨z, List.mem_cons_of_mem x hz, hserved⟩
    · obtain rfl : k = d := by omega
      obtain rfl : c' = c := by
        rw [hturn] at hturn'
        exact (Option.some.inj hturn').symm
      exact ⟨x, List.mem_cons_self, hserves⟩

/-- As long as nobody joins or leaves, every call is made with the peers of the start. -/
theorem mem_calls : ∀ (es : List Event) {s : Inbound}, s.listening = true →
    (∀ x ∈ calls s es, KeepsPeers x.1 x.2) →
      ∀ x ∈ calls s es, x.1.listening = true ∧ x.1.peers = s.peers
  | [], s, _, _ => by simp [calls]
  | e :: es, s, hl, hkeep => by
    by_cases he : ∃ answers, e = .receive answers
    · obtain ⟨answers, rfl⟩ := he
      have hcalls : calls s (.receive answers :: es)
          = (s, answers) :: calls (s.receive answers).2 es := rfl
      rw [hcalls] at hkeep ⊢
      have hpeers : (s.receive answers).2.peers = s.peers := hkeep (s, answers) List.mem_cons_self
      intro x hx
      rcases List.mem_cons.mp hx with rfl | hx
      · exact ⟨hl, rfl⟩
      · rw [← hpeers]
        exact mem_calls es ((receive_listening s answers).trans hl)
          (fun y hy => hkeep y (List.mem_cons_of_mem _ hy)) x hx
    · have he' : ∀ answers, e ≠ .receive answers := fun answers h => he ⟨answers, h⟩
      rcases hstep : s.step e with _ | t
      · rcases e with _ | c | c | ⟨c, data, sent⟩ | answers
        all_goals simp_all [calls]
      · have hsame := sameTurns_step he' hstep
        rw [calls_cons he' hstep] at hkeep ⊢
        rw [← hsame.peers]
        exact mem_calls es (hsame.listening hl) hkeep

/-- Over every sequence of calls of `receive()` during which no peer joins or leaves, from every
cursor: a call at which some peer is ready returns the data of the first ready peer in cyclic order
from the cursor, of as many consecutive calls as there are peers, one returns the data of a peer
that is ready at each of them, and no call moves the cursor beyond the number of the peers. -/
theorem every_peer_served {s : Inbound} {es : List Event} (hl : s.listening = true)
    (hkeep : ∀ x ∈ calls s es, KeepsPeers x.1 x.2) :
    (∀ x ∈ calls s es, (∃ c ∈ s.peers, x.1.IsReady x.2 c) →
      ∃ k < s.peers.length, ∃ c ∈ x.1.turn k, x.1.Serves x.2 c
        ∧ ∀ j < k, ∀ d ∈ x.1.turn j, ¬ x.1.IsReady x.2 d)
    ∧ (∀ window, window <:+: calls s es → window.length = s.peers.length →
      ∀ c ∈ s.peers, (∀ x ∈ window, x.1.IsReady x.2 c) → ∃ x ∈ window, x.1.Serves x.2 c)
    ∧ ∀ x ∈ calls s es,
      (x.1.receive x.2).2.inboundRr ≤ max x.1.inboundRr s.peers.length := by
  have hcalls := mem_calls es hl hkeep
  refine ⟨fun x hx hready => ?_, fun window hwindow hlen c hc hready => ?_, fun x hx => ?_⟩
  · obtain ⟨c, hc, hready⟩ := hready
    obtain ⟨hl', hpeers⟩ := hcalls x hx
    obtain ⟨d, hd, hturn⟩ := exists_turn (hpeers ▸ hc)
    obtain ⟨k, hk, c', hturn', hserves, hfirst, -⟩ := receive_serves hl' hd hturn hready
    exact ⟨k, by rw [← hpeers]; omega, c', hturn', hserves, hfirst⟩
  · rcases window with _ | ⟨x, window⟩
    · have hpos := List.length_pos_of_mem hc
      simp only [List.length_nil] at hlen
      omega
    · have hmem : ∀ y ∈ x :: window, y ∈ calls s es := fun y hy => hwindow.subset hy
      obtain ⟨hl', hpeers⟩ := hcalls x (hmem x List.mem_cons_self)
      obtain ⟨d, hd, hturn⟩ := exists_turn (hpeers ▸ hc)
      refine served_within ( List.IsChain.infix (calls_isChain es s).2 hwindow) hl'
        (fun y hy => ⟨hkeep y (hmem y hy), hready y hy⟩) hd hturn ?_
      simp only [List.length_cons] at hlen
      rw [hpeers] at hd
      omega
  · rw [← (hcalls x hx).2]
    exact receive_inboundRr_le x.1 x.2

/-- Two peers that both have a lot to say, and a cursor far behind them. -/
def talkative : Inbound where
  listening := true
  peers := [4, 9]
  inboundRr := 12
  wires _ := { connected := true, unread := [1, 2, 3] }

def bothReady : Answers := .ready false 0 (fun _ => ⟨true, false⟩) fun _ => .moved 1

/-- The second peer is served although the first one never falls silent. -/
theorem every_peer_served_talkative :
    ∃ x ∈ calls talkative [.receive bothReady, .receive bothReady], x.1.Serves x.2 9 := by
  refine (every_peer_served rfl ?_).2.1 _ List.infix_rfl rfl 9 (by decide) ?_
  · rintro x hx
    simp only [calls, step, List.mem_cons, List.not_mem_nil, or_false] at hx
    rcases hx with rfl | rfl <;> rfl
  · rintro x hx
    simp only [calls, step, List.mem_cons, List.not_mem_nil, or_false] at hx
    rcases hx with rfl | rfl <;> exact ⟨[1], rfl, rfl⟩

end LibE3.Posix.Inbound
