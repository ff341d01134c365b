import LibE3.Latrec
import Mathlib.Data.Nat.Bitwise
import Mathlib.Tactic.SplitIfs

/-!
# Rings are read as they were written

What the reader makes of the records that the stamps left is what was stamped. The records of a ring
that has wrapped stand in the file with the oldest one somewhere in the middle, and the reader finds
it by the only place where the times descend. That place is missing if the last stamp filled the
last cell: then the reader does not see that the ring has wrapped.
-/

namespace LibE3.Latrec

open LittleEndian RingLog

/-! ## Records -/

theorem packed_eq (seq cpu stage : ℕ) (h : stage < 256) :
    (seq &&& 0x0000FFFFFFFFFFFF) ||| ((cpu &&& 0xFF) <<< 48 % 2 ^ 64) ||| (stage <<< 56 % 2 ^ 64)
      = seq % 2 ^ 48 + 2 ^ 48 * (cpu % 256) + 2 ^ 56 * stage := by
  have hseq : seq &&& 0x0000FFFFFFFFFFFF = seq % 2 ^ 48 := Nat.and_two_pow_sub_one_eq_mod seq 48
  have hcpu : (cpu &&& 0xFF) <<< 48 % 2 ^ 64 = 2 ^ 48 * (cpu % 256) := by
    rw [Nat.and_two_pow_sub_one_eq_mod cpu 8, Nat.shiftLeft_eq, Nat.mul_comm]
    omega
  have hstage : stage <<< 56 % 2 ^ 64 = 2 ^ 56 * stage := by
    rw [Nat.shiftLeft_eq, Nat.mul_comm]
    omega
  have hlow : seq % 2 ^ 48 ||| 2 ^ 48 * (cpu % 256) = 2 ^ 48 * (cpu % 256) + seq % 2 ^ 48 := by
    rw [Nat.or_comm, Nat.two_pow_add_eq_or_of_lt (Nat.mod_lt seq (by decide))]
  rw [hseq, hcpu, hstage, hlow, Nat.or_comm, ← Nat.two_pow_add_eq_or_of_lt (by omega)]
  omega

theorem Stamp.toNat_sc (s : Stamp) : s.toRec.sc.toNat
    = s.seq.toNat % 2 ^ 48 + 2 ^ 48 * (s.cpu.toNat % 256) + 2 ^ 56 * s.stage.toNat := by
  rw [← packed_eq _ _ _ s.stage.toNat_lt]
  simp [Stamp.toRec, UInt64.toNat_shiftLeft]

/-- What is read for a stamp: its values, the sequence number modulo 2^48 and the cpu modulo 256. -/
def Stamp.record (s : Stamp) : Record where
  seq := s.seq.toNat % 2 ^ 48
  cpu := s.cpu.toNat % 256
  stage := s.stage.toNat
  tNs := s.tNs.toNat
  aux := s.aux.toNat
  aux2 := s.aux2.toNat

theorem length_recBytes (r : Rec) : r.bytes.length = recSize := by
  simp [Rec.bytes, recSize]

theorem unpackRecord_bytes (r : Rec) : unpackRecord r.bytes =
    { seq := r.sc.toNat &&& 0x0000FFFFFFFFFFFF
      cpu := (r.sc.toNat >>> 48) &&& 0xFF
      stage := r.sc.toNat >>> 56
      tNs := r.tNs.toNat
      aux := r.aux.toNat
      aux2 := r.aux2.toNat } := by
  simp [unpackRecord, word, Rec.bytes, field_append_right, field_append_left, field_all]

theorem unpackRecord_toRec {s : Stamp} (h : 0 < s.tNs) : unpackRecord s.toRec.bytes = s.record := by
  have hstage := s.stage.toNat_lt
  have hpos : s.tNs ≠ 0 := fun h0 => by simp [h0] at h
  rw [unpackRecord_bytes, s.toNat_sc, Nat.and_two_pow_sub_one_eq_mod _ 48,
    Nat.and_two_pow_sub_one_eq_mod _ 8, Nat.shiftRight_eq_div_pow, Nat.shiftRight_eq_div_pow]
  simp only [Stamp.toRec, Stamp.record, Record.mk.injEq, hpos, if_false, and_true]
  omega

theorem validRecords_flatMap (recs : List Rec) :
    validRecords (recs.flatMap Rec.bytes)
      = (recs.map fun r => unpackRecord r.bytes).filter (·.tNs ≠ 0) := by
  have hlen : ∀ bs ∈ recs.map Rec.bytes, bs.length = recSize := by
    intro bs hbs
    obtain ⟨r, -, rfl⟩ := List.mem_map.mp hbs
    exact length_recBytes r
  have hcount : (recs.map Rec.bytes).flatten.length / recSize = (recs.map Rec.bytes).length := by
    rw [length_flatten hlen]
    exact Nat.mul_div_cancel _ (by decide)
  rw [validRecords, List.flatMap_def, hcount, blocks_flatten hlen, List.map_map]
  rfl

theorem length_records (recs : List Rec) :
    (recs.flatMap Rec.bytes).length = recs.length * recSize := by
  rw [List.flatMap_def, length_flatten (w := recSize), List.length_map]
  intro bs hbs
  obtain ⟨r, -, rfl⟩ := List.mem_map.mp hbs
  exact length_recBytes r

/-! ## The header -/

/-- The mapping holds a ring of the present version. -/
structure Writer.IsRing (w : Writer) : Prop where
  magic : w.hdr.magic = magicNumber
  version : w.hdr.version = layoutVersion
  size : w.hdr.recSize = 32
  entries : w.hdr.entries.toNat = w.recs.length
  name_le : w.hdr.name.length ≤ 63
  name_ne : ∀ b ∈ w.hdr.name, b ≠ 0

theorem length_nameField {name : Bytes} (h : name.length ≤ 64) : (nameField name).length = 64 := by
  simp [nameField]
  omega

theorem length_pad : pad.length = 3968 := List.length_replicate

theorem length_hdrBytes {h : Hdr} (hname : h.name.length ≤ 64) : h.bytes.length = hdrLen := by
  simp [Hdr.bytes, hdrLen, length_nameField hname, length_pad]

theorem words_bytes {h : Hdr} (hname : h.name.length ≤ 64) :
    word 0 4 h.bytes = h.magic.toNat ∧ word 4 4 h.bytes = h.version.toNat
      ∧ word 8 8 h.bytes = h.entries.toNat ∧ word 16 8 h.bytes = h.recCount.toNat
      ∧ word 24 8 h.bytes = h.t0MonoNs.toNat ∧ word 32 8 h.bytes = h.t0RealNs.toNat
      ∧ field 40 64 h.bytes = nameField h.name
      ∧ word 104 4 h.bytes = h.recSize.toNat ∧ word 108 4 h.bytes = h.clockNsPerCall.toNat
      ∧ word 112 8 h.bytes = h.t1MonoNs.toNat ∧ word 120 8 h.bytes = h.t1RealNs.toNat := by
  have hlen := length_nameField hname
  unfold word Hdr.bytes
  simp [field_append_right, field_append_left, hlen]

theorem rdropWhile_nameField {name : Bytes} (h : ∀ b ∈ name, b ≠ 0) :
    (nameField name).rdropWhile (· = 0) = name := by
  have hzeros : ∀ n, (name ++ List.replicate n 0).rdropWhile (· = 0) = name := by
    intro n
    induction n with
    | zero =>
      rw [List.replicate_zero, List.append_nil, List.rdropWhile_eq_self_iff]
      intro hne
      simpa using h _ (List.getLast_mem hne)
    | succ n ih =>
      rw [List.replicate_succ', ← List.append_assoc, List.rdropWhile_concat_pos _ _ _ (by simp)]
      exact ih
  exact hzeros _

/-- The ring that a file is read as. -/
def Writer.ring (path : String) (w : Writer) : Ring :=
  let recs := (w.recs.map fun r => unpackRecord r.bytes).filter (·.tNs ≠ 0)
  let descents := descents (recs.map Record.tNs)
  { file := basename path
    name := w.hdr.name
    version := 2
    entries := w.hdr.entries.toNat
    recCount := w.hdr.recCount.toNat
    recSize := recSize
    clockNsPerCall := w.hdr.clockNsPerCall.toNat
    t0MonoNs := w.hdr.t0MonoNs.toNat
    t0RealNs := w.hdr.t0RealNs.toNat
    t1MonoNs := w.hdr.t1MonoNs.toNat
    t1RealNs := w.hdr.t1RealNs.toNat
    records := (writeOrder recs descents).1
    wrapped := (writeOrder recs descents).2
    descents := descents.length }

variable {w : Writer}

theorem readRing_file (h : w.IsRing) (path : String) :
    readRing path w.file
      = if Json.validUtf8 w.hdr.name then .ok (w.ring path) else .error .unicodeDecodeError := by
  have hname : w.hdr.name.length ≤ 64 := h.name_le.trans (by decide)
  have hlen := length_hdrBytes hname
  have hhdr : w.file.take hdrLen = w.hdr.bytes := List.take_left' hlen
  have hblob : (w.file.drop hdrLen).take (w.recs.length * recSize) = w.recs.flatMap Rec.bytes := by
    rw [Writer.file, List.drop_left' hlen, List.take_of_length_le (Nat.le_of_eq (length_records _))]
  obtain ⟨hmagic, hver, hentries, hcount, ht0m, ht0r, hnameField, hsize, hclock, ht1m, ht1r⟩ :=
    words_bytes hname
  unfold readRing
  simp only [hhdr, hlen, lt_irrefl, if_false, hmagic, h.magic, hver, h.version, unpackV2, hsize,
    h.size, hentries, h.entries, hblob, hnameField, rdropWhile_nameField h.name_ne,
    validRecords_flatMap, hcount, ht0m, ht0r, hclock, ht1m, ht1r]
  rcases hutf : Json.validUtf8 w.hdr.name with _ | _
  · simp [recSize, layoutVersion]
    rfl
  · simp [recSize, layoutVersion, Writer.ring, h.entries]
    rfl

/-! ## Runs of the writer -/

def Writer.stampAll (w : Writer) (stamps : List Stamp) : Writer := stamps.foldl Writer.stampAt w

/-- An open ring of `2 ^ k` cells that `i` stamps were made into. -/
structure Writer.IsOpen (w : Writer) (k i : ℕ) : Prop where
  log2_lt : k < 64
  enabled : w.enabled = true
  idx : w.idx = UInt64.ofNat i
  mask : w.mask.toNat = 2 ^ k - 1
  length : w.recs.length = 2 ^ k

theorem Writer.IsOpen.slot {k i : ℕ} (h : w.IsOpen k i) :
    (w.idx &&& w.mask).toNat = i % w.recs.length := by
  rw [UInt64.toNat_and, h.mask, Nat.and_two_pow_sub_one_eq_mod, h.idx, UInt64.toNat_ofNat',
    Nat.mod_mod_of_dvd i (pow_dvd_pow 2 h.log2_lt.le), h.length]

theorem Writer.IsOpen.stampAt {k i : ℕ} (h : w.IsOpen k i) (s : Stamp) :
    (w.stampAt s).IsOpen k (i + 1) ∧ (w.stampAt s).recs = write w.recs i s.toRec
      ∧ (w.stampAt s).hdr = w.hdr := by
  have hstamp : w.stampAt s = { w with idx := w.idx + 1, recs := write w.recs i s.toRec } := by
    rw [Writer.stampAt, if_pos h.enabled, h.slot, write]
  rw [hstamp]
  refine ⟨⟨h.log2_lt, h.enabled, ?_, h.mask, ?_⟩, rfl, rfl⟩
  · rw [h.idx, UInt64.ofNat_add]
    rfl
  · rw [length_write, h.length]

variable {k : ℕ}

theorem Writer.IsOpen.stampAll : ∀ (stamps : List Stamp) {w : Writer} {i : ℕ},
    w.IsOpen k i → (w.stampAll stamps).IsOpen k (i + stamps.length)
      ∧ (w.stampAll stamps).recs = writeAll w.recs i (stamps.map Stamp.toRec)
      ∧ (w.stampAll stamps).hdr = w.hdr
  | [], w, i, h => ⟨h, rfl, rfl⟩
  | s :: stamps, w, i, h => by
    obtain ⟨hopen, hrecs, hhdr⟩ := h.stampAt s
    obtain ⟨hopen', hrecs', hhdr'⟩ := hopen.stampAll stamps
    refine ⟨?_, ?_, hhdr'.trans hhdr⟩
    · rw [List.length_cons, show i + (stamps.length + 1) = i + 1 + stamps.length by omega]
      exact hopen'
    · rw [List.map_cons, writeAll, ← hrecs]
      exact hrecs'

theorem log2_lt_of_fileLen (h : fileLen k < 2 ^ 63) : k < 58 := by
  by_contra hk
  have hpow : 2 ^ 58 ≤ 2 ^ k := Nat.pow_le_pow_right (by decide) (by omega)
  unfold fileLen hdrLen recSize at h
  omega

theorem exists_openIn (name : Bytes) (hk : k ≤ 57) (clockNs : UInt32) (monoNs realNs : UInt64) :
    ∃ w, openIn name k clockNs monoNs realNs = some w := by
  have hpow : 2 ^ k ≤ 2 ^ 57 := Nat.pow_le_pow_right (by decide) hk
  refine ⟨_, if_pos ?_⟩
  unfold fileLen hdrLen recSize
  omega

theorem keptName_le (name : Bytes) : (keptName name).length ≤ 63 := List.length_take_le _ _

theorem keptName_ne (name : Bytes) : ∀ b ∈ keptName name, b ≠ 0 := by
  intro b hb
  simpa using List.mem_takeWhile_imp (List.mem_of_mem_take hb)

theorem openIn_spec {name : Bytes} {clockNs : UInt32} {monoNs realNs : UInt64}
    (h : openIn name k clockNs monoNs realNs = some w) :
    w.IsRing ∧ w.IsOpen k 0 ∧ w.hdr.name = keptName name
      ∧ w.recs = List.replicate (2 ^ k) ⟨0, 0, 0, 0⟩ := by
  unfold openIn at h
  split_ifs at h with hlen
  have hk := log2_lt_of_fileLen hlen
  have hpow : 2 ^ k < 2 ^ 64 := Nat.pow_lt_pow_right (by decide) (by omega)
  have hshift : (UInt64.ofNat k).toNat % 64 = k := by
    rw [UInt64.toNat_ofNat']
    omega
  have hentries : ((1 : UInt64) <<< UInt64.ofNat k).toNat = 2 ^ k := by
    rw [UInt64.toNat_shiftLeft, hshift, UInt64.toNat_one, Nat.one_shiftLeft, Nat.mod_eq_of_lt hpow]
  obtain rfl := Option.some.inj h
  refine ⟨⟨rfl, rfl, rfl, by simp, keptName_le name, keptName_ne name⟩,
    ⟨by omega, rfl, rfl, ?_, by simp [hentries]⟩, rfl, by simp [hentries]⟩
  have hle : (1 : UInt64) ≤ 1 <<< UInt64.ofNat k := by
    rw [UInt64.le_iff_toNat_le, hentries]
    exact Nat.one_le_two_pow
  rw [UInt64.toNat_sub_of_le _ _ hle, hentries]
  rfl

/-! ## Reading what was stamped -/

section Stamped

variable {name : Bytes} {k : ℕ} {clockNs : UInt32} {monoNs realNs : UInt64} {w : Writer}
  (hopen : openIn name k clockNs monoNs realNs = some w) (stamps : List Stamp)
  (monoNs' realNs' : UInt64) (path : String)
include hopen

/-- The ring is read if its name is UTF-8, and it counts the stamps as far as its counter goes. -/
theorem readRing_stamped :
    readRing path ((w.stampAll stamps).heartbeat monoNs' realNs').file
        = (if Json.validUtf8 (keptName name) then
            .ok (((w.stampAll stamps).heartbeat monoNs' realNs').ring path)
          else .error .unicodeDecodeError)
      ∧ (((w.stampAll stamps).heartbeat monoNs' realNs').ring path).lostRecords
        = stamps.length % 2 ^ 64 - 2 ^ k := by
  obtain ⟨hring, hw, hname, hcells⟩ := openIn_spec hopen
  obtain ⟨hrun, hrecs, hhdr⟩ := hw.stampAll stamps
  have hbeat : (w.stampAll stamps).heartbeat monoNs' realNs' =
      { w.stampAll stamps with
        hdr := { w.hdr with
          recCount := (w.stampAll stamps).idx, t1MonoNs := monoNs', t1RealNs := realNs' } } := by
    rw [Writer.heartbeat, if_pos hrun.enabled, hhdr]
  have hlength : (w.stampAll stamps).recs.length = w.recs.length := by
    rw [hrun.length, hw.length]
  have hring' : ((w.stampAll stamps).heartbeat monoNs' realNs').IsRing := by
    rw [hbeat]
    exact ⟨hring.magic, hring.version, hring.size, hring.entries.trans hlength.symm, hring.name_le,
      hring.name_ne⟩
  rw [readRing_file hring', hbeat]
  refine ⟨by rw [← hname], ?_⟩
  show (w.stampAll stamps).idx.toNat - w.hdr.entries.toNat = _
  rw [hrun.idx, hring.entries, hw.length, UInt64.toNat_ofNat', Nat.zero_add]

omit hopen in
theorem ring_heartbeat_records (v : Writer) :
    ((v.heartbeat monoNs' realNs').ring path).records = (v.ring path).records
      ∧ ((v.heartbeat monoNs' realNs').ring path).wrapped = (v.ring path).wrapped := by
  unfold Writer.heartbeat
  split_ifs
  · exact ⟨rfl, rfl⟩
  · exact ⟨rfl, rfl⟩

variable {stamps} (hpos : ∀ s ∈ stamps, 0 < s.tNs)
include hpos

omit hopen in
theorem unpacked_eq {ss : List Stamp} (h : ∀ s ∈ ss, s ∈ stamps) :
    ((ss.map Stamp.toRec).map fun r => unpackRecord r.bytes).filter (·.tNs ≠ 0)
      = ss.map Stamp.record := by
  have hmap : (ss.map Stamp.toRec).map (fun r => unpackRecord r.bytes) = ss.map Stamp.record := by
    rw [List.map_map]
    exact List.map_congr_left fun s hs => unpackRecord_toRec (hpos s (h s hs))
  rw [hmap, List.filter_eq_self]
  intro r hr
  obtain ⟨s, hs, rfl⟩ := List.mem_map.mp hr
  have htime := hpos s (h s hs)
  rw [UInt64.lt_iff_toNat_lt] at htime
  exact decide_eq_true (show s.record.tNs ≠ 0 from Nat.ne_of_gt htime)

theorem cells_stamped :
    ((w.stampAll stamps).recs.map fun r => unpackRecord r.bytes).filter (·.tNs ≠ 0)
      = (if stamps.length ≤ 2 ^ k then stamps
          else newest (2 ^ k) stamps ++ oldest (2 ^ k) stamps).map Stamp.record := by
  obtain ⟨-, hw, -, hcells⟩ := openIn_spec hopen
  obtain ⟨-, hrecs, -⟩ := hw.stampAll stamps
  have hlen : (List.replicate (2 ^ k) (⟨0, 0, 0, 0⟩ : Rec)).length = 2 ^ k := List.length_replicate
  rw [hrecs, hcells]
  split_ifs with hle
  · -- the cells that were not written have no time
    rw [writeAll_of_le _ _ (by rw [List.length_map, hlen]; exact hle), List.map_append,
      List.filter_append, unpacked_eq hpos fun s hs => hs, List.drop_replicate, List.map_replicate,
      List.filter_replicate, if_neg, List.append_nil]
    rw [unpackRecord_bytes]
    simp
  · have hpow : 0 < 2 ^ k := Nat.two_pow_pos k
    rw [writeAll_of_ge _ (by rw [hlen]; exact hpow) _ (by rw [List.length_map, hlen]; omega), hlen,
      map_newest, map_oldest, ← List.map_append]
    refine unpacked_eq hpos fun s hs => ?_
    rcases List.mem_append.mp hs with hs | hs
    · exact List.mem_of_mem_drop hs
    · exact mem_of_mem_kept (List.mem_of_mem_take hs)

variable (hsorted : (stamps.map Stamp.tNs).Pairwise (· ≤ ·))
  (hne : 2 ^ k < stamps.length → ¬ 2 ^ k ∣ stamps.length →
    ∃ s ∈ kept (2 ^ k) stamps, ∃ t ∈ kept (2 ^ k) stamps, s.tNs ≠ t.tNs)
include hsorted hne

/-- The ring has the records of the last stamps, in their order; that it has wrapped is seen unless
the last stamp filled the last cell. -/
theorem ring_stamped :
    ((w.stampAll stamps).ring path).records = (kept (2 ^ k) stamps).map Stamp.record
      ∧ (((w.stampAll stamps).ring path).wrapped = true
        ↔ 2 ^ k < stamps.length ∧ ¬ 2 ^ k ∣ stamps.length) := by
  have hpow : 0 < 2 ^ k := Nat.two_pow_pos k
  have hkeys : (stamps.map fun s => s.tNs.toNat).Pairwise (· ≤ ·) := by
    rw [List.pairwise_map] at hsorted ⊢
    exact hsorted.imp fun h => UInt64.le_iff_toNat_le.mp h
  have htimes : ∀ ss : List Stamp,
      (ss.map Stamp.record).map Record.tNs = ss.map fun s => s.tNs.toNat := fun ss => by
    rw [List.map_map]
    rfl
  unfold Writer.ring
  simp only [cells_stamped hopen hpos, htimes]
  split_ifs with hle
  · rw [descents_of_sorted hkeys, kept, Nat.sub_eq_zero_of_le hle, List.drop_zero]
    exact ⟨rfl, by simp [writeOrder]; omega⟩
  · rcases Nat.eq_zero_or_pos (stamps.length % 2 ^ k) with hzero | hmod
    · rw [cells_of_mod_eq_zero hpow (by omega) hzero, descents_of_sorted (sorted_kept hkeys)]
      exact ⟨rfl, by simp [writeOrder, Nat.dvd_of_mod_eq_zero hzero]⟩
    · have hdvd : ¬ 2 ^ k ∣ stamps.length := fun h =>
        absurd (Nat.mod_eq_zero_of_dvd h) (Nat.ne_of_gt hmod)
      obtain ⟨s, hs, t, ht, hst⟩ := hne (by omega) hdvd
      have hdiffer : ∃ s ∈ kept (2 ^ k) stamps, ∃ t ∈ kept (2 ^ k) stamps,
          s.tNs.toNat ≠ t.tNs.toNat :=
        ⟨s, hs, t, ht, fun h => hst (UInt64.toNat_inj.mp h)⟩
      rw [descents_cells hpow (by omega) (Nat.ne_of_gt hmod) hkeys hdiffer]
      have hnewest := length_newest (2 ^ k) stamps
      refine ⟨?_, ?_⟩
      · rw [← oldest_append_newest hpow (by omega)]
        simp only [writeOrder, List.map_append]
        rw [List.drop_left' (by simpa using hnewest), List.take_left' (by simpa using hnewest)]
      · simp only [writeOrder, true_iff]
        exact ⟨by omega, hdvd⟩

end Stamped

/-- A ring of `2 ^ k` cells is opened, and for every sequence of stamps with positive times that
never decrease, the file after a heartbeat is read as the records of the last stamps, as many as
there are cells, in the order in which they were made, with the number of the others as lost,
exactly if what the header keeps of the name is UTF-8 and the stamps are fewer than 2^64. A ring
that has wrapped and was not just filled needs two different times among those that are left. -/
theorem stamps_read_back_iff (name : Bytes) {k : ℕ} (hk : k ≤ 57) (clockNs : UInt32)
    (monoNs realNs : UInt64) :
    ∃ w, openIn name k clockNs monoNs realNs = some w ∧ ∀ stamps : List Stamp,
      (∀ s ∈ stamps, 0 < s.tNs) → (stamps.map Stamp.tNs).Pairwise (· ≤ ·) →
      (2 ^ k < stamps.length → ¬ 2 ^ k ∣ stamps.length →
        ∃ s ∈ kept (2 ^ k) stamps, ∃ t ∈ kept (2 ^ k) stamps, s.tNs ≠ t.tNs) →
      ∀ (monoNs' realNs' : UInt64) (path : String),
        ((∃ ring, readRing path ((w.stampAll stamps).heartbeat monoNs' realNs').file = .ok ring
            ∧ ring.records = (stamps.drop (stamps.length - 2 ^ k)).map Stamp.record
            ∧ ring.lostRecords = stamps.length - 2 ^ k)
          ↔ Json.validUtf8 (keptName name) = true ∧ stamps.length < 2 ^ 64) := by
  obtain ⟨w, hopen⟩ := exists_openIn name hk clockNs monoNs realNs
  refine ⟨w, hopen, fun stamps hpos hsorted hne monoNs' realNs' path => ?_⟩
  obtain ⟨hread, hlost⟩ := readRing_stamped hopen stamps monoNs' realNs' path
  obtain ⟨hrecords, -⟩ := ring_stamped hopen path hpos hsorted hne
  have hpow : 2 ^ k ≤ 2 ^ 57 := Nat.pow_le_pow_right (by decide) hk
  constructor
  · rintro ⟨ring, hok, -, hring⟩
    rw [hread] at hok
    split_ifs at hok with hutf
    obtain rfl := Except.ok.inj hok
    rw [hlost] at hring
    exact ⟨hutf, by omega⟩
  · rintro ⟨hutf, hlen⟩
    refine ⟨_, hread.trans (if_pos hutf), (ring_heartbeat_records _ _ path _).1.trans hrecords, ?_⟩
    rw [hlost, Nat.mod_eq_of_lt hlen]

def tick (tNs : UInt64) : Stamp :=
  { seq := 0, stage := 0x10, aux := 0, aux2 := 0, tNs, cpu := 0, now := 0 }

def pairRing (name : Bytes) : Writer where
  hdr := {
    magic := magicNumber, version := layoutVersion, entries := 2, recCount := 0, t0MonoNs := 0
    t0RealNs := 0, name := keptName name, recSize := 32, clockNsPerCall := 0, t1MonoNs := 0
    t1RealNs := 0 }
  recs := [⟨0, 0, 0, 0⟩, ⟨0, 0, 0, 0⟩]
  idx := 0
  mask := 1
  enabled := true

theorem openIn_pairRing (name : Bytes) : openIn name 1 0 0 0 = some (pairRing name) := by
  rfl

theorem stamps_read_back_three :
    ∃ w, openIn [0x6D] 1 0 0 0 = some w
      ∧ ∃ ring, readRing "m.1.latrec"
          ((w.stampAll [tick 1, tick 2, tick 3]).heartbeat 4 4).file = .ok ring
        ∧ ring.records = [(tick 2).record, (tick 3).record] ∧ ring.lostRecords = 1 := by
  obtain ⟨w, hopen, hread⟩ := stamps_read_back_iff [0x6D] (by decide : 1 ≤ 57) 0 0 0
  exact ⟨w, hopen, (hread [tick 1, tick 2, tick 3] (by decide) (by decide) (by decide) 4 4
    "m.1.latrec").mpr (by decide)⟩

/-- A name of 64 bytes that is UTF-8; without its last byte it is not. -/
def cutName : Bytes := List.replicate 62 0x78 ++ [0xC3, 0xA9]

/-- A name that the header cuts within a character keeps the ring from being read. -/
theorem cut_name_not_read :
    openIn cutName 1 0 0 0 = some (pairRing cutName) ∧ Json.validUtf8 cutName = true
      ∧ readRing "m.1.latrec" (((pairRing cutName).stampAll [tick 1, tick 2]).heartbeat 4 4).file
        = .error .unicodeDecodeError := by
  obtain ⟨hread, -⟩ := readRing_stamped (openIn_pairRing cutName) [tick 1, tick 2] 4 4 "m.1.latrec"
  exact ⟨openIn_pairRing _, by decide, hread.trans (if_neg (by decide))⟩

/-! ## The flag -/

/-- Of stamps with increasing times, a ring of more than one cell keeps two different times. -/
theorem exists_ne_of_increasing {stamps : List Stamp} (h : (stamps.map Stamp.tNs).Pairwise (· < ·))
    (hlen : 2 ^ k < stamps.length) (hdvd : ¬ 2 ^ k ∣ stamps.length) :
    ∃ s ∈ kept (2 ^ k) stamps, ∃ t ∈ kept (2 ^ k) stamps, s.tNs ≠ t.tNs := by
  have hcells : 2 ^ k ≠ 1 := fun h => hdvd (h ▸ one_dvd _)
  have hpow : 0 < 2 ^ k := Nat.two_pow_pos k
  have hkept : (kept (2 ^ k) stamps).length = 2 ^ k := by
    rw [kept, List.length_drop]
    omega
  have hincreasing : ((kept (2 ^ k) stamps).map Stamp.tNs).Pairwise (· < ·) :=
    h.sublist ((List.drop_sublist _ _).map _)
  rcases hss : kept (2 ^ k) stamps with _ | ⟨s, _ | ⟨t, rest⟩⟩
  · simp [hss] at hkept
    omega
  · simp [hss] at hkept
    omega
  · refine ⟨s, by simp, t, by simp, ?_⟩
    rw [hss] at hincreasing
    exact UInt64.ne_of_lt ((List.pairwise_cons.mp hincreasing).1 _ (by simp))

/-- A ring of `2 ^ k` cells is opened, and for every sequence of stamps with positive increasing
times it is read exactly if what the header keeps of the name is UTF-8; the flag then says whether a
record was overwritten, except that it does not after a number of stamps that is a multiple of the
capacity and more than it. -/
theorem wrapped_honest_iff (name : Bytes) {k : ℕ} (hk : k ≤ 57) (clockNs : UInt32)
    (monoNs realNs : UInt64) :
    ∃ w, openIn name k clockNs monoNs realNs = some w ∧ ∀ stamps : List Stamp,
      (∀ s ∈ stamps, 0 < s.tNs) → (stamps.map Stamp.tNs).Pairwise (· < ·) →
      ∀ (monoNs' realNs' : UInt64) (path : String),
        ((∃ ring, readRing path ((w.stampAll stamps).heartbeat monoNs' realNs').file = .ok ring)
          ↔ Json.validUtf8 (keptName name) = true)
        ∧ ((∃ ring, readRing path ((w.stampAll stamps).heartbeat monoNs' realNs').file = .ok ring
            ∧ (ring.wrapped = true ↔ 2 ^ k < stamps.length))
          ↔ Json.validUtf8 (keptName name) = true
            ∧ ¬ (2 ^ k < stamps.length ∧ 2 ^ k ∣ stamps.length)) := by
  obtain ⟨w, hopen⟩ := exists_openIn name hk clockNs monoNs realNs
  refine ⟨w, hopen, fun stamps hpos hincreasing monoNs' realNs' path => ?_⟩
  obtain ⟨hread, -⟩ := readRing_stamped hopen stamps monoNs' realNs' path
  have hsorted : (stamps.map Stamp.tNs).Pairwise (· ≤ ·) := hincreasing.imp UInt64.le_of_lt
  obtain ⟨-, hwrapped⟩ := ring_stamped hopen path hpos hsorted (exists_ne_of_increasing hincreasing)
  rw [← (ring_heartbeat_records monoNs' realNs' path _).2] at hwrapped
  rw [hread]
  split_ifs with hutf
  · refine ⟨by simp [hutf], ?_⟩
    simp only [Except.ok.injEq, exists_eq_left', hutf, true_and, hwrapped]
    by_cases hfull : 2 ^ k < stamps.length
    · simp [hfull]
    · simp [hfull]
  · simp [hutf]

theorem wrapped_honest_iff_three :
    ∃ w, openIn [0x6D] 1 0 0 0 = some w
      ∧ ∃ ring, readRing "m.1.latrec"
          ((w.stampAll [tick 1, tick 2, tick 3]).heartbeat 4 4).file = .ok ring
        ∧ (ring.wrapped = true ↔ 2 ^ 1 < 3) := by
  obtain ⟨w, hopen, hread⟩ := wrapped_honest_iff [0x6D] (by decide : 1 ≤ 57) 0 0 0
  exact ⟨w, hopen, (hread [tick 1, tick 2, tick 3] (by decide) (by decide) 4 4
    "m.1.latrec").2.mpr (by decide)⟩

/-- Four stamps overwrite both records of a ring of two cells, and the flag is not set. -/
theorem wrapped_four_stamps :
    openIn [0x6D] 1 0 0 0 = some (pairRing [0x6D])
      ∧ ∃ ring, readRing "m.1.latrec"
          (((pairRing [0x6D]).stampAll [tick 1, tick 2, tick 3, tick 4]).heartbeat 5 5).file
            = .ok ring
        ∧ ring.lostRecords = 2 ∧ ring.wrapped = false := by
  obtain ⟨hread, hlost⟩ := readRing_stamped (openIn_pairRing [0x6D])
    [tick 1, tick 2, tick 3, tick 4] 5 5 "m.1.latrec"
  have hpos : ∀ s ∈ [tick 1, tick 2, tick 3, tick 4], 0 < s.tNs := by decide
  obtain ⟨-, hwrapped⟩ := ring_stamped (openIn_pairRing [0x6D]) "m.1.latrec" hpos
    (by decide) (by decide)
  refine ⟨openIn_pairRing _, _, hread.trans (if_pos (by decide)), hlost, ?_⟩
  rw [(ring_heartbeat_records _ _ _ _).2, ← Bool.not_eq_true, hwrapped]
  decide

end LibE3.Latrec
