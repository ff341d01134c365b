import LibE3.Types
import LibE3.Lib.Json
import LibE3.Lib.LengthPrefix
import LibE3.Lib.LittleEndian
import LibE3.Lib.RingLog
import Mathlib.Data.List.DropRight

/-!
# The latency recorder

A thread stamps the stages of a message into a ring of records in a mapped file (`latrec.h`), and
`read_ring` (`latrec_reader.py`) parses the file. The writer is modelled as the header and the
records that its mapping holds, and the file is their bytes on a little-endian host. The reader
starts from the bytes, so its numbers are those of Python. The clocks and the cpu id are inputs of
the calls that read them.
-/

namespace LibE3.Latrec

/-- `LATREC_MAGIC`. -/
def magicNumber : UInt32 := 0x31524C41

/-- `LATREC_VERSION`. -/
def layoutVersion : UInt32 := 2

/-- `LATREC_HDR_LEN`. -/
def hdrLen : ℕ := 4096

/-- `sizeof(latrec_rec)`, the reader's `REC_SIZE`. -/
def recSize : ℕ := 32

/-! ## The writer -/

/-- `latrec_rec`. -/
structure Rec where
  sc : UInt64
  tNs : UInt64
  aux : UInt64
  aux2 : UInt64
  deriving DecidableEq, Repr

/-- `latrec_hdr`, without the bytes that fill it up. -/
structure Hdr where
  magic : UInt32
  version : UInt32
  entries : UInt64
  recCount : UInt64
  t0MonoNs : UInt64
  t0RealNs : UInt64
  name : Bytes
  recSize : UInt32
  clockNsPerCall : UInt32
  t1MonoNs : UInt64
  t1RealNs : UInt64
  deriving DecidableEq, Repr

/-- `latrec_t`, with the mapping it points to. -/
structure Writer where
  hdr : Hdr
  recs : List Rec
  idx : UInt64
  mask : UInt64
  enabled : Bool
  deriving DecidableEq, Repr

/-- What `snprintf` leaves of the name in a buffer of 64 bytes. -/
def keptName (name : Bytes) : Bytes := (name.takeWhile (· ≠ 0)).take 63

/-- The length of the file. -/
def fileLen (entriesLog2 : ℕ) : ℕ := hdrLen + 2 ^ entriesLog2 * recSize

/-- `latrec_open_in`, on a file system that lets the file be made: the measured cost of the clock
and the pair of clocks at the opening are inputs. At 58 the length is not an `off_t`, and `ftruncate`
refuses it. Beyond that the writer's arithmetic wraps: from 59 to 63 it maps the header alone and
returns a ring, whose stamps are then written behind the mapping. That is not modelled; what is
stated of rings is stated for 57 and less. -/
def openIn (name : Bytes) (entriesLog2 : ℕ) (clockNs : UInt32) (monoNs realNs : UInt64) :
    Option Writer :=
  if fileLen entriesLog2 < 2 ^ 63 then
    let entries : UInt64 := 1 <<< UInt64.ofNat entriesLog2
    some {
      hdr := {
        magic := magicNumber
        version := layoutVersion
        entries
        recCount := 0
        t0MonoNs := monoNs
        t0RealNs := realNs
        name := keptName name
        recSize := 32
        clockNsPerCall := clockNs
        t1MonoNs := monoNs
        t1RealNs := realNs }
      recs := List.replicate entries.toNat ⟨0, 0, 0, 0⟩
      idx := 0
      mask := entries - 1
      enabled := true }
  else none

/-- The arguments of `latrec_stamp_at`, with the cpu id that the stamp takes and the clock as it
reads it if it has to. -/
structure Stamp where
  seq : UInt64
  stage : UInt8
  aux : UInt64
  aux2 : UInt64
  tNs : UInt64
  cpu : UInt32
  now : UInt64
  deriving DecidableEq, Repr

/-- The record of a stamp. -/
def Stamp.toRec (s : Stamp) : Rec where
  sc := (s.seq &&& (0x0000FFFFFFFFFFFF : UInt64))
    ||| ((s.cpu.toUInt64 &&& (0xFF : UInt64)) <<< (48 : UInt64))
    ||| (s.stage.toUInt64 <<< (56 : UInt64))
  tNs := if s.tNs = 0 then s.now else s.tNs
  aux := s.aux
  aux2 := s.aux2

/-- `latrec_stamp_at`. -/
def Writer.stampAt (w : Writer) (s : Stamp) : Writer :=
  if w.enabled then
    { w with
      idx := w.idx + 1
      recs := w.recs.set (w.idx &&& w.mask).toNat s.toRec }
  else w

/-- `latrec_stamp`: the clock is read in front of the stamp. -/
def Writer.stamp (w : Writer) (s : Stamp) : Writer :=
  if w.enabled then w.stampAt { s with tNs := s.now } else w

/-- `latrec_heartbeat`. -/
def Writer.heartbeat (w : Writer) (monoNs realNs : UInt64) : Writer :=
  if w.enabled then
    { w with hdr := { w.hdr with recCount := w.idx, t1MonoNs := monoNs, t1RealNs := realNs } }
  else w

/-! ## The file -/

/-- The bytes of a record. -/
def Rec.bytes (r : Rec) : Bytes :=
  LittleEndian.bytes 8 r.sc.toNat ++ LittleEndian.bytes 8 r.tNs.toNat
    ++ LittleEndian.bytes 8 r.aux.toNat ++ LittleEndian.bytes 8 r.aux2.toNat

/-- The buffer of the name. The mapping was cleared at the opening, so what follows the name is
zero. -/
def nameField (name : Bytes) : Bytes := name ++ List.replicate (64 - name.length) 0

/-- What fills the header up. -/
def pad : Bytes := List.replicate (hdrLen - 4 * 4 - 8 * 6 - 64) 0

/-- The bytes of the header. -/
def Hdr.bytes (h : Hdr) : Bytes :=
  LittleEndian.bytes 4 h.magic.toNat ++ (LittleEndian.bytes 4 h.version.toNat
    ++ (LittleEndian.bytes 8 h.entries.toNat ++ (LittleEndian.bytes 8 h.recCount.toNat
    ++ (LittleEndian.bytes 8 h.t0MonoNs.toNat ++ (LittleEndian.bytes 8 h.t0RealNs.toNat
    ++ (nameField h.name ++ (LittleEndian.bytes 4 h.recSize.toNat
    ++ (LittleEndian.bytes 4 h.clockNsPerCall.toNat ++ (LittleEndian.bytes 8 h.t1MonoNs.toNat
    ++ (LittleEndian.bytes 8 h.t1RealNs.toNat ++ pad))))))))))

/-- The file behind the mapping. -/
def Writer.file (w : Writer) : Bytes := w.hdr.bytes ++ w.recs.flatMap Rec.bytes

/-! ## The reader -/

/-- `Record`. -/
structure Record where
  seq : ℕ
  cpu : ℕ
  stage : ℕ
  tNs : ℕ
  aux : ℕ
  aux2 : ℕ
  deriving DecidableEq, Repr

/-- `Ring`. The name is kept as its UTF-8 bytes. -/
structure Ring where
  file : String
  name : Bytes
  version : ℕ
  entries : ℕ
  recCount : ℕ
  recSize : ℕ
  clockNsPerCall : ℕ
  t0MonoNs : ℕ
  t0RealNs : ℕ
  t1MonoNs : ℕ
  t1RealNs : ℕ
  records : List Record
  wrapped : Bool
  descents : ℕ
  deriving DecidableEq, Repr

/-- `Ring.lost_records`. -/
def Ring.lostRecords (r : Ring) : ℕ := r.recCount - r.entries

/-- What `read_ring` raises: `BadRing` with its text, or `UnicodeDecodeError` for the name. -/
inductive ReadError
  | badRing (text : String)
  | unicodeDecodeError
  deriving DecidableEq, Repr

/-- A number as `:08X` formats it. -/
def hex8 (n : ℕ) : String :=
  let digits := (Nat.toDigits 16 n).map Char.toUpper
  String.ofList (List.replicate (8 - digits.length) '0' ++ digits)

/-- `os.path.basename`. -/
def basename (path : String) : String := String.ofList (path.toList.rtakeWhile (· ≠ '/'))

/-- A number of the file. -/
def word (off w : ℕ) (bs : Bytes) : ℕ := LittleEndian.value (LittleEndian.field off w bs)

/-- The fields of a record as `_REC` unpacks them, and the `Record` of `read_ring`. -/
def unpackRecord (bs : Bytes) : Record :=
  let sc := word 0 8 bs
  { seq := sc &&& 0x0000FFFFFFFFFFFF
    cpu := (sc >>> 48) &&& 0xFF
    stage := sc >>> 56
    tNs := word 8 8 bs
    aux := word 16 8 bs
    aux2 := word 24 8 bs }

/-- The records of the blob that were written. -/
def validRecords (blob : Bytes) : List Record :=
  ((LittleEndian.blocks recSize (blob.length / recSize) blob).map unpackRecord).filter
    (·.tNs ≠ 0)

/-- The records in the order of the writes, and whether the ring has wrapped: it is turned at the
descent if there is exactly one. -/
def writeOrder (recs : List Record) (descents : List ℕ) : List Record × Bool :=
  match descents with
  | [cut] => (recs.drop cut ++ recs.take cut, true)
  | _ => (recs, false)

/-- `rec_size`, `clock_ns_per_call` and the closing pair of clocks, which a header has since
version 2. -/
def unpackV2 (ver : ℕ) (hdr : Bytes) : ℕ × ℕ × ℕ × ℕ :=
  if 2 ≤ ver then (word 104 4 hdr, word 108 4 hdr, word 112 8 hdr, word 120 8 hdr)
  else (recSize, 0, 0, 0)

/-- `read_ring`. -/
def readRing (path : String) (file : Bytes) : Except ReadError Ring := do
  let hdr := file.take hdrLen
  if hdr.length < hdrLen then
    throw (.badRing (path ++ ": shorter than a header"))
  let magic := word 0 4 hdr
  let ver := word 4 4 hdr
  let entries := word 8 8 hdr
  let recCount := word 16 8 hdr
  if magic ≠ magicNumber.toNat then
    if LittleEndian.value (LengthPrefix.bigEndian 4 magic) = magicNumber.toNat then
      throw (.badRing (path ++ ": byte-swapped ring (opposite-endian writer)"))
    throw (.badRing (path ++ ": bad magic 0x" ++ hex8 magic))
  let (size, clockNs, t1m, t1r) := unpackV2 ver hdr
  if size ≠ 0 ∧ size ≠ recSize then
    throw (.badRing (path ++ ": rec_size " ++ toString size ++ ", expected " ++ toString recSize))
  let recs := validRecords ((file.drop hdrLen).take (entries * recSize))
  let descents := RingLog.descents (recs.map Record.tNs)
  let (records, wrapped) := writeOrder recs descents
  let name := (LittleEndian.field 40 64 hdr).rdropWhile (· = 0)
  if !Json.validUtf8 name then
    throw .unicodeDecodeError
  return {
    file := basename path
    name
    version := ver
    entries
    recCount
    recSize := size
    clockNsPerCall := clockNs
    t0MonoNs := word 24 8 hdr
    t0RealNs := word 32 8 hdr
    t1MonoNs := t1m
    t1RealNs := t1r
    records
    wrapped
    descents := descents.length }

end LibE3.Latrec
