import Mathlib.Data.List.Basic
import Mathlib.Tactic.Common
import Mathlib.Tactic.Ring

/-!
# Length-prefixed framing

A sender that puts the length of a message in front of it lets a receiver find the messages again in
a stream that has no boundaries, since no frame is the beginning of another frame. `Header` is any
way to write a length with a fixed number of symbols, and `bigEndian` is one.
-/

namespace LengthPrefix

/-- A length written with `width` symbols. Every length below `limit` can be read back, and so can
every word of that width. -/
structure Header (β : Type*) where
  width : ℕ
  limit : ℕ
  write : ℕ → List β
  read : List β → ℕ
  width_pos : 0 < width
  length_write : ∀ n, (write n).length = width
  read_write : ∀ n < limit, read (write n) = n
  write_read : ∀ h, h.length = width → write (read h) = h

namespace Header

variable {β : Type*} (H : Header β)

/-- A message behind its length. -/
def frame (m : List β) : List β := H.write m.length ++ m

/-- The messages one after the other. -/
def stream (ms : List (List β)) : List β := ms.flatMap H.frame

/-- A length that can be read back. -/
def Fits (m : List β) : Prop := m.length < H.limit

/-- The beginning of a frame that is not whole: a part of the header, or the header and less than
it announces. -/
inductive Torn : List β → Prop
  | header {h : List β} : h.length < H.width → Torn h
  | payload {h m : List β} : h.length = H.width → m.length < H.read h → Torn (h ++ m)

@[simp] theorem stream_nil : H.stream [] = [] := rfl

@[simp] theorem stream_cons (m : List β) (ms : List (List β)) :
    H.stream (m :: ms) = H.frame m ++ H.stream ms := rfl

@[simp] theorem stream_append (ms ns : List (List β)) :
    H.stream (ms ++ ns) = H.stream ms ++ H.stream ns := List.flatMap_append

theorem length_frame (m : List β) : (H.frame m).length = H.width + m.length := by
  rw [frame, List.length_append, H.length_write]

theorem torn_nil : H.Torn [] := .header H.width_pos

variable {H}

theorem frame_append_inj {m n x y : List β} (hm : H.Fits m) (hn : H.Fits n)
    (h : H.frame m ++ x = H.frame n ++ y) : m = n ∧ x = y := by
  simp only [frame, List.append_assoc] at h
  obtain ⟨hhead, hrest⟩ :=
    List.append_inj h ((H.length_write _).trans (H.length_write _).symm)
  have hlen : m.length = n.length := by
    rw [← H.read_write m.length hm, hhead, H.read_write n.length hn]
  exact List.append_inj hrest hlen

theorem first_of_stream {x : List β} : ∀ {got sent : List (List β)}, (∀ m ∈ got, H.Fits m) →
    (∀ m ∈ sent, H.Fits m) → H.stream got ++ x <+: H.stream sent → got <+: sent
  | [], _, _, _, _ => List.nil_prefix
  | m :: got, [], _, _, h => by
    have hnil := List.prefix_nil.mp h
    have hlen := congrArg List.length hnil
    simp only [stream_cons, List.length_append, length_frame, List.length_nil] at hlen
    have := H.width_pos
    omega
  | m :: got, n :: sent, hgot, hsent, ⟨y, hy⟩ => by
    simp only [stream_cons, List.append_assoc] at hy
    obtain ⟨rfl, hrest⟩ := frame_append_inj (hgot m List.mem_cons_self)
      (hsent n List.mem_cons_self) hy
    have ih := first_of_stream (fun k hk => hgot k (List.mem_cons_of_mem m hk))
      (fun k hk => hsent k (List.mem_cons_of_mem m hk))
      ⟨y, (List.append_assoc _ x y).trans hrest⟩
    exact List.cons_prefix_cons.mpr ⟨rfl, ih⟩

theorem Torn.ne_frame_append {x m y : List β} (h : H.Torn x) (hm : H.Fits m) :
    x ≠ H.frame m ++ y := by
  rintro rfl
  generalize hx : H.frame m ++ y = x at h
  cases h with
  | header hlt =>
    rw [← hx, List.length_append, length_frame] at hlt
    omega
  | @payload w p hw hp =>
    rw [frame, List.append_assoc] at hx
    obtain ⟨hhead, hrest⟩ := List.append_inj hx ((H.length_write _).trans hw.symm)
    rw [← hhead, H.read_write _ hm, ← hrest, List.length_append] at hp
    omega

/-- A receiver that has read a stream to its end, and has no whole frame left over, has every
message of it. -/
theorem all_of_stream {got sent : List (List β)} {x : List β} (hgot : ∀ m ∈ got, H.Fits m)
    (hsent : ∀ m ∈ sent, H.Fits m) (hx : H.Torn x) (h : H.stream got ++ x = H.stream sent) :
    got = sent := by
  obtain ⟨rest, rfl⟩ := first_of_stream hgot hsent ⟨[], (List.append_nil _).trans h⟩
  rw [stream_append] at h
  have hrest := List.append_cancel_left h
  cases rest with
  | nil => exact (List.append_nil got).symm
  | cons m ms =>
    exact absurd hrest
      (hx.ne_frame_append (hsent m (List.mem_append_right got List.mem_cons_self)))

end Header

/-- The last `w` bytes of a number, the most significant one first. -/
def bigEndian : ℕ → ℕ → List UInt8
  | 0, _ => []
  | w + 1, n => UInt8.ofNat (n / 256 ^ w) :: bigEndian w n

def ofBigEndian : List UInt8 → ℕ
  | [] => 0
  | b :: bs => b.toNat * 256 ^ bs.length + ofBigEndian bs

theorem length_bigEndian (n : ℕ) : ∀ w, (bigEndian w n).length = w
  | 0 => rfl
  | w + 1 => by rw [bigEndian, List.length_cons, length_bigEndian n w]

theorem ofBigEndian_lt : ∀ bs : List UInt8, ofBigEndian bs < 256 ^ bs.length
  | [] => by simp [ofBigEndian]
  | b :: bs => by
    have ih := ofBigEndian_lt bs
    have hb : b.toNat ≤ 255 := Nat.le_of_lt_succ b.toNat_lt
    have hmul := Nat.mul_le_mul_right (256 ^ bs.length) hb
    rw [ofBigEndian, List.length_cons, Nat.pow_succ]
    omega

theorem bigEndian_mod (n : ℕ) : ∀ w k, w ≤ k → bigEndian w (n % 256 ^ k) = bigEndian w n
  | 0, _, _ => rfl
  | w + 1, k, hk => by
    have hbyte : n % 256 ^ k / 256 ^ w % 256 = n / 256 ^ w % 256 := by
      obtain ⟨d, rfl⟩ := Nat.exists_eq_add_of_le hk
      rw [show 256 ^ (w + 1 + d) = 256 ^ w * (256 * 256 ^ d) by ring, Nat.mod_mul_right_div_self,
        Nat.mod_mul_right_mod]
    rw [bigEndian, bigEndian, bigEndian_mod n w k (by omega)]
    congr 1
    rw [← UInt8.toNat_inj]
    simpa using hbyte

theorem ofBigEndian_bigEndian : ∀ w n, ofBigEndian (bigEndian w n) = n % 256 ^ w
  | 0, n => by simp [bigEndian, ofBigEndian, Nat.mod_one]
  | w + 1, n => by
    rw [bigEndian, ofBigEndian, length_bigEndian, ofBigEndian_bigEndian w n, Nat.pow_succ,
      Nat.mod_mul]
    rw [UInt8.toNat_ofNat', Nat.mul_comm, Nat.add_comm]

theorem bigEndian_ofBigEndian : ∀ bs : List UInt8, bigEndian bs.length (ofBigEndian bs) = bs
  | [] => rfl
  | b :: bs => by
    have hlt := ofBigEndian_lt bs
    have hpos : 0 < 256 ^ bs.length := Nat.pow_pos (by decide)
    have hdiv : ofBigEndian (b :: bs) / 256 ^ bs.length = b.toNat := by
      rw [ofBigEndian, Nat.mul_comm, Nat.mul_add_div hpos, Nat.div_eq_of_lt hlt, Nat.add_zero]
    have hmod : ofBigEndian (b :: bs) % 256 ^ bs.length = ofBigEndian bs := by
      rw [ofBigEndian, Nat.mul_comm, Nat.mul_add_mod, Nat.mod_eq_of_lt hlt]
    rw [List.length_cons, bigEndian, hdiv, UInt8.ofNat_toNat,
      ← bigEndian_mod _ bs.length bs.length (Nat.le_refl _), hmod, bigEndian_ofBigEndian bs]

/-- A length in network byte order. -/
def networkOrder (w : ℕ) (hw : 0 < w) : Header UInt8 where
  width := w
  limit := 256 ^ w
  write := bigEndian w
  read := ofBigEndian
  width_pos := hw
  length_write := fun n => length_bigEndian n w
  read_write := fun n hn => by rw [ofBigEndian_bigEndian, Nat.mod_eq_of_lt hn]
  write_read := fun h hh => by rw [← hh, bigEndian_ofBigEndian]

end LengthPrefix
