import BinMonitor.Bytes.Codec
import Mathlib.Algebra.Group.Int.Defs
import Mathlib.Algebra.Group.Nat.Defs

/-! Reading undoes writing, whatever bytes follow: for words of a fixed number of bytes, for numbers
of variable length, and for every codec built from them. How long the written form can get is
bounded along the way. -/

namespace BinMonitor

namespace Bytes

@[simp] theorem length_littleEndian (width n : Nat) : (littleEndian width n).length = width := by
  induction width generalizing n with
  | zero => rfl
  | succ width ih => simp [littleEndian, ih]

@[simp] theorem length_bigEndian (width n : Nat) : (bigEndian width n).length = width := by
  simp [bigEndian]

theorem fromLittleEndian_littleEndian (width n : Nat) :
    fromLittleEndian (littleEndian width n) = n % 256 ^ width := by
  induction width generalizing n with
  | zero => simp [littleEndian, fromLittleEndian, Nat.mod_one]
  | succ width ih =>
    have split : n % 256 ^ (width + 1) = n % 256 + 256 * (n / 256 % 256 ^ width) := by
      rw [Nat.pow_succ, Nat.mul_comm, Nat.mod_mul]
    simp [littleEndian, fromLittleEndian, ih, split]

theorem fromLittleEndian_lt (bytes : Bytes) : fromLittleEndian bytes < 256 ^ bytes.length := by
  induction bytes with
  | nil => simp [fromLittleEndian]
  | cons b rest ih =>
    have byte := b.toNat_lt
    rw [fromLittleEndian, List.length_cons, Nat.pow_succ]
    omega

theorem littleEndian_fromLittleEndian (bytes : Bytes) :
    littleEndian bytes.length (fromLittleEndian bytes) = bytes := by
  induction bytes with
  | nil => rfl
  | cons b rest ih =>
    have byte := b.toNat_lt
    have low : (b.toNat + 256 * fromLittleEndian rest).toUInt8 = b := by
      apply UInt8.toNat_inj.mp
      simp only [Nat.toUInt8_eq, UInt8.toNat_ofNat']
      omega
    have high : (b.toNat + 256 * fromLittleEndian rest) / 256 = fromLittleEndian rest := by omega
    rw [fromLittleEndian, List.length_cons, littleEndian, low, high, ih]

theorem fromBigEndian_bigEndian (width n : Nat) :
    fromBigEndian (bigEndian width n) = n % 256 ^ width := by
  rw [fromBigEndian, bigEndian, List.reverse_reverse, fromLittleEndian_littleEndian]

theorem takeVarint_varint (most n : Nat) (rest : Bytes) (h : n < 128 ^ (most + 1)) :
    takeVarint (most + 1) (varint n ++ rest) = some (n, rest) := by
  induction most generalizing n with
  | zero =>
    have small : n < 128 := by simpa using h
    have byte : n % 256 = n := by omega
    rw [varint, if_pos small]
    simp [takeVarint, byte, small]
  | succ most ih =>
    rw [varint]
    split
    · rename_i small
      have byte : n % 256 = n := by omega
      simp [takeVarint, byte, small]
    · have high : n / 128 < 128 ^ (most + 1) := by
        rw [Nat.pow_succ] at h
        omega
      have byte : (n % 128 + 128) % 256 = n % 128 + 128 := by omega
      have more : ¬n % 128 + 128 < 128 := by omega
      have whole : n % 128 + 128 * (n / 128) = n := Nat.mod_add_div n 128
      simp [takeVarint, ih _ high, byte, more, whole]

theorem length_varint_le (most n : Nat) (h : n < 128 ^ (most + 1)) :
    (varint n).length ≤ most + 1 := by
  induction most generalizing n with
  | zero =>
    have small : n < 128 := by simpa using h
    rw [varint, if_pos small]
    simp
  | succ most ih =>
    rw [varint]
    split
    · simp
    · have high : n / 128 < 128 ^ (most + 1) := by
        rw [Nat.pow_succ] at h
        omega
      have rest := ih _ high
      simp only [List.length_cons]
      omega

theorem takeWidth_varint (width most n : Nat) (rest : Bytes) (groups : (width + 6) / 7 = most + 1)
    (h : n < 2 ^ width) :
    takeWidth width (varint n ++ rest) = some (n, rest) := by
  have room : n < 128 ^ (most + 1) := by
    calc n < 2 ^ width := h
      _ ≤ 2 ^ (7 * (most + 1)) := Nat.pow_le_pow_right (by decide) (by omega)
      _ = 128 ^ (most + 1) := Nat.pow_mul 2 7 (most + 1)
  rw [takeWidth, groups, takeVarint_varint most n rest room]
  simp [Option.filter, h]

theorem unzigzag_zigzag (n : Int) : unzigzag (zigzag n) = n := by
  unfold zigzag unzigzag
  split <;> split <;> omega

theorem zigzag_lt (width : Nat) (n : Int) (low : -(2 ^ width) ≤ n) (high : n < 2 ^ width) :
    zigzag n < 2 ^ (width + 1) := by
  have cast : ((2 ^ width : Nat) : Int) = 2 ^ width := by simp
  rw [Nat.pow_succ]
  unfold zigzag
  split <;> omega

end Bytes

namespace Codec

variable {α β : Type}

/-- Writing `a` and reading it back answers `a` and leaves exactly what followed. -/
def RoundTrips (c : Codec α) (a : α) : Prop := ∀ rest, c.read (c.write a ++ rest) = some (a, rest)

theorem RoundTrips.decode {c : Codec α} {a : α} (h : c.RoundTrips a) :
    c.decode (c.write a) = some a := by
  have whole := h []
  rw [List.append_nil] at whole
  simp [Codec.decode, whole]

theorem RoundTrips.refine {c : Codec β} {form : α → β} {value : β → Option α} {a : α}
    (h : c.RoundTrips (form a)) (back : value (form a) = some a) :
    (c.refine form value).RoundTrips a := by
  intro rest
  simp [Codec.refine, h rest, back]

theorem RoundTrips.convert {c : Codec β} {form : α → β} {value : β → α} {a : α}
    (h : c.RoundTrips (form a)) (back : value (form a) = a) :
    (c.convert form value).RoundTrips a :=
  RoundTrips.refine h (by rw [back])

theorem RoundTrips.pair {first : Codec α} {second : Codec β} {a : α} {b : β}
    (ha : first.RoundTrips a) (hb : second.RoundTrips b) : (first.pair second).RoundTrips (a, b) := by
  intro rest
  simp [Codec.pair, ha (second.write b ++ rest), hb rest]

theorem byte_roundTrips (b : UInt8) : byte.RoundTrips b := fun _ => rfl

theorem flag_roundTrips (b : Bool) : flag.RoundTrips b := by
  cases b
  · exact RoundTrips.refine (byte_roundTrips 0) rfl
  · exact RoundTrips.refine (byte_roundTrips 1) rfl

theorem word16_roundTrips (n : UInt16) : word16.RoundTrips n :=
  RoundTrips.convert (fun rest => Bytes.takeWidth_varint 16 2 _ rest rfl n.toNat_lt) (by simp)

theorem zigzag_int32_lt (n : Int32) : Bytes.zigzag n.toInt < 2 ^ 32 :=
  Bytes.zigzag_lt 31 _ n.le_toInt n.toInt_lt

theorem zigzag_int64_lt (n : Int64) : Bytes.zigzag n.toInt < 2 ^ 64 :=
  Bytes.zigzag_lt 63 _ n.le_toInt n.toInt_lt

theorem int32_roundTrips (n : Int32) : int32.RoundTrips n :=
  RoundTrips.convert (fun rest => Bytes.takeWidth_varint 32 4 _ rest rfl (zigzag_int32_lt n))
    (by rw [Bytes.unzigzag_zigzag, Int32.ofInt_toInt])

theorem int64_roundTrips (n : Int64) : int64.RoundTrips n :=
  RoundTrips.convert (fun rest => Bytes.takeWidth_varint 64 9 _ rest rfl (zigzag_int64_lt n))
    (by rw [Bytes.unzigzag_zigzag, Int64.ofInt_toInt])

theorem single_roundTrips (x : Single) : single.RoundTrips x := by
  intro rest
  have size : x.bits.toNat % 256 ^ 4 = x.bits.toNat := Nat.mod_eq_of_lt x.bits.toNat_lt
  have long : ¬(Bytes.littleEndian 4 x.bits.toNat ++ rest).length < 4 := by simp
  have head : (Bytes.littleEndian 4 x.bits.toNat ++ rest).take 4 =
      Bytes.littleEndian 4 x.bits.toNat := List.take_left' (Bytes.length_littleEndian 4 _)
  have tail : (Bytes.littleEndian 4 x.bits.toNat ++ rest).drop 4 = rest :=
    List.drop_left' (Bytes.length_littleEndian 4 _)
  simp only [single, if_neg long, head, tail, Bytes.fromLittleEndian_littleEndian, size]
  simp

theorem choice_roundTrips [BEq α] [LawfulBEq α] (choices : List α) (a : α) (member : a ∈ choices)
    (few : choices.length ≤ 2 ^ 32) : (choice choices).RoundTrips a := by
  have place : choices.idxOf a < choices.length := List.idxOf_lt_length_of_mem member
  refine RoundTrips.refine (fun rest => ?_) ?_
  · exact Bytes.takeWidth_varint 32 4 _ rest rfl (by omega)
  · simp [List.getElem?_eq_getElem place]

theorem length_write_byte (b : UInt8) : (byte.write b).length = 1 := rfl

theorem length_write_flag (b : Bool) : (flag.write b).length = 1 := rfl

theorem length_write_single (x : Single) : (single.write x).length = 4 :=
  Bytes.length_littleEndian 4 x.bits.toNat

theorem length_write_word16_le (n : UInt16) : (word16.write n).length ≤ 3 :=
  Bytes.length_varint_le 2 _ (Nat.lt_trans n.toNat_lt (by decide))

theorem length_write_int32_le (n : Int32) : (int32.write n).length ≤ 5 :=
  Bytes.length_varint_le 4 _ (Nat.lt_trans (zigzag_int32_lt n) (by decide))

theorem length_write_int64_le (n : Int64) : (int64.write n).length ≤ 10 :=
  Bytes.length_varint_le 9 _ (Nat.lt_trans (zigzag_int64_lt n) (by decide))

theorem length_write_choice_le [BEq α] [LawfulBEq α] (choices : List α) (a : α)
    (few : choices.length < 128) : ((choice choices).write a).length ≤ 1 := by
  have place : choices.idxOf a ≤ choices.length := List.idxOf_le_length
  have small : choices.idxOf a < 128 ^ (0 + 1) := by omega
  exact Bytes.length_varint_le 0 _ small

end Codec

end BinMonitor
