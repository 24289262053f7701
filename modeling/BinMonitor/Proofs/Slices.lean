import BinMonitor.Bytes.Word

/-! Slices of bytes, and bytes in which a slice was replaced. -/

namespace BinMonitor.Bytes

theorem length_slice (bytes : Bytes) (offset len : Nat) :
    (slice bytes offset len).length = min len (bytes.length - offset) := by
  rw [slice, List.length_take, List.length_drop]

theorem getElem?_slice (bytes : Bytes) (offset len i : Nat) :
    (slice bytes offset len)[i]? = if i < len then bytes[offset + i]? else none := by
  rw [slice, List.getElem?_take, List.getElem?_drop]

theorem slice_congr {a b : Bytes} {offset len : Nat}
    (same : ∀ i, offset ≤ i → i < offset + len → a[i]? = b[i]?) :
    slice a offset len = slice b offset len := by
  apply List.ext_getElem?
  intro i
  rw [getElem?_slice, getElem?_slice]
  split
  · exact same _ (by omega) (by omega)
  · rfl

theorem getElem?_of_slice {a b : Bytes} {i : Nat} (same : slice a i 1 = slice b i 1) :
    a[i]? = b[i]? := by
  have first := congrArg (·[0]?) same
  simpa only [getElem?_slice, Nat.lt_add_one, if_true, Nat.add_zero] using first

theorem slice_prefix (bytes : Bytes) (offset : Nat) {short long : Nat} (h : short ≤ long) :
    slice bytes offset short <+: slice bytes offset long :=
  List.take_prefix_take_left h

theorem slice_slice (bytes : Bytes) (offset : Nat) {len region : Nat} (within : len ≤ region) :
    slice (slice bytes offset region) 0 len = slice bytes offset len := by
  rw [slice, slice, slice, List.drop_zero, List.take_take, Nat.min_eq_left within]

theorem slice_append_left (data rest : Bytes) (len : Nat) (size : data.length = len) :
    slice (data ++ rest) 0 len = data := by
  subst size
  simp [slice]

theorem slice_append_right (before rest : Bytes) (offset len : Nat)
    (past : before.length ≤ offset) :
    slice (before ++ rest) offset len = slice rest (offset - before.length) len := by
  rw [slice, slice, List.drop_append, List.drop_of_length_le past, List.nil_append]

theorem take_append_slice (data : Bytes) (start len : Nat) :
    data.take start ++ slice data start len = data.take (start + len) := List.take_add.symm

theorem slice_take (bytes : Bytes) {offset len within : Nat} (inside : offset + len ≤ within) :
    slice (bytes.take within) offset len = slice bytes offset len := by
  rw [slice, slice, List.drop_take, List.take_take, Nat.min_eq_left (by omega)]

section Front

variable {bytes other : Bytes} {within : Nat} (front : other.take within = bytes.take within)
include front

theorem take_of_take {less : Nat} (shorter : less ≤ within) : other.take less = bytes.take less := by
  rw [← Nat.min_eq_left shorter, ← List.take_take, front, List.take_take]

theorem slice_of_take {offset len : Nat} (inside : offset + len ≤ within) :
    slice other offset len = slice bytes offset len := by
  rw [← slice_take other inside, front, slice_take bytes inside]

end Front

theorem splice_nil (bytes : Bytes) (offset : Nat) : splice bytes offset [] = bytes := by
  simp [splice]

theorem length_splice {bytes data : Bytes} {offset : Nat}
    (room : offset + data.length ≤ bytes.length) :
    (splice bytes offset data).length = bytes.length := by
  simp only [splice, List.length_append, List.length_take, List.length_drop]
  omega

theorem getElem?_splice {bytes data : Bytes} {offset i : Nat}
    (room : offset + data.length ≤ bytes.length) (outside : i < offset ∨ offset + data.length ≤ i) :
    (splice bytes offset data)[i]? = bytes[i]? := by
  have start : (bytes.take offset).length = offset := List.length_take_of_le (by omega)
  rw [splice, List.append_assoc]
  rcases outside with low | high
  · rw [List.getElem?_append_left (by omega), List.getElem?_take_of_lt low]
  · rw [List.getElem?_append_right (by omega), List.getElem?_append_right (by omega),
      List.getElem?_drop, start]
    congr 1
    omega

theorem slice_splice {bytes data : Bytes} {offset : Nat} (len : Nat) (room : offset ≤ bytes.length) :
    slice (splice bytes offset data) offset len =
      (data ++ bytes.drop (offset + data.length)).take len := by
  have start : (bytes.take offset).length = offset := List.length_take_of_le room
  rw [splice, List.append_assoc, slice_append_right _ _ _ _ (Nat.le_of_eq start), start,
    Nat.sub_self]
  rfl

theorem splice_splice {bytes : Bytes} {offset : Nat} (first second : Bytes)
    (room : offset ≤ bytes.length) :
    splice (splice bytes offset first) (offset + first.length) second =
      splice bytes offset (first ++ second) := by
  have start : (bytes.take offset ++ first).length = offset + first.length := by
    rw [List.length_append, List.length_take_of_le room]
  have head : (splice bytes offset first).take (offset + first.length) =
      bytes.take offset ++ first := List.take_left' start
  have tail : (splice bytes offset first).drop (offset + first.length + second.length) =
      bytes.drop (offset + (first ++ second).length) := by
    rw [← List.drop_drop, splice, List.drop_left' start, List.drop_drop, List.length_append,
      Nat.add_assoc]
  rw [splice, head, tail, splice]
  simp only [List.append_assoc]

end BinMonitor.Bytes
