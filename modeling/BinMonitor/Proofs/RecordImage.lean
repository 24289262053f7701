import BinMonitor.Proofs.Codec
import BinMonitor.Proofs.Slices
import BinMonitor.Status.Reading
import BinMonitor.Status.System

/-! Stored images of records. A record kind is sound when its codec gives every value back and every
value fits its region; both kinds of the store are. Then encoding never fails, and decoding an image
gives the value back whatever bytes stand behind it. What decoding makes of a header with other bytes
behind it than the payload it was written for is said once, in `decode_header_append`. -/

namespace BinMonitor

theorem Digest.length_sha256 (message : Bytes) : (Digest.sha256 message).length = 32 := by
  simp [Digest.sha256, Digest.Chain.words]

namespace RecordFormat

variable {α : Type}

structure Sound (f : RecordFormat α) : Prop where
  roundTrips : ∀ a, f.codec.RoundTrips a
  fits : ∀ a, headerLength + (f.codec.write a).length ≤ min f.region greatestLength

@[simp] theorem length_checksum (magic : UInt32) (version : UInt16) (payload : Bytes) :
    (checksum magic version payload).length = 4 := by
  simp [checksum, Digest.length_sha256]

def image (f : RecordFormat α) (value : α) : Bytes :=
  preamble f.magic f.version (f.codec.write value).length
    ++ checksum f.magic f.version (f.codec.write value) ++ [0, 0, 0, 0] ++ f.codec.write value

def header (f : RecordFormat α) (payload : Bytes) : Bytes :=
  preamble f.magic f.version payload.length ++ checksum f.magic f.version payload ++ [0, 0, 0, 0]

theorem image_eq (f : RecordFormat α) (value : α) :
    f.image value = f.header (f.codec.write value) ++ f.codec.write value := rfl

@[simp] theorem length_header (f : RecordFormat α) (payload : Bytes) :
    (f.header payload).length = headerLength := by
  simp [header, preamble, headerLength]

theorem length_image (f : RecordFormat α) (value : α) :
    (f.image value).length = headerLength + (f.codec.write value).length := by
  rw [image_eq, List.length_append, length_header]

theorem encode_eq_image {f : RecordFormat α} (sound : f.Sound) (value : α) :
    f.encode value = .ok (f.image value) := by
  rw [encode, if_pos (sound.fits value)]
  rfl

theorem Sound.length_image_le {f : RecordFormat α} (sound : f.Sound) (value : α) :
    (f.image value).length ≤ f.region := by
  rw [length_image]
  exact (Nat.le_min.mp (sound.fits value)).1

theorem Sound.payload_lt {f : RecordFormat α} (sound : f.Sound) (value : α) :
    (f.codec.write value).length < 256 ^ 2 := by
  have bound := (Nat.le_min.mp (sound.fits value)).2
  simp only [headerLength, greatestLength] at bound
  omega

section Fields

variable (f : RecordFormat α) (payload rest : Bytes)

theorem header_append : f.header payload ++ rest =
    Bytes.littleEndian 4 f.magic.toNat ++ (Bytes.littleEndian 2 f.version.toNat ++
      (Bytes.littleEndian 2 payload.length ++
        (checksum f.magic f.version payload ++ ([0, 0, 0, 0] ++ rest)))) := by
  simp [header, preamble]

theorem magic_header : wordAt (f.header payload ++ rest) 0 4 = f.magic.toNat := by
  rw [wordAt, header_append, Bytes.slice_append_left _ _ _ (by simp),
    Bytes.fromLittleEndian_littleEndian]
  exact Nat.mod_eq_of_lt f.magic.toNat_lt

theorem version_header : wordAt (f.header payload ++ rest) 4 2 = f.version.toNat := by
  rw [wordAt, header_append]
  simp [Bytes.slice_append_right, Bytes.slice_append_left, Bytes.fromLittleEndian_littleEndian]

theorem length_field_header :
    wordAt (f.header payload ++ rest) 6 2 = payload.length % 256 ^ 2 := by
  rw [wordAt, header_append]
  simp [Bytes.slice_append_right, Bytes.slice_append_left, Bytes.fromLittleEndian_littleEndian]

theorem checksum_header :
    Bytes.slice (f.header payload ++ rest) 8 4 = checksum f.magic f.version payload := by
  rw [header_append]
  simp [Bytes.slice_append_right, Bytes.slice_append_left]

theorem reserved_header : Bytes.slice (f.header payload ++ rest) 12 4 = [0, 0, 0, 0] := by
  rw [header, List.append_assoc, Bytes.slice_append_right _ _ _ _ (by simp [preamble])]
  simp [preamble, Bytes.slice]

theorem payload_header (len : Nat) :
    Bytes.slice (f.header payload ++ rest) headerLength len = rest.take len := by
  rw [Bytes.slice_append_right _ _ _ _ (by simp), length_header, Nat.sub_self]
  rfl

theorem decode_header_append (small : payload.length < 256 ^ 2)
    (fits : headerLength + payload.length ≤ f.region) (there : payload.length ≤ rest.length) :
    f.decode (f.header payload ++ rest) =
      if checksum f.magic f.version payload ≠
          checksum f.magic f.version (rest.take payload.length) then .error .checksumMismatch
      else
        match f.codec.decode (rest.take payload.length) with
        | some value => .ok value
        | none => .error .undecodable := by
  have size : (f.header payload ++ rest).length = headerLength + rest.length := by simp
  have whole : ¬(f.header payload ++ rest).length < headerLength := by omega
  have length : wordAt (f.header payload ++ rest) 6 2 = payload.length := by
    rw [length_field_header, Nat.mod_eq_of_lt small]
  have room : ¬min (f.header payload ++ rest).length f.region <
      headerLength + payload.length := by omega
  rw [decode, if_neg whole]
  cases found : f.codec.decode (rest.take payload.length) <;>
    simp only [magic_header, version_header, length, if_neg room, payload_header, checksum_header,
      Nat.toUInt32_eq, UInt32.ofNat_toNat, Nat.toUInt16_eq, UInt16.ofNat_toNat, ne_eq,
      not_true_eq_false, if_false, found]

end Fields

theorem decode_image_append {f : RecordFormat α} (sound : f.Sound) (value : α) (rest : Bytes) :
    f.decode (f.image value ++ rest) = .ok value := by
  have fits := (Nat.le_min.mp (sound.fits value)).1
  rw [image_eq, List.append_assoc,
    decode_header_append f _ _ (sound.payload_lt value) fits (by simp)]
  simp [(sound.roundTrips value).decode]

/-- Whatever stands behind an image, it is read back as its value. -/
theorem decode_of_prefix {f : RecordFormat α} (sound : f.Sound) {value : α} {bytes : Bytes}
    (starts : f.image value <+: bytes) : f.decode bytes = .ok value := by
  obtain ⟨rest, rfl⟩ := starts
  exact decode_image_append sound value rest

/-- Every value has a stored form, and only the room for it decides whether it is written. -/
structure Lossless (f : RecordFormat α) : Prop where
  restored : ∀ value, ∃ image, f.encode value = .ok image ∧
    image.length = headerLength + (f.codec.write value).length ∧ image.length ≤ f.region ∧
    Bytes.slice image 12 4 = [0, 0, 0, 0] ∧ ∀ rest, f.decode (image ++ rest) = .ok value
  room : ∀ value space, f.encode value space =
    if headerLength + (f.codec.write value).length ≤ min f.region space then f.encode value
    else .error .recordTooLarge

theorem Sound.lossless {f : RecordFormat α} (sound : f.Sound) : f.Lossless where
  restored value := ⟨f.image value, encode_eq_image sound value, length_image f value,
    sound.length_image_le value, reserved_header f _ _, decode_image_append sound value⟩
  room value space := by
    rw [encode_eq_image sound]
    rfl

end RecordFormat

section Kinds

open Codec RecordFormat

theorem SystemStatus.format_sound : SystemStatus.format.Sound where
  roundTrips s := by
    change SystemStatus.codec.RoundTrips s
    unfold SystemStatus.codec
    refine RoundTrips.convert ?_ ?_
    · exact (byte_roundTrips _).pair <| (flag_roundTrips _).pair <| (flag_roundTrips _).pair <|
        (flag_roundTrips _).pair <| (byte_roundTrips _).pair <| (byte_roundTrips _).pair <|
        (byte_roundTrips _).pair <| (int64_roundTrips _).pair <| (int64_roundTrips _).pair <|
        (int64_roundTrips _).pair <| (word16_roundTrips _).pair <| (single_roundTrips _).pair <|
        (int32_roundTrips _).pair (int32_roundTrips _)
    · rfl
  fits s := by
    have report := length_write_int64_le s.lastReportTime
    have connection := length_write_int64_le s.lastConnectionTime
    have hook := length_write_int64_le s.lastHookResponseTime
    have duration := length_write_word16_le s.lastConnectionDurationSec
    have full := length_write_int32_le s.trashFullInches
    have empty := length_write_int32_le s.trashEmptyInches
    rw [show min SystemStatus.format.region greatestLength = 100 from rfl]
    simp only [SystemStatus.format, SystemStatus.codec, Codec.convert, Codec.refine, Codec.pair,
      List.length_append, length_write_byte, length_write_flag, length_write_single, headerLength]
    simp only [← Nat.add_assoc, Nat.reduceAdd]
    omega

theorem LidOrientation.mem_all (lid : LidOrientation) : lid ∈ LidOrientation.all := by
  cases lid <;> decide

theorem CurrentReading.format_sound : CurrentReading.format.Sound where
  roundTrips r := by
    change CurrentReading.codec.RoundTrips r
    unfold CurrentReading.codec
    refine RoundTrips.convert ?_ ?_
    · have lid := choice_roundTrips LidOrientation.all r.lid r.lid.mem_all (by decide)
      exact (int32_roundTrips _).pair <| (single_roundTrips _).pair <|
        (int64_roundTrips _).pair <| (flag_roundTrips _).pair <| (single_roundTrips _).pair <|
        lid.pair <| (byte_roundTrips _).pair (single_roundTrips _)
    · rfl
  fits r := by
    have height := length_write_int32_le r.heightInches
    have time := length_write_int64_le r.lastMeasureTime
    have lid := length_write_choice_le LidOrientation.all r.lid (by decide)
    rw [show min CurrentReading.format.region greatestLength = 64 from rfl]
    simp only [CurrentReading.format, CurrentReading.codec, Codec.convert, Codec.refine, Codec.pair,
      List.length_append, length_write_byte, length_write_flag, length_write_single, headerLength]
    simp only [← Nat.add_assoc, Nat.reduceAdd]
    omega

/-- Each value of either kind, whatever its numbers and bit patterns, is encoded within its region and
decoded to itself, whatever bytes follow; a space too small for it is refused. -/
theorem records_lossless : SystemStatus.format.Lossless ∧ CurrentReading.format.Lossless :=
  ⟨SystemStatus.format_sound.lossless, CurrentReading.format_sound.lossless⟩

end Kinds

end BinMonitor
