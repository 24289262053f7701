import BinMonitor.Proofs.RecordImage

/-! Images that came to harm. Decoding goes by the length of an image and its first eight bytes, and where
these admit a payload, by that payload and the checksum in front of it; nothing else in the image matters.
The checksum is over magic word, version, length and payload. So an image with the checksum of a value is
refused or decoded to that value, unless its payload is another one with the same checksum. -/

namespace BinMonitor

namespace RecordFormat

variable {α : Type} (f : RecordFormat α)

def announced (image : Bytes) : Nat := wordAt image 6 2

def payload (image : Bytes) : Bytes := Bytes.slice image headerLength (announced image)

def admitted (image : Bytes) : Except Corruption Nat :=
  if image.length < headerLength then .error (.badLength image.length.toUInt16)
  else if (wordAt image 0 4).toUInt32 ≠ f.magic then
    .error (.magicMismatch (wordAt image 0 4).toUInt32)
  else if (wordAt image 4 2).toUInt16 ≠ f.version then
    .error (.versionMismatch (wordAt image 4 2).toUInt16)
  else if min image.length f.region < headerLength + announced image then
    .error (.badLength (announced image).toUInt16)
  else .ok (announced image)

def opened (sum payload : Bytes) : Except Corruption α :=
  if sum ≠ checksum f.magic f.version payload then .error .checksumMismatch
  else
    match f.codec.decode payload with
    | some value => .ok value
    | none => .error .undecodable

theorem decode_eq (image : Bytes) : f.decode image =
    match f.admitted image with
    | .error why => .error why
    | .ok length => f.opened (Bytes.slice image 8 4) (Bytes.slice image headerLength length) := by
  unfold decode admitted announced
  dsimp only
  split
  · rfl
  · split
    · rfl
    · rename_i magic
      split
      · rfl
      · rename_i version
        split
        · rfl
        · rw [Decidable.not_not.mp magic, Decidable.not_not.mp version]
          rfl

/-- A header of the format with its payload behind it, neither past the end nor past the region. -/
structure Admits (image : Bytes) : Prop where
  magic : Bytes.slice image 0 4 = Bytes.littleEndian 4 f.magic.toNat
  version : Bytes.slice image 4 2 = Bytes.littleEndian 2 f.version.toNat
  inside : headerLength + announced image ≤ min image.length f.region

section Admission

variable {f} {image found other : Bytes}

theorem wordAt_lt {offset width : Nat} : wordAt image offset width < 256 ^ width := by
  apply Nat.lt_of_lt_of_le (Bytes.fromLittleEndian_lt _)
  exact Nat.pow_le_pow_right (by decide) (List.length_take_le _ _)

theorem littleEndian_wordAt {offset width : Nat} (there : offset + width ≤ image.length) :
    Bytes.littleEndian width (wordAt image offset width) = Bytes.slice image offset width := by
  have size : (Bytes.slice image offset width).length = width := by
    rw [Bytes.length_slice]
    omega
  have bytes := Bytes.littleEndian_fromLittleEndian (Bytes.slice image offset width)
  rwa [size] at bytes

theorem admits_of_ok {length : Nat} (admitted : f.admitted image = .ok length) :
    f.Admits image ∧ length = announced image := by
  unfold RecordFormat.admitted at admitted
  split at admitted
  · cases admitted
  rename_i whole
  have whole : 16 ≤ image.length := Nat.le_of_not_lt whole
  split at admitted
  · cases admitted
  rename_i magic
  split at admitted
  · cases admitted
  rename_i version
  split at admitted
  · cases admitted
  rename_i inside
  cases admitted
  have magic : wordAt image 0 4 = f.magic.toNat := by
    rw [← Decidable.not_not.mp magic, Nat.toUInt32_eq, UInt32.toNat_ofNat']
    exact (Nat.mod_eq_of_lt wordAt_lt).symm
  have version : wordAt image 4 2 = f.version.toNat := by
    rw [← Decidable.not_not.mp version, Nat.toUInt16_eq, UInt16.toNat_ofNat']
    exact (Nat.mod_eq_of_lt wordAt_lt).symm
  refine ⟨⟨?_, ?_, Nat.le_of_not_lt inside⟩, rfl⟩
  · rw [← magic, littleEndian_wordAt (by omega)]
  · rw [← version, littleEndian_wordAt (by omega)]

theorem admitted_congr (front : other.take 8 = found.take 8)
    (short : other.length < headerLength ∨ found.length < headerLength →
      other.length = found.length)
    (room : min other.length f.region < headerLength + announced found ↔
      min found.length f.region < headerLength + announced found) :
    f.admitted other = f.admitted found := by
  have word (offset width : Nat) (within : offset + width ≤ 8) :
      wordAt other offset width = wordAt found offset width := by
    rw [wordAt, wordAt, Bytes.slice_of_take front within]
  have announces : announced other = announced found := word 6 2 (by decide)
  unfold RecordFormat.admitted
  rw [word 0 4 (by decide), word 4 2 (by decide), announces]
  simp only [room]
  by_cases cut : other.length < headerLength ∨ found.length < headerLength
  · rw [short cut]
  · obtain ⟨long, long'⟩ := not_or.mp cut
    rw [if_neg long, if_neg long']

theorem decode_admitted {length : Nat} (admitted : f.admitted image = .ok length) :
    f.decode image = f.opened (Bytes.slice image 8 4) (payload image) := by
  rw [decode_eq, admitted, (admits_of_ok admitted).2]
  rfl

theorem opened_eq_ok {sum payload : Bytes} {value : α} : f.opened sum payload = .ok value ↔
    sum = checksum f.magic f.version payload ∧ f.codec.decode payload = some value := by
  unfold opened
  split
  · rename_i other
    simp [other]
  · rename_i same
    rw [Decidable.not_not.mp same]
    cases f.codec.decode payload <;> simp

theorem decode_eq_ok {value : α} (decoded : f.decode image = .ok value) :
    f.Admits image ∧ Bytes.slice image 8 4 = checksum f.magic f.version (payload image) ∧
      f.codec.decode (payload image) = some value := by
  cases admitted : f.admitted image with
  | error why =>
    rw [decode_eq, admitted] at decoded
    cases decoded
  | ok length =>
    rw [decode_admitted admitted] at decoded
    exact ⟨(admits_of_ok admitted).1, opened_eq_ok.mp decoded⟩

theorem decode_congr (admitted : f.admitted other = f.admitted found)
    (sum : Bytes.slice other 8 4 = Bytes.slice found 8 4)
    (same : ∀ length, f.admitted found = .ok length →
      Bytes.slice other headerLength length = Bytes.slice found headerLength length) :
    f.decode other = f.decode found := by
  rw [decode_eq, decode_eq, admitted, sum]
  cases room : f.admitted found with
  | error why => rfl
  | ok length => exact congrArg (f.opened _) (same length room)

end Admission

/-- What an image guards its value against. -/
structure Guards (value : α) (image : Bytes) : Prop where
  /-- Its checksum lets only its own payload pass, or another one with this checksum. -/
  sum : ∀ found, Bytes.slice found 8 4 = Bytes.slice image 8 4 →
    (∃ why, f.decode found = .error why) ∨ f.decode found = .ok value ∨
    ∃ other, f.decode found = .ok other ∧ payload found ≠ payload image ∧
      checksum f.magic f.version (payload found) = checksum f.magic f.version (payload image)
  /-- Another magic word or another version is refused. -/
  kind : ∀ found, Bytes.slice found 0 4 ≠ Bytes.slice image 0 4 ∨
    Bytes.slice found 4 2 ≠ Bytes.slice image 4 2 → ∃ why, f.decode found = .error why

/-- Damage to images is noticed, and what decoding does not have to look at cannot mislead it. -/
structure DetectsDamage : Prop where
  /-- Unharmed, the image of a value gives it back. -/
  guarded : ∀ value, ∃ image, f.encode value = .ok image ∧ f.decode image = .ok value ∧
    payload image = f.codec.write value ∧ f.Guards value image
  /-- A payload that would end past the image or past the region is refused, whatever stands behind the
  length. -/
  overlong : ∀ found, min found.length f.region < headerLength + announced found →
    ∃ why, ∀ other, other.length = found.length → other.take 8 = found.take 8 →
      f.decode other = .error why
  /-- What stands past the region is not looked at. -/
  region : ∀ found, f.decode (found.take f.region) = f.decode found
  /-- Nor is the reserved word. -/
  reserved : ∀ found other, other.length = found.length → other.take 12 = found.take 12 →
    other.drop 16 = found.drop 16 → f.decode other = f.decode found
  /-- Nor is what stands behind the payload. -/
  tail : ∀ found rest, headerLength + announced found ≤ found.length →
    f.decode (found.take (headerLength + announced found) ++ rest) = f.decode found

section Damage

variable {f} {found : Bytes}

theorem payload_image (sound : f.Sound) (value : α) :
    payload (f.image value) = f.codec.write value := by
  rw [payload, announced, image_eq, length_field_header, Nat.mod_eq_of_lt (sound.payload_lt value),
    payload_header, List.take_length]

theorem guards_of_decode {value : α} {image : Bytes} (decoded : f.decode image = .ok value) :
    f.Guards value image := by
  obtain ⟨admits, sum, -⟩ := decode_eq_ok decoded
  constructor
  · intro found same
    cases result : f.decode found with
    | error why => exact .inl ⟨why, rfl⟩
    | ok other =>
      obtain ⟨-, matched, read⟩ := decode_eq_ok result
      right
      by_cases unharmed : payload found = payload image
      · left
        obtain ⟨-, -, written⟩ := decode_eq_ok decoded
        rw [unharmed, written] at read
        rw [Option.some.inj read]
      · exact .inr ⟨other, rfl, unharmed, by rw [← matched, same, sum]⟩
  · intro found changed
    cases result : f.decode found with
    | error why => exact ⟨why, rfl⟩
    | ok other =>
      obtain ⟨read, -⟩ := decode_eq_ok result
      rcases changed with magic | version
      · exact absurd (read.magic.trans admits.magic.symm) magic
      · exact absurd (read.version.trans admits.version.symm) version

theorem decode_overlong (overlong : min found.length f.region < headerLength + announced found) :
    ∃ why, ∀ other, other.length = found.length → other.take 8 = found.take 8 →
      f.decode other = .error why := by
  cases admitted : f.admitted found with
  | error why =>
    refine ⟨why, fun other size front => ?_⟩
    rw [decode_eq, admitted_congr front (fun _ => size) (by rw [size]), admitted]
  | ok length => exact absurd (admits_of_ok admitted).1.inside (Nat.not_le_of_lt overlong)

theorem decode_take_region (room : headerLength ≤ f.region) :
    f.decode (found.take f.region) = f.decode found := by
  have size : (found.take f.region).length = min f.region found.length := List.length_take
  rw [headerLength] at room
  apply decode_congr
  · apply admitted_congr
    · rw [List.take_take, Nat.min_eq_left (by omega)]
    · rw [headerLength]
      omega
    · rw [size]
      omega
  · exact Bytes.slice_take found (by omega)
  · intro length admitted
    obtain ⟨admits, rfl⟩ := admits_of_ok admitted
    exact Bytes.slice_take found (Nat.le_min.mp admits.inside).2

theorem decode_reserved {other : Bytes} (size : other.length = found.length)
    (front : other.take 12 = found.take 12) (back : other.drop 16 = found.drop 16) :
    f.decode other = f.decode found := by
  apply decode_congr
  · exact admitted_congr (Bytes.take_of_take front (by decide)) (fun _ => size) (by rw [size])
  · exact Bytes.slice_of_take front (by decide)
  · intro length _
    rw [Bytes.slice, Bytes.slice, headerLength, back]

theorem decode_tail (rest : Bytes) (there : headerLength + announced found ≤ found.length) :
    f.decode (found.take (headerLength + announced found) ++ rest) = f.decode found := by
  have size : (found.take (headerLength + announced found)).length =
      headerLength + announced found := List.length_take_of_le there
  have front : (found.take (headerLength + announced found) ++ rest).take
      (headerLength + announced found) = found.take (headerLength + announced found) :=
    List.take_left' size
  have longer : headerLength + announced found ≤
      (found.take (headerLength + announced found) ++ rest).length := by
    rw [List.length_append, size]
    exact Nat.le_add_right _ _
  have whole : headerLength = 16 := rfl
  apply decode_congr
  · apply admitted_congr (Bytes.take_of_take front (by omega))
    · omega
    · omega
  · exact Bytes.slice_of_take front (by omega)
  · intro length admitted
    obtain ⟨-, rfl⟩ := admits_of_ok admitted
    exact Bytes.slice_of_take front (Nat.le_refl _)

theorem Sound.detectsDamage (sound : f.Sound) (room : headerLength ≤ f.region) :
    f.DetectsDamage where
  guarded value := by
    have decoded := decode_image_append sound value []
    rw [List.append_nil] at decoded
    exact ⟨f.image value, encode_eq_image sound value, decoded, payload_image sound value,
      guards_of_decode decoded⟩
  overlong _ := decode_overlong
  region _ := decode_take_region room
  reserved _ _ := decode_reserved
  tail _ rest := decode_tail rest

end Damage

end RecordFormat

/-- Damage to the images of either kind is noticed up to a collision of checksums: what has the checksum of
a value is refused or decoded to that value, unless it holds another payload with this checksum. -/
theorem damage_noticed : SystemStatus.format.DetectsDamage ∧ CurrentReading.format.DetectsDamage :=
  ⟨SystemStatus.format_sound.detectsDamage (by decide),
    CurrentReading.format_sound.detectsDamage (by decide)⟩

def Bench.readAt (time : Int64) : CurrentReading where
  heightInches := 20
  lastMeasureTime := time
  lid := .unknown

/-- Two readings of different times that have one checksum: the image of the second is decoded to the
second, with the checksum of the first in front. -/
theorem damage_noticed_but_for_collision :
    let image := CurrentReading.format.image (Bench.readAt 1700045466)
    let found := CurrentReading.format.image (Bench.readAt 1700130449)
    Bytes.slice found 8 4 = Bytes.slice image 8 4 ∧
      CurrentReading.format.decode found = .ok (Bench.readAt 1700130449) ∧
      RecordFormat.payload found ≠ RecordFormat.payload image := by
  intro image found
  have same : Bytes.slice found 8 4 = Bytes.slice image 8 4 := by decide +kernel
  have read : CurrentReading.format.decode found = .ok (Bench.readAt 1700130449) :=
    RecordFormat.decode_of_prefix CurrentReading.format_sound (List.prefix_refl _)
  obtain ⟨encoded, written, -, -, guards⟩ := damage_noticed.2.guarded (Bench.readAt 1700045466)
  have whole : image = encoded := Except.ok.inj <|
    (RecordFormat.encode_eq_image CurrentReading.format_sound _).symm.trans written
  rw [← whole] at guards
  refine ⟨same, read, ?_⟩
  rcases guards.sum found same with ⟨why, refused⟩ | restored | ⟨-, -, other, -⟩
  · rw [read] at refused
    cases refused
  · rw [read] at restored
    exact absurd (Except.ok.inj restored) (by decide)
  · exact other

end BinMonitor
