import BinMonitor.Bytes.Codec
import BinMonitor.Digest
import BinMonitor.Fault

/-! The stored form of a record: a header of sixteen bytes, then the payload. The header holds
the magic word, the version, the length of the payload, a checksum over all of these, and a
reserved word of zeros, all lowest byte first. -/

namespace BinMonitor

/-- One kind of record and its place in memory. -/
structure RecordFormat (α : Type) where
  name : String
  magic : UInt32
  version : UInt16
  /-- Where its region starts. -/
  offset : Nat
  /-- The length of the region, header included. -/
  region : Nat
  /-- How long a changed record has to stay quiet before it is written. -/
  saveDelayMs : Nat
  defaults : α
  codec : Codec α
  /-- Whether there is nothing new to write. -/
  same : α → α → Bool

/-- Why a stored image was rejected. -/
inductive Corruption where
  | unreadable (error : StorageError)
  | magicMismatch (found : UInt32)
  | versionMismatch (found : UInt16)
  | badLength (length : UInt16)
  | checksumMismatch
  | undecodable
  | invalid (why : String)
deriving DecidableEq

namespace Corruption

/-- Eight hexadecimal digits after a mark. -/
def hexWord (n : UInt32) : String :=
  let digits := Nat.toDigits 16 n.toNat
  "0x" ++ String.ofList (List.replicate (8 - digits.length) '0' ++ digits)

def name : Corruption → String
  | unreadable _ => "Unreadable"
  | magicMismatch _ => "MagicMismatch"
  | versionMismatch _ => "VersionMismatch"
  | badLength _ => "BadLength"
  | checksumMismatch => "ChecksumMismatch"
  | undecodable => "Undecodable"
  | invalid _ => "Invalid"

def text : Corruption → String
  | unreadable e => "unreadable: " ++ e.text
  | magicMismatch found => "magic mismatch (found " ++ hexWord found ++ ")"
  | versionMismatch found => "version mismatch (found " ++ toString found.toNat ++ ")"
  | badLength length => "bad payload length " ++ toString length.toNat
  | checksumMismatch => "checksum mismatch"
  | undecodable => "payload undecodable"
  | invalid why => "invalid: " ++ why

end Corruption

namespace RecordFormat

variable {α : Type}

def headerLength : Nat := 16

/-- No record is longer than this, whatever its region. -/
def greatestLength : Nat := 128

/-- The header up to the checksum. -/
def preamble (magic : UInt32) (version : UInt16) (length : Nat) : Bytes :=
  Bytes.littleEndian 4 magic.toNat ++ Bytes.littleEndian 2 version.toNat
    ++ Bytes.littleEndian 2 length

/-- The first four bytes of the digest of preamble and payload. -/
def checksum (magic : UInt32) (version : UInt16) (payload : Bytes) : Bytes :=
  (Digest.sha256 (preamble magic version payload.length ++ payload)).take 4

/-- Header and payload, if they fit both the region and `space` bytes. -/
def encode (f : RecordFormat α) (value : α) (space : Nat := greatestLength) :
    Except StorageError Bytes :=
  let payload := f.codec.write value
  if headerLength + payload.length ≤ min f.region space then
    .ok (preamble f.magic f.version payload.length ++ checksum f.magic f.version payload
      ++ [0, 0, 0, 0] ++ payload)
  else .error .recordTooLarge

def wordAt (image : Bytes) (offset width : Nat) : Nat :=
  Bytes.fromLittleEndian (Bytes.slice image offset width)

/-- The value in an image, or the first thing wrong with it. Bytes after the payload do not
matter. -/
def decode (f : RecordFormat α) (image : Bytes) : Except Corruption α :=
  if image.length < headerLength then .error (.badLength image.length.toUInt16)
  else
    let magic := (wordAt image 0 4).toUInt32
    let version := (wordAt image 4 2).toUInt16
    let length := wordAt image 6 2
    if magic ≠ f.magic then .error (.magicMismatch magic)
    else if version ≠ f.version then .error (.versionMismatch version)
    else if min image.length f.region < headerLength + length then
      .error (.badLength length.toUInt16)
    else
      let payload := Bytes.slice image headerLength length
      if Bytes.slice image 8 4 ≠ checksum magic version payload then .error .checksumMismatch
      else
        match f.codec.decode payload with
        | some value => .ok value
        | none => .error .undecodable

end RecordFormat

end BinMonitor
