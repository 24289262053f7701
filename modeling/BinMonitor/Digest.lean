import BinMonitor.Bytes.Word

/-! The SHA-256 digest. The message schedule is a window of sixteen words that moves on by one
word a round. -/

namespace BinMonitor.Digest

/-- The eight chaining words. -/
structure Chain where
  a : UInt32
  b : UInt32
  c : UInt32
  d : UInt32
  e : UInt32
  f : UInt32
  g : UInt32
  h : UInt32

def Chain.words (s : Chain) : List UInt32 := [s.a, s.b, s.c, s.d, s.e, s.f, s.g, s.h]

def Chain.add (s t : Chain) : Chain :=
  ⟨s.a + t.a, s.b + t.b, s.c + t.c, s.d + t.d, s.e + t.e, s.f + t.f, s.g + t.g, s.h + t.h⟩

def initial : Chain :=
  ⟨0x6a09e667, 0xbb67ae85, 0x3c6ef372, 0xa54ff53a, 0x510e527f, 0x9b05688c, 0x1f83d9ab, 0x5be0cd19⟩

/-- The round constants, one for each of the sixty-four rounds. -/
def constants : List UInt32 :=
  [0x428a2f98, 0x71374491, 0xb5c0fbcf, 0xe9b5dba5, 0x3956c25b, 0x59f111f1, 0x923f82a4, 0xab1c5ed5,
   0xd807aa98, 0x12835b01, 0x243185be, 0x550c7dc3, 0x72be5d74, 0x80deb1fe, 0x9bdc06a7, 0xc19bf174,
   0xe49b69c1, 0xefbe4786, 0x0fc19dc6, 0x240ca1cc, 0x2de92c6f, 0x4a7484aa, 0x5cb0a9dc, 0x76f988da,
   0x983e5152, 0xa831c66d, 0xb00327c8, 0xbf597fc7, 0xc6e00bf3, 0xd5a79147, 0x06ca6351, 0x14292967,
   0x27b70a85, 0x2e1b2138, 0x4d2c6dfc, 0x53380d13, 0x650a7354, 0x766a0abb, 0x81c2c92e, 0x92722c85,
   0xa2bfe8a1, 0xa81a664b, 0xc24b8b70, 0xc76c51a3, 0xd192e819, 0xd6990624, 0xf40e3585, 0x106aa070,
   0x19a4c116, 0x1e376c08, 0x2748774c, 0x34b0bcb5, 0x391c0cb3, 0x4ed8aa4a, 0x5b9cca4f, 0x682e6ff3,
   0x748f82ee, 0x78a5636f, 0x84c87814, 0x8cc70208, 0x90befffa, 0xa4506ceb, 0xbef9a3f7, 0xc67178f2]

def rotate (x n : UInt32) : UInt32 := (x >>> n) ||| (x <<< (32 - n))

def mix (x : UInt32) (r s t : UInt32) : UInt32 := rotate x r ^^^ rotate x s ^^^ rotate x t

def smear (x : UInt32) (r s t : UInt32) : UInt32 := rotate x r ^^^ rotate x s ^^^ (x >>> t)

def round (s : Chain) (k w : UInt32) : Chain :=
  let choice := (s.e &&& s.f) ^^^ (~~~s.e &&& s.g)
  let majority := (s.a &&& s.b) ^^^ (s.a &&& s.c) ^^^ (s.b &&& s.c)
  let first := s.h + mix s.e 6 11 25 + choice + k + w
  ⟨first + mix s.a 2 13 22 + majority, s.a, s.b, s.c, s.d + first, s.e, s.f, s.g⟩

/-- Drops the word that was just used and appends the one sixteen places after it. -/
def advance (window : List UInt32) : List UInt32 :=
  let word (i : Nat) := window.getD i 0
  window.drop 1 ++ [word 0 + smear (word 1) 7 18 3 + word 9 + smear (word 14) 17 19 10]

def rounds : List UInt32 → Chain → List UInt32 → Chain
  | [], s, _ => s
  | k :: rest, s, window => rounds rest (round s k (window.headD 0)) (advance window)

/-- A block of sixty-four bytes as sixteen words. -/
def schedule (block : Bytes) : List UInt32 :=
  (List.range 16).map fun i => (Bytes.fromBigEndian (Bytes.slice block (4 * i) 4)).toUInt32

def compress (s : Chain) (block : Bytes) : Chain := s.add (rounds constants s (schedule block))

/-- The message, a one bit, zeros, and the length in bits, filling whole blocks. -/
def pad (message : Bytes) : Bytes :=
  message ++ 0x80 :: List.replicate ((119 - message.length % 64) % 64) 0
    ++ Bytes.bigEndian 8 (8 * message.length)

def blocks (padded : Bytes) : List Bytes :=
  (List.range (padded.length / 64)).map fun i => Bytes.slice padded (64 * i) 64

def sha256 (message : Bytes) : Bytes :=
  ((blocks (pad message)).foldl compress initial).words.flatMap fun w => Bytes.bigEndian 4 w.toNat

end BinMonitor.Digest
