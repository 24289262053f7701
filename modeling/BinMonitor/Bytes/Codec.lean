import BinMonitor.Bytes.Varint
import BinMonitor.Numeric.Single

/-! Compact binary layouts. A codec writes a value and reads one from the start of some bytes,
leaving the rest; pairs are written one after the other. -/

namespace BinMonitor

structure Codec (α : Type) where
  write : α → Bytes
  read : Bytes → Option (α × Bytes)

namespace Codec

variable {α β : Type}

/-- Reads a value and forgets whatever follows it. -/
def decode (c : Codec α) (bytes : Bytes) : Option α := (c.read bytes).map (·.1)

/-- Every value of `α` has a form in `β`; some forms stand for no value. -/
def refine (c : Codec β) (form : α → β) (value : β → Option α) : Codec α where
  write a := c.write (form a)
  read bytes := (c.read bytes).bind fun (b, rest) => (value b).map (·, rest)

def convert (c : Codec β) (form : α → β) (value : β → α) : Codec α :=
  c.refine form fun b => some (value b)

def pair (first : Codec α) (second : Codec β) : Codec (α × β) where
  write p := first.write p.1 ++ second.write p.2
  read bytes := (first.read bytes).bind fun (a, rest) =>
    (second.read rest).map fun (b, rest) => ((a, b), rest)

def byte : Codec UInt8 where
  write b := [b]
  read
    | [] => none
    | b :: rest => some (b, rest)

/-- One byte, 0 or 1. -/
def flag : Codec Bool :=
  byte.refine (fun b => if b then 1 else 0) fun b =>
    if b = 0 then some false else if b = 1 then some true else none

/-- A number below `2 ^ width`. -/
def natural (width : Nat) : Codec Nat where
  write := Bytes.varint
  read := Bytes.takeWidth width

def word16 : Codec UInt16 := (natural 16).convert UInt16.toNat Nat.toUInt16

def word32 : Codec UInt32 := (natural 32).convert UInt32.toNat Nat.toUInt32

def word64 : Codec UInt64 := (natural 64).convert UInt64.toNat Nat.toUInt64

def int32 : Codec Int32 :=
  (natural 32).convert (fun n => Bytes.zigzag n.toInt) fun n => Int32.ofInt (Bytes.unzigzag n)

def int64 : Codec Int64 :=
  (natural 64).convert (fun n => Bytes.zigzag n.toInt) fun n => Int64.ofInt (Bytes.unzigzag n)

/-- The bit pattern in four bytes, lowest first. -/
def single : Codec Single where
  write x := Bytes.littleEndian 4 x.bits.toNat
  read bytes :=
    if bytes.length < 4 then none
    else some (⟨(Bytes.fromLittleEndian (bytes.take 4)).toUInt32⟩, bytes.drop 4)

/-- One of a list of choices, by its position. -/
def choice [BEq α] (choices : List α) : Codec α :=
  (natural 32).refine (fun a => choices.idxOf a) fun n => choices[n]?

end Codec

end BinMonitor
