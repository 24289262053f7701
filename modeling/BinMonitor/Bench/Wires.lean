import BinMonitor.Board.Harness
import Std.Data.HashMap

/-! A scripted bus with its chips, the enable pin, and the analog inputs. Every transaction and
every change of the pin is noted. -/

namespace BinMonitor.Bench

/-- A chip with a pointer into its registers. A transaction first sets the pointer; data then
goes on from there, and the pointer wraps at sixteen bits. -/
structure Chip where
  address : UInt8
  pointerBytes : Nat
  /-- The part of the pointer's first byte that counts. -/
  pointerMask : Nat := 0xffff
  registers : Std.HashMap Nat UInt8 := {}
  pointer : Nat := 0
  /-- What successive reads from a register give instead; the last answer stays. -/
  scripts : List (Nat × List Bytes) := []
  dead : Bool := false

namespace Chip

def wrap (n : Nat) : Nat := n % 65536

def store (c : Chip) (start : Nat) (data : Bytes) : Chip :=
  { c with registers :=
      data.zipIdx.foldl (fun r (b, i) => r.insert (wrap (start + i)) b) c.registers }

def accept (c : Chip) (sent : Bytes) : Chip :=
  let start := Bytes.fromBigEndian (sent.take c.pointerBytes) &&& c.pointerMask
  let data := sent.drop c.pointerBytes
  { c.store start data with pointer := wrap (start + data.length) }

def script (c : Chip) (register : Nat) (answers : List Bytes) : Chip :=
  { c with scripts := (register, answers) :: c.scripts.filter (·.1 != register) }

def give (c : Chip) (len : Nat) : Bytes × Chip :=
  let moved := { c with pointer := wrap (c.pointer + len) }
  match c.scripts.lookup c.pointer with
  | some (answer :: rest) =>
    let padded := answer ++ List.replicate (len - answer.length) 0
    (padded.take len, if rest.isEmpty then moved else moved.script c.pointer rest)
  | _ => ((List.range len).map fun i => c.registers.getD (wrap (c.pointer + i)) 0, moved)

end Chip

inductive WireEvent where
  | write (address : UInt8) (sent : Bytes) (taken : Bool)
  | read (address : UInt8) (sent received : Bytes)
  | readFailed (address : UInt8) (sent : Bytes) (len : Nat)
  | enable (high : Bool)
deriving DecidableEq

structure Wires where
  chips : List Chip
  /-- Which of the transactions to come fail, counted from the next one. -/
  failing : List Nat := []
  pinFails : Bool := false
  voltage : Option Single := none
  count : Option UInt16 := none
  delayedMs : Nat := 0
  /-- The latest first. -/
  history : List WireEvent := []

namespace Wires

/-- The memory chip, the accelerometer and the distance sensor. -/
def standard : Wires where
  chips := [{ address := 0x50, pointerBytes := 2 }, { address := 0x29, pointerBytes := 2 },
    { address := 0x18, pointerBytes := 1, pointerMask := 0x7f }]

def note (w : Wires) (event : WireEvent) : Wires := { w with history := event :: w.history }

def change (w : Wires) (address : UInt8) (f : Chip → Chip) : Wires :=
  { w with chips := w.chips.map fun c => if c.address = address then f c else c }

/-- The chip that takes part in the next transaction, if it goes through. -/
def next (w : Wires) (address : UInt8) : Option Chip × Wires :=
  let chip := (w.chips.find? fun c => c.address == address).filter fun c =>
    !c.dead && !w.failing.contains 0
  (chip, { w with failing := (w.failing.filter (· != 0)).map (· - 1) })

instance : Bus Wires where
  write w address sent :=
    match w.next address with
    | (none, w) => (none, w.note (.write address sent false))
    | (some chip, w) =>
      (some (), (w.change address fun _ => chip.accept sent).note (.write address sent true))
  writeRead w address sent len :=
    match w.next address with
    | (none, w) => (none, w.note (.readFailed address sent len))
    | (some chip, w) =>
      let (received, chip) := (chip.accept sent).give len
      (some received, (w.change address fun _ => chip).note (.read address sent received))

instance : OutputPin Wires where
  set w high := (if w.pinFails then none else some (), w.note (.enable high))

instance : AnalogInputs Wires where
  batteryVoltage w := (w.voltage, w)
  temperatureCount w := (w.count, w)

instance : Delay Wires where
  delayMs w ms := { w with delayedMs := w.delayedMs + ms }

end Wires

end BinMonitor.Bench
