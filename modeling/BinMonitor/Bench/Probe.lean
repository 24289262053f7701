import BinMonitor.Record.Format

/-! A small record to try the record formats on, in regions of different lengths. -/

namespace BinMonitor.Bench

structure Probe where
  counter : UInt32 := 7
  label : UInt8 := 1
deriving DecidableEq

namespace Probe

def flaw? (p : Probe) : Option String := if 10 < p.label then some "label above 10" else none

def format (region : Nat) : RecordFormat Probe where
  name := "probe"
  magic := 0xA5A50001
  version := 1
  offset := 8
  region := region
  saveDelayMs := 100
  defaults := {}
  codec := (Codec.word32.pair Codec.byte).convert (fun p => (p.counter, p.label)) fun
    (counter, label) => ⟨counter, label⟩
  same p q := decide (p = q)

def standard : RecordFormat Probe := format 40

/-- Too short for most values. -/
def tiny : RecordFormat Probe := format 18

/-- Too short for the header. -/
def none : RecordFormat Probe := format 12

/-- Longer than any record may be. -/
def wide : RecordFormat Probe := format 200

end Probe

end BinMonitor.Bench
