import BinMonitor.Bench.ScriptedSensors
import BinMonitor.Bench.Wires
import BinMonitor.Controller.Session

/-! Traces: each call as a line, and calls that repeat folded into one line with their count. -/

namespace BinMonitor

def hexText (bytes : Bytes) : String :=
  String.ofList (bytes.flatMap fun b =>
    let digits := Nat.toDigits 16 b.toNat
    List.replicate (2 - digits.length) '0' ++ digits)

/-- The bit pattern, highest byte first; one mark for every NaN. -/
def Single.mark (x : Single) : String :=
  if x.isNaN then "nan" else hexText (Bytes.bigEndian 4 x.bits.toNat)

/-- A look at the link leaves no line. -/
def Call.line? : Call → Option String
  | read offset len => some s!"read {offset} {len}"
  | write offset data => some s!"write {offset} {data.length}"
  | beginSensors => some "begin_sensors"
  | measure m c =>
    some (s!"measure {m.heightInches} {m.percentFull.mark} {m.successfulReads}"
      ++ s!" {c.fullInches} {c.emptyInches}")
  | connect => some "connect"
  | link _ _ => none
  | disconnect _ => some "disconnect"
  | sleep r => some s!"sleep {r.seconds} {r.wakeOnUserSwitch} {r.wakeOnSensor}"
  | reset => some "reset"
  | powerDown seconds => some s!"power_down {seconds}"
  | feedWatchdog => some "feed"
  | pauseWatchdog => some "pause"
  | resumeWatchdog => some "resume"
  | enqueue _ => some "enqueue"
  | serviceQueue => some "service"

namespace Bench

def SensorCall.line : SensorCall → String
  | beginDistance => "begin"
  | powerOn => "power_on"
  | powerOff => "power_off"
  | start => "start"
  | stop => "stop"
  | clear => "clear"
  | region width height center => s!"roi {width} {height} {center}"
  | ready => "ready"
  | distance => "mm"
  | beginOrientation => "accel_begin"
  | sample => "sample"

def WireEvent.line : WireEvent → String
  | write address sent taken =>
    hexText [address] ++ " w" ++ hexText sent ++ (if taken then "" else " fail")
  | read address sent received =>
    hexText [address] ++ " w" ++ hexText sent ++ " r" ++ hexText received
  | readFailed address sent len => hexText [address] ++ " w" ++ hexText sent ++ s!" r?{len} fail"
  | enable high => if high then "xshut 1" else "xshut 0"

namespace Trace

def counted (line : String) (n : Nat) : String := if n = 1 then line else s!"{line} *{n}"

def foldFrom (line : String) (n : Nat) : List String → List String
  | [] => [counted line n]
  | next :: rest =>
    if next = line then foldFrom line (n + 1) rest else counted line n :: foldFrom next 1 rest

def folded : List String → List String
  | [] => []
  | line :: rest => foldFrom line 1 rest

end Trace

end Bench

end BinMonitor
