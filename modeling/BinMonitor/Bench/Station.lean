import BinMonitor.Bench.ScriptedDevice
import BinMonitor.Bench.ScriptedUplink
import BinMonitor.Bench.Wires
import BinMonitor.Board.Basic
import BinMonitor.Controller.Cycle

/-! A controller wired to a simulated device whose time is moved by hand. -/

namespace BinMonitor.Bench

open Lifecycle (State)

class Simulated (σ : Type) extends Device σ where
  /-- The status of the latest delivery, if it has not been taken yet. -/
  takeAck : σ → Option UInt16 × σ
  advance : σ → (ms : Nat) → σ

instance : Simulated ScriptedDevice where
  takeAck d :=
    let (status, ack) := d.ack.take
    (status, { d with ack })
  advance d ms := { d with clock := d.clock.advance ms }

/-- The board with its parts on scripted wires and a scripted uplink. -/
abbrev BenchBoard := Board (Harness Wires) ScriptedUplink

instance : Simulated BenchBoard where
  takeAck := Board.takeAck
  advance b ms := { b with clock := b.clock.advance ms }

structure Station (σ : Type) where
  controller : Controller
  device : σ
  flags : InterruptFlags := {}
  calls : List Call := []
  events : List Event := []

namespace Station

variable {σ : Type} [Simulated σ]

def cycle (s : Station σ) : Cycle σ := ⟨s.controller, { device := s.device }⟩

/-- The station after an activation. -/
def after (s : Station σ) (c : Cycle σ) : Station σ :=
  { s with
    controller := c.controller
    device := c.session.device
    calls := s.calls ++ c.session.calls
    events := s.events ++ c.session.events }

/-- With nothing noted yet. -/
def cleared (s : Station σ) : Station σ := { s with calls := [], events := [] }

/-- Restarts the controller; the device and what is waiting for it stay. -/
def restart (s : Station σ) : Station σ :=
  { s with controller := .new s.controller.settings }

def boot (s : Station σ) : State × Station σ :=
  let (target, c) := s.cycle.boot
  (target, s.after c)

def tick (s : Station σ) (ms : Nat) : Station σ :=
  let (interrupts, flags) := s.flags.takeAll
  let (ack, device) := Simulated.takeAck (Simulated.advance s.device ms)
  let s := { s with flags, device }
  s.after (s.cycle.tick { interrupts, ack })

/-- So many ticks, the given time apart. -/
def run (s : Station σ) (ticks ms : Nat) : Station σ :=
  ticks.repeat (fun s => s.tick ms) s

def handle (s : Station σ) (command : Command) : Except CommandError Unit × Station σ :=
  let (answer, controller) := s.controller.handle command
  (answer, { s with controller })

end Station

end BinMonitor.Bench
