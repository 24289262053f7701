import BinMonitor.Board.Image
import BinMonitor.Bus.Accelerometer
import BinMonitor.Bus.Fram
import BinMonitor.Bus.RangeFinder
import BinMonitor.Controller.Device
import BinMonitor.Measure.Pass

/-! The sensors and the record memory on their wires: chips on the shared bus, the enable pin of
the distance sensor, and two analog inputs. -/

namespace BinMonitor

class AnalogInputs (β : Type) where
  batteryVoltage : β → Option Single × β
  temperatureCount : β → Option UInt16 × β

class Delay (β : Type) where
  delayMs : β → Nat → β

/-- Records go to the memory chip where one is fitted, otherwise to an image. -/
inductive RecordMemory where
  | fram (chip : Fram)
  | image (image : Image)

structure Harness (β : Type) where
  wires : β
  memory : RecordMemory
  rangeFinder : RangeFinder := {}
  accelerometer : Accelerometer := {}
  distanceTimeoutMs : Nat

namespace Harness

variable {α β : Type}

/-- What an operation on the wires answers, and the harness after it. -/
def lift (h : Harness β) (answer : α × β) : α × Harness β :=
  (answer.1, { h with wires := answer.2 })

instance [Bus β] [OutputPin β] [AnalogInputs β] [Delay β] : Sensors (Harness β) where
  beginDistance h := h.lift (h.rangeFinder.start h.wires)
  powerOn h := { h with wires := h.rangeFinder.powerOn h.wires }
  powerOff h := { h with wires := h.rangeFinder.powerOff h.wires }
  startRanging h := h.lift (h.rangeFinder.startRanging h.wires)
  stopRanging h := h.lift (h.rangeFinder.stopRanging h.wires)
  clearInterrupt h := h.lift (h.rangeFinder.clearInterrupt h.wires)
  setRegion h width height center := h.lift (h.rangeFinder.setRegion h.wires width height center)
  dataReady h := h.lift (h.rangeFinder.dataReady h.wires)
  distanceMm h := h.lift (h.rangeFinder.distanceMm h.wires)
  beginOrientation h := h.lift (h.accelerometer.start h.wires)
  acceleration h := h.lift (h.accelerometer.sample h.wires)
  batteryVoltage h := h.lift (AnalogInputs.batteryVoltage h.wires)
  temperatureCount h := h.lift (AnalogInputs.temperatureCount h.wires)
  delayMs h ms := { h with wires := Delay.delayMs h.wires ms }

instance [Bus β] : Memory (Harness β) where
  read h offset len :=
    match h.memory with
    | .fram chip => h.lift (chip.read h.wires offset len)
    | .image image => (image.read offset len, h)
  write h offset data :=
    match h.memory with
    | .fram chip => h.lift (chip.write h.wires offset data)
    | .image image =>
      let (answer, image) := image.write offset data
      (answer, { h with memory := .image image })
  capacity h :=
    match h.memory with
    | .fram chip => chip.capacity
    | .image image => image.capacity

/-- A band that holds nothing leaves the measurement as it was; the controller never asks for
one, as it only knows the factory calibration. -/
instance [Sensors (Harness β)] : Gauge (Harness β) where
  beginSensors h := Measure.beginSensors h
  measure h previous calibration :=
    let (answer, h) := Measure.take h.distanceTimeoutMs previous calibration h
    (answer.getD previous, h)

end Harness

end BinMonitor
