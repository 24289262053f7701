import BinMonitor.Controller.Event

/-! A device at work, with every call that was made on it and every event told since the session
began, both in order. A look at the link before a stop is noted as well, since whether the stop
is safe depends on it. -/

namespace BinMonitor

inductive Call where
  | read (offset len : Nat)
  | write (offset : Nat) (data : Bytes)
  | beginSensors
  | measure (previous : Measurement) (calibration : Calibration)
  | connect
  | link (connected radioReady : Bool)
  | disconnect (released : Bool)
  | sleep (request : SleepRequest)
  | reset
  | powerDown (seconds : UInt32)
  | feedWatchdog
  | pauseWatchdog
  | resumeWatchdog
  | enqueue (report : Report)
  | serviceQueue

structure Session (σ : Type) where
  device : σ
  calls : List Call := []
  events : List Event := []

namespace Session

variable {σ : Type}

/-- The session after a call that left the device as given. -/
def called (s : Session σ) (call : Call) (device : σ) : Session σ :=
  { s with device, calls := s.calls ++ [call] }

def tell (s : Session σ) (event : Event) : Session σ := { s with events := s.events ++ [event] }

instance [Memory σ] : Memory (Session σ) where
  read s offset len :=
    let (answer, device) := Memory.read s.device offset len
    (answer, s.called (.read offset len) device)
  write s offset data :=
    let (answer, device) := Memory.write s.device offset data
    (answer, s.called (.write offset data) device)
  capacity s := Memory.capacity s.device

variable [Device σ]

def beginSensors (s : Session σ) : Except SensorError Unit × Session σ :=
  let (answer, device) := Gauge.beginSensors s.device
  (answer, s.called .beginSensors device)

def measure (s : Session σ) (previous : Measurement) (calibration : Calibration) :
    Measurement × Session σ :=
  let (answer, device) := Gauge.measure s.device previous calibration
  (answer, s.called (.measure previous calibration) device)

def connect (s : Session σ) : Session σ := s.called .connect (Device.connect s.device)

/-- Whether anything of the network is up. -/
def linkUp (s : Session σ) : Bool × Session σ :=
  let connected := Device.connected s.device
  let ready := Device.radioReady s.device
  (connected || ready, s.called (.link connected ready) s.device)

def disconnect (s : Session σ) : Bool × Session σ :=
  let (released, device) := Device.disconnect s.device
  (released, s.called (.disconnect released) device)

def sleep (s : Session σ) (request : SleepRequest) : WakeReason × Session σ :=
  let (reason, device) := Device.sleep s.device request
  (reason, s.called (.sleep request) device)

def reset (s : Session σ) : Session σ := s.called .reset (Device.reset s.device)

def powerDown (s : Session σ) (seconds : UInt32) : Session σ :=
  s.called (.powerDown seconds) (Device.powerDown s.device seconds)

def feedWatchdog (s : Session σ) : Session σ :=
  s.called .feedWatchdog (Device.feedWatchdog s.device)

def pauseWatchdog (s : Session σ) : Session σ :=
  s.called .pauseWatchdog (Device.pauseWatchdog s.device)

def resumeWatchdog (s : Session σ) : Session σ :=
  s.called .resumeWatchdog (Device.resumeWatchdog s.device)

def enqueue (s : Session σ) (report : Report) : Except TelemetryError Unit × Session σ :=
  let (answer, device) := Device.enqueue s.device report
  (answer, s.called (.enqueue report) device)

def serviceQueue (s : Session σ) : Session σ :=
  s.called .serviceQueue (Device.serviceQueue s.device)

end Session

end BinMonitor
