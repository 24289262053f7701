/-! What can go wrong, by the part it happens in, and how each is worded. -/

namespace BinMonitor

inductive StorageError where
  | outOfBounds
  | ioError
  | notPresent
  | recordTooLarge
deriving DecidableEq

def StorageError.all : List StorageError := [outOfBounds, ioError, notPresent, recordTooLarge]

def StorageError.name : StorageError → String
  | outOfBounds => "OutOfBounds"
  | ioError => "IoError"
  | notPresent => "NotPresent"
  | recordTooLarge => "RecordTooLarge"

def StorageError.text : StorageError → String
  | outOfBounds => "access out of bounds"
  | ioError => "I/O error"
  | notPresent => "device not present"
  | recordTooLarge => "record exceeds its region"

inductive SensorError where
  | initFailed
  | busError
  | timeout
  | outOfRange
deriving DecidableEq

def SensorError.all : List SensorError := [initFailed, busError, timeout, outOfRange]

def SensorError.name : SensorError → String
  | initFailed => "InitFailed"
  | busError => "BusError"
  | timeout => "Timeout"
  | outOfRange => "OutOfRange"

def SensorError.text : SensorError → String
  | initFailed => "initialisation failed"
  | busError => "bus error"
  | timeout => "data ready timeout"
  | outOfRange => "reading out of range"

inductive TelemetryError where
  | queueFull
  | encode
deriving DecidableEq

def TelemetryError.all : List TelemetryError := [queueFull, encode]

def TelemetryError.name : TelemetryError → String
  | queueFull => "QueueFull"
  | encode => "Encode"

def TelemetryError.text : TelemetryError → String
  | queueFull => "publish queue full"
  | encode => "payload encoding failed"

inductive CommandError where
  | validationFailed (why : String)
deriving DecidableEq

def CommandError.name : CommandError → String
  | validationFailed _ => "ValidationFailed"

def CommandError.text : CommandError → String
  | validationFailed why => "validation failed: " ++ why

/-- Any of the above, under the name of its part. -/
inductive Fault where
  | storage (error : StorageError)
  | sensor (error : SensorError)
  | telemetry (error : TelemetryError)
  | command (error : CommandError)
deriving DecidableEq

def Fault.name : Fault → String
  | storage _ => "Storage"
  | sensor _ => "Sensor"
  | telemetry _ => "Telemetry"
  | command _ => "Command"

def Fault.text : Fault → String
  | storage e => "storage: " ++ e.text
  | sensor e => "sensor: " ++ e.text
  | telemetry e => "telemetry: " ++ e.text
  | command e => "command: " ++ e.text

end BinMonitor
