/-! Alert codes and the action each calls for. Codes come in decades: device health, firmware
update, connectivity, cloud acknowledgement. Zero stands for no alert. -/

namespace BinMonitor

inductive AlertCode where
  | batteryTemperature
  | pmicReset
  | initFailure
  | excessiveResets
  | outOfMemory
  | disconnectFailed
  | updateCompleted
  | updateTimedOut
  | updateFailed
  | updateAttemptLimit
  | cloudConnectTimeout
  | radioConnectFailed
  | noAcknowledgement
deriving DecidableEq

namespace AlertCode

def raw : AlertCode → UInt8
  | batteryTemperature => 10
  | pmicReset => 11
  | initFailure => 12
  | excessiveResets => 13
  | outOfMemory => 14
  | disconnectFailed => 15
  | updateCompleted => 20
  | updateTimedOut => 21
  | updateFailed => 22
  | updateAttemptLimit => 23
  | cloudConnectTimeout => 30
  | radioConnectFailed => 31
  | noAcknowledgement => 40

def all : List AlertCode :=
  [batteryTemperature, pmicReset, initFailure, excessiveResets, outOfMemory, disconnectFailed,
   updateCompleted, updateTimedOut, updateFailed, updateAttemptLimit, cloudConnectTimeout,
   radioConnectFailed, noAcknowledgement]

def name : AlertCode → String
  | batteryTemperature => "BatteryTemperature"
  | pmicReset => "PmicReset"
  | initFailure => "InitFailure"
  | excessiveResets => "ExcessiveResets"
  | outOfMemory => "OutOfMemory"
  | disconnectFailed => "DisconnectFailed"
  | updateCompleted => "UpdateCompleted"
  | updateTimedOut => "UpdateTimedOut"
  | updateFailed => "UpdateFailed"
  | updateAttemptLimit => "UpdateAttemptLimit"
  | cloudConnectTimeout => "CloudConnectTimeout"
  | radioConnectFailed => "RadioConnectFailed"
  | noAcknowledgement => "NoAcknowledgement"

def ofRaw? (raw : UInt8) : Option AlertCode := all.find? fun code => code.raw == raw

def isConnectivity (code : AlertCode) : Bool :=
  code == cloudConnectTimeout || code == radioConnectFailed

def description : AlertCode → String
  | batteryTemperature => "battery temperature outside charge range"
  | pmicReset => "PMIC reset required"
  | initFailure => "initialisation error"
  | excessiveResets => "excessive resets"
  | outOfMemory => "out of memory"
  | disconnectFailed => "network release failed before sleep"
  | updateCompleted => "firmware update completed"
  | updateTimedOut => "firmware update timed out"
  | updateFailed => "firmware update failed"
  | updateAttemptLimit => "firmware update attempt limit"
  | cloudConnectTimeout => "cloud connect timed out"
  | radioConnectFailed => "radio connect failed"
  | noAcknowledgement => "no delivery acknowledgement"

def text (code : AlertCode) : String :=
  code.description ++ " (" ++ toString code.raw.toNat ++ ")"

end AlertCode

/-- What is done about an alert once the cooldown is over. -/
inductive AlertAction where
  | ignore
  | reconnect
  | reset
  | powerDown
deriving DecidableEq

def AlertAction.all : List AlertAction := [ignore, reconnect, reset, powerDown]

def AlertAction.name : AlertAction → String
  | ignore => "Ignore"
  | reconnect => "Reconnect"
  | reset => "Reset"
  | powerDown => "PowerDown"

namespace Alert

/-- The highest raw code a stored reading may carry. -/
def greatest : UInt8 := 49

def isValid (raw : UInt8) : Bool := decide (raw ≤ greatest)

def actionOf : AlertCode → AlertAction
  | .batteryTemperature | .pmicReset => .powerDown
  | .initFailure | .excessiveResets | .outOfMemory | .disconnectFailed => .reset
  | .updateCompleted | .updateAttemptLimit => .ignore
  | .updateTimedOut | .updateFailed | .cloudConnectTimeout | .radioConnectFailed
  | .noAcknowledgement => .reconnect

/-- A code that stands for nothing known restarts the device. -/
def resolve (raw : UInt8) : AlertAction :=
  if raw = 0 then .ignore else ((AlertCode.ofRaw? raw).map actionOf).getD .reset

end Alert

end BinMonitor
