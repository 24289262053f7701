import BinMonitor.Controller.Device
import BinMonitor.Record.Format

/-! What the controller tells the outside, and the line each event leaves in the log. -/

namespace BinMonitor

open Lifecycle (State)

inductive Event where
  | started (target : State)
  | stateChanged (old new : State)
  | recordReinitialized (record : String) (why : Corruption)
  | alertRaised (code : UInt8)
  | alertResolved (code : UInt8) (action : AlertAction)
  | reportQueued (report : Report)
  | woke (requestedSecs : UInt32) (reason : WakeReason)
  | shuttingDown (powerDownSecs : Option UInt32)

inductive LogLevel where
  | info
  | warn
deriving DecidableEq

def LogLevel.name : LogLevel → String
  | info => "INFO"
  | warn => "WARN"

structure LogLine where
  level : LogLevel
  text : String
deriving DecidableEq

namespace Event

def flagText (b : Bool) : String := if b then "true" else "false"

def reportText (r : Report) : String :=
  "REPORT | height=" ++ toString r.heightInches.toInt ++ "in full=" ++ r.percentFull.fixed 0
    ++ "% emptied=" ++ flagText r.wasEmptied ++ " lid=" ++ toString r.lid.toNat
    ++ " batt=" ++ r.batteryVoltage.fixed 2 ++ "V temp=" ++ r.internalTempC.fixed 1
    ++ "°C alerts=" ++ toString r.alertCode.toNat
    ++ " connect=" ++ toString r.lastConnectionDurationSec.toNat ++ "s"

def logLine : Event → LogLine
  | started target => ⟨.info, "START | initial_state=" ++ target.name⟩
  | stateChanged old new => ⟨.info, "STATE | " ++ old.name ++ " -> " ++ new.name⟩
  | recordReinitialized record why =>
    ⟨.warn, "STORE | " ++ record ++ " reinitialised: " ++ why.text⟩
  | alertRaised code => ⟨.warn, "ALERT | raised code=" ++ toString code.toNat⟩
  | alertResolved code action =>
    ⟨.info, "ALERT | resolved code=" ++ toString code.toNat ++ " by " ++ action.name⟩
  | reportQueued r => ⟨.info, reportText r⟩
  | woke secs reason =>
    ⟨.info, "WAKE | " ++ reason.name ++ " (requested " ++ toString secs.toNat ++ "s)"⟩
  | shuttingDown (some secs) => ⟨.warn, "POWER | cutting power for " ++ toString secs.toNat ++ "s"⟩
  | shuttingDown none => ⟨.warn, "POWER | restarting"⟩

end Event

end BinMonitor
