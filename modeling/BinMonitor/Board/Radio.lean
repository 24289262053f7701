/-! The network radio. It comes up in two stages after an attempt begins: on the network, then
online. -/

namespace BinMonitor

inductive RadioError where
  | invalidSsid
  | invalidPassword
  | driver (code : Int32)
deriving DecidableEq

def RadioError.name : RadioError → String
  | invalidSsid => "InvalidSsid"
  | invalidPassword => "InvalidPassword"
  | driver _ => "Driver"

def RadioError.text : RadioError → String
  | invalidSsid => "SSID invalid (must be 1-32 printable ASCII bytes)"
  | invalidPassword => "password invalid (must be 8-64 bytes for WPA2, or empty for open)"
  | driver code => "radio driver error (rc=" ++ toString code.toInt ++ ")"

/-- What the radio was last told to do. -/
inductive LinkState where
  | off
  | connecting
  /-- It would not go off. -/
  | stuck
deriving DecidableEq

def LinkState.all : List LinkState := [off, connecting, stuck]

def LinkState.name : LinkState → String
  | off => "Off"
  | connecting => "Connecting"
  | stuck => "Stuck"

/-- How long after the start of an attempt each stage is reached; `none` for never. -/
structure Network where
  associateAfterMs : Option Nat := some 200
  onlineAfterMs : Option Nat := some 500
  refuseShutdown : Bool := false

structure Radio where
  network : Network
  state : LinkState := .off
  attemptStartedMs : Option Nat := none
  /-- The time by the radio's own clock. -/
  nowMs : Nat := 0

namespace Radio

def checkSsid (ssid : String) : Except RadioError Unit :=
  let printable := ssid.toList.all fun c => 0x20 ≤ c.toNat && c.toNat ≤ 0x7e
  if ssid.isEmpty || 32 < ssid.utf8ByteSize || !printable then .error .invalidSsid else .ok ()

/-- An open network has no password. -/
def checkPassword (password : String) : Except RadioError Unit :=
  let length := password.utf8ByteSize
  if length = 0 ∨ 8 ≤ length ∧ length ≤ 64 then .ok () else .error .invalidPassword

/-- From 0 at -100 dBm to 100 at -50 dBm. -/
def strengthPercent (dbm : Int8) : UInt8 := (max 0 (min ((dbm.toInt + 100) * 2) 100)).toNat.toUInt8

/-- The strength of any network that is there. -/
def receivedDbm : Int8 := -67

def reached (r : Radio) : Option Nat → Bool
  | none => false
  | some after => r.attemptStartedMs.any fun started => decide (after ≤ r.nowMs - started)

/-- An attempt that is under way is not started again. -/
def connect (r : Radio) : Radio :=
  if r.state = .connecting then r
  else { r with state := .connecting, attemptStartedMs := some r.nowMs }

def ready (r : Radio) : Bool := r.state == .connecting && r.reached r.network.associateAfterMs

def connected (r : Radio) : Bool := r.ready && r.reached r.network.onlineAfterMs

/-- Ends the attempt, and says whether the radio went off. -/
def disconnect (r : Radio) : Bool × Radio :=
  let released := !r.network.refuseShutdown
  (released,
    { r with attemptStartedMs := none, state := if released then .off else .stuck })

def signalStrength (r : Radio) : Option UInt8 :=
  if r.ready then some (strengthPercent receivedDbm) else none

end Radio

end BinMonitor
