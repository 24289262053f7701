/-! Signals that reach the control loop from outside it: interrupt flags, the status of the
latest delivery, and the lock that guards them. -/

namespace BinMonitor

inductive Interrupt where
  | userSwitch
  | sensorActivity
  | outOfMemory
deriving DecidableEq

def Interrupt.all : List Interrupt := [userSwitch, sensorActivity, outOfMemory]

def Interrupt.name : Interrupt → String
  | userSwitch => "UserSwitch"
  | sensorActivity => "SensorActivity"
  | outOfMemory => "OutOfMemory"

/-- One flag for each interrupt; raising a flag that is up changes nothing. -/
structure InterruptFlags where
  userSwitch : Bool := false
  sensorActivity : Bool := false
  outOfMemory : Bool := false
deriving DecidableEq

namespace InterruptFlags

def isUp (f : InterruptFlags) : Interrupt → Bool
  | .userSwitch => f.userSwitch
  | .sensorActivity => f.sensorActivity
  | .outOfMemory => f.outOfMemory

def set (f : InterruptFlags) (i : Interrupt) (up : Bool) : InterruptFlags :=
  match i with
  | .userSwitch => { f with userSwitch := up }
  | .sensorActivity => { f with sensorActivity := up }
  | .outOfMemory => { f with outOfMemory := up }

def raise (f : InterruptFlags) (i : Interrupt) : InterruptFlags := f.set i true

/-- Whether the flag was up; afterwards it is down. -/
def take (f : InterruptFlags) (i : Interrupt) : Bool × InterruptFlags := (f.isUp i, f.set i false)

/-- The flags that were up; afterwards all are down. -/
def takeAll (f : InterruptFlags) : InterruptFlags × InterruptFlags := (f, {})

end InterruptFlags

/-- The status of the latest delivery, until it is taken. A newer one replaces it. -/
structure AckSlot where
  status : Option UInt16 := none
deriving DecidableEq

namespace AckSlot

def answer (_ : AckSlot) (status : UInt16) : AckSlot := ⟨some status⟩

def take (s : AckSlot) : Option UInt16 × AckSlot := (s.status, {})

/-- The statuses that confirm receipt. -/
def confirms (status : UInt16) : Bool := status == 200 || status == 201

end AckSlot

/-- A lock that one task may take repeatedly. It counts how often it was taken, up to 255, and
is given back when the count returns to zero. -/
structure SectionLock where
  depth : UInt8 := 0
  held : Bool := false
deriving DecidableEq

namespace SectionLock

def acquire (l : SectionLock) : SectionLock :=
  { depth := if l.depth = 255 then 255 else l.depth + 1, held := l.held || l.depth == 0 }

/-- Takes the lock a number of times, and answers the depth at the last time if there was one. -/
def acquireTimes (times : Nat) (l : SectionLock) : Option UInt8 × SectionLock :=
  let taken := times.repeat acquire l
  (if times = 0 then none else some taken.depth, taken)

def release (l : SectionLock) : SectionLock :=
  if l.depth = 0 then l
  else { depth := l.depth - 1, held := l.held && l.depth != 1 }

end SectionLock

end BinMonitor
