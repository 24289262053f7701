import BinMonitor.Lifecycle.States

/-! The state machine: where it is, how many ticks it has run, and at which of them the present
state was entered. A transition leaves the old state, moves, and enters the new one. -/

namespace BinMonitor.Lifecycle

structure Machine where
  state : State := .initialization
  ticks : Nat := 0
  enteredAtTick : Nat := 0
deriving DecidableEq

namespace Machine

def ticksInState (m : Machine) : Nat := m.ticks - m.enteredAtTick

/-- Enters the first state. -/
def start (m : Machine) (c : Context) : Context :=
  m.state.enter { c with stateEnteredMs := c.inputs.nowMs }

def moveTo (m : Machine) (next : State) (c : Context) : Machine × Context :=
  let c := { m.state.leave c with previousState := m.state, stateEnteredMs := c.inputs.nowMs }
  ({ m with state := next, enteredAtTick := m.ticks }, next.enter c)

/-- Goes to a state at once; nothing happens when it is there already. -/
def force (m : Machine) (next : State) (c : Context) : Machine × Context :=
  if next = m.state then (m, c) else m.moveTo next c

def tick (m : Machine) (c : Context) : Machine × Context :=
  let m := { m with ticks := m.ticks + 1 }
  match m.state.update c with
  | (some next, c) => m.moveTo next c
  | (none, c) => (m, c)

end Machine

end BinMonitor.Lifecycle
