/-!
Why a step of a simulation is refused. Qubits are numbered from zero, and the axes of the state
from the highest qubit down.
-/

namespace CircuitConsole.Simulation

inductive Fault where
  | negativeWidth
  | qubitOutOfRange (qubit : Int) (width : Nat)
  | repeatedTarget
  | controlledTarget
  | controlValueCount
  | controlValue (value : Int) (axis : Nat)
  | shape (targets rows : Nat) (columns : Option Nat)
  | axisOutOfRange (axis : Int) (dimension : Nat)
  | repeatedAxis
  | domain
  | parameterCount
  deriving DecidableEq, Repr

def Fault.message : Fault → String
  | .negativeWidth => "num_qubits must be >= 0"
  | .qubitOutOfRange qubit width => s!"Qubit index {qubit} out of range for {width} qubits"
  | .repeatedTarget => "targets must be distinct"
  | .controlledTarget => "controls and targets must be disjoint"
  | .controlValueCount => "ctrl_state length must match number of controls"
  | .controlValue value axis =>
    s!"index {value} is out of bounds for axis {axis} with size 2"
  | .shape targets rows columns =>
    let size := Nat.pow 2 targets
    let shown := match columns with
      | some columns => s!"({rows}, {columns})"
      | none => s!"({rows},)"
    s!"U must be ({size}, {size}) for k={targets}, got {shown}"
  | .axisOutOfRange axis dimension =>
    s!"source: axis {axis} is out of bounds for array of dimension {dimension}"
  | .repeatedAxis => "repeated axis in \x60source\x60 argument"
  | .domain => "math domain error"
  | .parameterCount => "wrong number of gate parameters"

end CircuitConsole.Simulation
