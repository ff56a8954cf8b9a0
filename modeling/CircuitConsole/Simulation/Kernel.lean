import CircuitConsole.Simulation.Fault
import CircuitConsole.Simulation.Tensor

/-!
Operators applied to chosen qubits of a state. A state of `n` qubits is a tensor of `n` axes, the
highest qubit first. The axes of the targets are moved to the front, multiplied by the matrix, and
moved back. The first target of an operator is the least significant digit of its rows and columns.
Controls are held at their values first, so that the operator applies to the part on the open axes.
-/

namespace CircuitConsole.Simulation

def checkQubits (width : Nat) (qubits : List Int) : Except Fault (List Nat) :=
  qubits.mapM fun (q : Int) =>
    if 0 ≤ q ∧ q < width then .ok q.toNat else .error (.qubitOutOfRange q width)

def axisOf (width qubit : Nat) : Nat := width - 1 - qubit

/-- An axis of a tensor; one below zero is counted from the end. -/
def normalizeAxis (dimension : Nat) (axis : Int) : Except Fault Nat :=
  let place := if axis < 0 then axis + dimension else axis
  if 0 ≤ place ∧ place < dimension then .ok place.toNat
  else .error (.axisOutOfRange axis dimension)

/-- The axis that is left of another one when the controls are held: each of their axes before it
moves it down by one. -/
def shiftedAxis (held : List Nat) (axis : Nat) : Int :=
  (axis : Int) - (held.filter (· < axis)).length

/-- The value at which an axis is held. Besides 0 and 1 these may be counted from the end. -/
def heldValue (axis : Nat) (value : Int) : Except Fault Bool :=
  if value = 1 ∨ value = -1 then .ok true
  else if value = 0 ∨ value = -2 then .ok false
  else .error (.controlValue value axis)

/-- Holds axes at values; of two values for one axis the later counts. -/
def holdAxes (dimension : Nat) (held : List (Nat × Int)) : Except Fault Slice :=
  (List.range dimension).mapM fun axis =>
    match held.reverse.lookup axis with
    | some value => (heldValue axis value).map some
    | none => .ok none

section

variable {K : Type}

def checkShape (U : Operator K) (targets : Nat) : Except Fault Unit :=
  if U.isSquare (Nat.pow 2 targets) then .ok ()
  else .error (.shape targets U.rows.length (U.rows.head?.map (·.length)))

variable [Zero K] [Add K] [Mul K]

def applyMatrix (dimension : Nat) (axes : List Int) (U : Operator K) (t : Tensor K) :
    Except Fault (Tensor K) := do
  let source ← axes.reverse.mapM (normalizeAxis dimension)
  if !decide source.Nodup then throw .repeatedAxis
  let front := List.range axes.length
  let moved := t.moveAxes dimension source front
  return (moved.multiply axes.length U).moveAxes dimension front source

def applyUnitary (width : Nat) (targets : List Int) (U : Operator K) (v : Array K) :
    Except Fault (Array K) := do
  if targets = [] then return v
  let targets ← checkQubits width targets
  if !decide targets.Nodup then throw .repeatedTarget
  checkShape U targets.length
  let t ← applyMatrix width (targets.map fun q => (axisOf width q : Int)) U (.ofArray v)
  return t.store width v

def applyControlledUnitary (width : Nat) (controls targets : List Int) (U : Operator K)
    (values : Option (List Int)) (v : Array K) : Except Fault (Array K) := do
  let qubits ← checkQubits width (controls ++ targets)
  let targets := qubits.drop controls.length
  let controls := qubits.take controls.length
  if controls.any targets.contains then throw .controlledTarget
  let values := values.getD (controls.map fun _ => 1)
  if values.length ≠ controls.length then throw .controlValueCount
  checkShape U targets.length
  let held := controls.map (axisOf width)
  let axes := targets.map fun q => shiftedAxis held (axisOf width q)
  let slice ← holdAxes width (held.zip values)
  let block ← applyMatrix slice.openAxes.length axes U (slice.read (.ofArray v))
  return Tensor.store width (slice.write block (.ofArray v)) v

end

end CircuitConsole.Simulation
