import CircuitConsole.Decimal.Format
import CircuitConsole.Workspace.State

/-!
Views of a workspace as text: the classical registers, the amplitudes in polar form, the
probabilities, the queue, and the registers with their places. A view with a number too long to be
written is not shown.
-/

namespace CircuitConsole.Workspace

open Decimal Simulation

def joinLines (lines : List String) : String := "\n".intercalate lines

/-- An operation as a statement that would queue it, up to the digits of its parameters. -/
def describe (w : Workspace) (op : Operation Float) : String :=
  let i := op.instruction
  let parameters := if i.parameters = [] then ""
    else "(" ++ ", ".intercalate (i.parameters.map (general 4)) ++ ")"
  let qubits := " " ++ ", ".intercalate (i.qubits.map w.quantum.bitName)
  let bits := if i.bits = [] then ""
    else " -> " ++ ", ".intercalate (i.bits.map w.classical.bitName)
  let condition := match op.condition with
    | some c => s!"if({c.register}=={c.value}) "
    | none => ""
  condition ++ i.name ++ parameters ++ qubits ++ bits

/-- The classical bits of all registers; those declared since the last execution are zero. -/
def allBits (w : Workspace) : List Bool :=
  let width := w.classical.width
  (w.bits ++ List.replicate width false).take width

def bitChar (b : Bool) : Char := if b then '1' else '0'

def registerBits (w : Workspace) (r : Register) : List Bool :=
  (w.allBits.drop r.offset).take r.size

def classicalView (w : Workspace) (room : Capacity) : Except Overload String :=
  if countLimit < w.classical.width then .error .count
  else if room.row < w.classical.width then .error .memory
  else do
    let total ← writeNat (bitsToNat w.allBits)
    return joinLines <| s!"CReg: {total}" :: w.classical.map fun r =>
      s!"  {r.name}[{r.size}] = {String.ofList ((w.registerBits r).reverse.map bitChar)}"

def ket (index qubits : Nat) : String :=
  let digits := if qubits = 0 then [] else padLeft qubits '0' (Nat.toDigits 2 index)
  "|" ++ String.ofList digits ++ ">"

def amplitudeLines (w : Workspace) (line : Amplitude Float → String) : List String :=
  let qubits := w.amplitudes.size.log2
  w.amplitudes.toList.zipIdx.filterMap fun (a, i) =>
    if Scalar.less Scalar.cutoff a.normSq then some s!"  {ket i qubits}: {line a}" else none

def polarView (w : Workspace) : String :=
  joinLines <| "QReg polar:" :: w.amplitudeLines fun a =>
    s!"{fixed 4 a.abs} @ {signedFixed 4 (Float.atan2 a.im a.re)}"

def probabilityView (w : Workspace) : String :=
  joinLines <| "QReg probabilities:" :: w.amplitudeLines fun a => fixed 6 a.normSq

def queueView (w : Workspace) : String :=
  if w.queue = [] then "Operations: (none)"
  else joinLines <|
    s!"Operations: {w.queue.length} queued, {w.pending.length} pending" ::
      w.queue.zipIdx.map fun (op, i) =>
        let mark := if w.executed ≤ i then "*" else " "
        let number := String.ofList (padLeft 3 ' ' (Nat.toDigits 10 i))
        s!"{mark} {number}  {w.describe op}"

def registerLine (r : Register) : Except Overload String := do
  let size ← writeNat r.size
  let first ← writeNat r.offset
  let last ← writeNat (r.offset + r.size - 1)
  return s!"  {r.name}[{size}] -> {first}..{last}"

def tableLines (title : String) (table : RegisterTable) : Except Overload (List String) := do
  let lines ← table.mapM registerLine
  return (title ++ ":") :: if lines = [] then ["  (none)"] else lines

def namesView (w : Workspace) : Except Overload String := do
  let quantum ← tableLines "QReg" w.quantum
  let classical ← tableLines "CReg" w.classical
  return joinLines (quantum ++ classical)

end CircuitConsole.Workspace
