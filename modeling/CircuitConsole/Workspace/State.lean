import CircuitConsole.Simulation.Execution
import CircuitConsole.Statement.Draft

/-!
A workspace: the registers, gate definitions and queued operations of a circuit, with the result
of its last execution. Texts are accepted as a whole or not at all, and execution always starts
over with the whole queue.
-/

namespace CircuitConsole

structure Workspace where
  quantum : RegisterTable
  classical : RegisterTable
  definitions : List Definition
  queue : List (Operation Float)
  executed : Nat
  dirty : Bool
  amplitudes : Array (Amplitude Float)
  bits : List Bool
  deriving DecidableEq, Repr

namespace Workspace

open Simulation

def empty : Workspace := ⟨[], [], [], [], 0, false, #[1], []⟩

def draft (w : Workspace) : Statement.Draft := ⟨w.quantum, w.classical, w.definitions, [], false⟩

/-- Takes over a draft. The workspace then differs from its last execution if anything was declared
or queued. -/
def commit (w : Workspace) (d : Statement.Draft) : Workspace :=
  { w with
    quantum := d.quantum
    classical := d.classical
    definitions := d.definitions
    queue := w.queue ++ d.queue
    dirty := w.dirty || d.declared || d.queue ≠ [] }

/-- What came of reading a text: the gates it defined before it ended or failed, and the workspace
with all that it adds, or the first fault. -/
structure Acceptance where
  defined : List Definition
  result : Except Statement.Fault Workspace

def accept (w : Workspace) (text : List Char) (room : Capacity := Capacity.usual) :
    Acceptance :=
  match Statement.split text with
  | .error fault => ⟨[], .error fault⟩
  | .ok statements =>
    let (d, fault) := w.draft.statements statements room
    let defined := d.definitions.drop w.definitions.length
    match fault with
    | some fault => ⟨defined, .error fault⟩
    | none => ⟨defined, .ok (w.commit d)⟩

def circuit (w : Workspace) : Circuit Float := ⟨w.quantum.width, w.classical.width, w.queue⟩

def execute (draws : Draws Float) (drawn : Nat) (w : Workspace)
    (room : Capacity := Capacity.usual) : Nat × Except ExecutionFault Workspace :=
  let (drawn, result) := w.circuit.execute draws drawn room
  (drawn, result.map fun outcome =>
    { w with
      amplitudes := outcome.amplitudes
      bits := outcome.bits
      executed := w.queue.length
      dirty := false })

def pending (w : Workspace) : List (Operation Float) := w.queue.drop w.executed

end Workspace

end CircuitConsole
