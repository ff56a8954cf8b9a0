import CircuitConsole.Circuit.Definition
import CircuitConsole.Circuit.Operation
import CircuitConsole.Statement.Fault

/-!
Expansion of gate calls into instructions. A built-in gate stands for itself; a defined gate
stands for the calls of its body, which may only name gates defined before it. The definitions
are therefore searched from the latest back, and a body is expanded in what came before. Definitions
are expanded one inside the other as long as there is room for calls.
-/

namespace CircuitConsole.Statement

/-- The later of the values that formal names were bound to. -/
def lookUp? {α : Type} (names : List String) (values : List α) (name : String) : Option α :=
  ((names.zip values).reverse.find? fun b => b.1 = name).map (·.2)

def evaluateAll (env : Expression.Environment) (texts : List String) (room : Nat) :
    Except Fault (List Float) :=
  texts.mapM fun text =>
    if room = 0 then .error (.overload .nesting)
    else (Expression.evaluate env text.toList room).mapError .expression

/-- The instructions of a gate, where the definitions stand in reverse order and so many calls can
be opened inside the one that expands the gate. A built-in gate takes three of them. A body takes
one for each gate in it, and its parameters are evaluated two calls further in. -/
def expand : Nat → List Definition → String → List Float → List Nat →
    Except Fault (List (Instruction Float))
  | 0, _, _, _, _ => .error (.overload .nesting)
  | room + 1, definitions, gate, parameters, qubits =>
    if !decide qubits.Nodup then .error (.repeatedQubit gate)
    else match Gate.ofName? gate with
    | some g =>
      if room < 2 then .error (.overload .nesting) else .ok [.gate g parameters qubits]
    | none =>
      match definitions with
      | [] => .error (.unknownGate gate)
      | d :: earlier =>
        if d.name = gate then do
          let parts ← d.body.mapM fun call => do
            let values ← evaluateAll (d.parameters.zip parameters) call.expressions (room - 1)
            let places ← call.qubits.mapM fun q =>
              match lookUp? d.qubits qubits q with
              | some place => .ok place
              | none => .error (.unknownQubit q gate)
            expand room earlier call.gate values places
          .ok parts.flatten
        else expand (room + 1) earlier gate parameters qubits

def arity? (definitions : List Definition) (gate : String) : Option (Nat × Nat) :=
  match Gate.ofName? gate with
  | some g => some (g.parameterCount, g.qubitCount)
  | none =>
    (definitions.find? fun d => d.name = gate).map fun d => (d.parameters.length, d.qubits.length)

def checkArity (definitions : List Definition) (gate : String) (parameters qubits : Nat) :
    Except Fault Unit :=
  match arity? definitions gate with
  | none => .error (.unknownGate gate)
  | some (p, q) =>
    if parameters ≠ p then .error (.parameterCount gate p parameters)
    else if qubits ≠ q then .error (.qubitCount gate q qubits)
    else .ok ()

end CircuitConsole.Statement
