import CircuitConsole.Circuit.Gate
import CircuitConsole.Circuit.Register

/-!
Queued operations. An instruction is a gate with its parameters and qubits, a measurement into a
classical bit, or a reset; it may depend on the value of a classical register. Parameters are of
any type of numbers.
-/

namespace CircuitConsole

/-- The value that a classical register must hold. The register's place is that of the time of
queueing. -/
structure Condition where
  register : String
  offset : Nat
  size : Nat
  value : Nat
  deriving DecidableEq, Repr

inductive Instruction (R : Type) where
  | gate (g : Gate) (parameters : List R) (qubits : List Nat)
  | measure (qubit bit : Nat)
  | reset (qubit : Nat)
  deriving DecidableEq, Repr

structure Operation (R : Type) where
  instruction : Instruction R
  condition : Option Condition
  deriving DecidableEq, Repr

namespace Instruction

variable {R S : Type}

def name : Instruction R → String
  | .gate g _ _ => g.name
  | .measure _ _ => "measure"
  | .reset _ => "reset"

def parameters : Instruction R → List R
  | .gate _ parameters _ => parameters
  | _ => []

def qubits : Instruction R → List Nat
  | .gate _ _ qubits => qubits
  | .measure qubit _ => [qubit]
  | .reset qubit => [qubit]

def bits : Instruction R → List Nat
  | .measure _ bit => [bit]
  | _ => []

def mapParameters (f : R → S) : Instruction R → Instruction S
  | .gate g parameters qubits => .gate g (parameters.map f) qubits
  | .measure qubit bit => .measure qubit bit
  | .reset qubit => .reset qubit

def mapQubits (f : Nat → Nat) : Instruction R → Instruction R
  | .gate g parameters qubits => .gate g parameters (qubits.map f)
  | .measure qubit bit => .measure (f qubit) bit
  | .reset qubit => .reset (f qubit)

end Instruction

namespace Operation

variable {R S : Type}

def mapParameters (f : R → S) (op : Operation R) : Operation S :=
  ⟨op.instruction.mapParameters f, op.condition⟩

def mapQubits (f : Nat → Nat) (op : Operation R) : Operation R :=
  ⟨op.instruction.mapQubits f, op.condition⟩

end Operation

end CircuitConsole
