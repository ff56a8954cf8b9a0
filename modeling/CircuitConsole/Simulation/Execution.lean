import CircuitConsole.Capacity
import CircuitConsole.Circuit.Operation
import CircuitConsole.Simulation.Machine

/-!
Execution of a whole circuit from the zero state. An operation under a condition is carried out
only when the classical register holds the value asked for. Random numbers taken before a failure
stay taken.
-/

namespace CircuitConsole

open Simulation

variable {R : Type} [Scalar R]

structure Circuit (R : Type) where
  qubits : Nat
  bits : Nat
  operations : List (Operation R)
  deriving DecidableEq, Repr

def bitsToNat : List Bool → Nat
  | [] => 0
  | b :: bits => b.toNat + 2 * bitsToNat bits

def Condition.holds (c : Condition) (bits : List Bool) : Bool :=
  bitsToNat ((bits.drop c.offset).take c.size) = c.value

namespace Simulation.Machine

def perform (draws : Draws R) (m : Machine R) : Instruction R → Except Simulation.Fault (Machine R)
  | .gate g parameters qubits => m.applyGate g parameters (qubits.map Int.ofNat)
  | .measure qubit bit => (m.measure draws qubit (some (bit : Int))).map (·.2)
  | .reset qubit => m.reset draws qubit

def step (draws : Draws R) (m : Machine R) (op : Operation R) :
    Except Simulation.Fault (Machine R) :=
  match op.condition with
  | some c => if c.holds m.bits then m.perform draws op.instruction else .ok m
  | none => m.perform draws op.instruction

/-- Carries out operations up to the first that fails, with the machine reached. -/
def run (draws : Draws R) : Machine R → List (Operation R) → Machine R × Option Simulation.Fault
  | m, [] => (m, none)
  | m, op :: rest =>
    match m.step draws op with
    | .ok m => run draws m rest
    | .error fault => (m, some fault)

end Simulation.Machine

inductive ExecutionFault where
  | tooWide (width : Nat)
  | outOfMemory (width : Nat)
  | overload (overload : Overload)
  | step (fault : Simulation.Fault)
  deriving DecidableEq, Repr

def maxQubits : Nat := 24

def ExecutionFault.message : ExecutionFault → String
  | .tooWide width => s!"Register width {width} exceeds the limit of {maxQubits} qubits"
  | .outOfMemory width => s!"Out of memory simulating {width} qubits"
  | .overload o => o.message
  | .step fault => fault.message

def ExecutionFault.isReported : ExecutionFault → Bool
  | .overload _ => false
  | _ => true

def ExecutionFault.label : ExecutionFault → String
  | .overload o => o.label
  | _ => "ExecError"

/-- The fault of a circuit with too many qubits, unless their number is too long to be named. -/
def ExecutionFault.ofWidth (width : Nat) : ExecutionFault :=
  match writeNat width with
  | .ok _ => .tooWide width
  | .error o => .overload o

structure Outcome (R : Type) where
  amplitudes : Array (Amplitude R)
  bits : List Bool
  deriving DecidableEq, Repr

/-- Executes a circuit, with so many random numbers drawn before. The first component counts those
drawn afterwards. -/
def Circuit.execute (draws : Draws R) (drawn : Nat) (c : Circuit R) (room : Capacity) :
    Nat × Except ExecutionFault (Outcome R) :=
  if maxQubits < c.qubits then (drawn, .error (.ofWidth c.qubits))
  else if countLimit < c.bits then (drawn, .error (.overload .count))
  else if room.row < c.bits then (drawn, .error (.outOfMemory c.qubits))
  else match (Machine.start c.qubits c.bits drawn).run draws c.operations with
  | (m, none) => (m.drawn, .ok ⟨m.vector, m.bits⟩)
  | (m, some fault) => (m.drawn, .error (.step fault))

end CircuitConsole
