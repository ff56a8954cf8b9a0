import CircuitConsole.Simulation.GateOperator
import CircuitConsole.Simulation.Kernel

/-!
The simulated machine: qubits with a state vector, classical bits, and a count of the random
numbers drawn. A step that is refused changes nothing. After every step the vector is normalised
and parts too near to zero are pruned.
-/

namespace CircuitConsole.Simulation

variable {R : Type} [Scalar R]

structure Machine (R : Type) where
  width : Nat
  vector : Array (Amplitude R)
  bits : List Bool
  drawn : Nat
  deriving DecidableEq, Repr

/-- The random numbers that a machine draws, in order; each is at least zero and below one. -/
abbrev Draws (R : Type) := Nat → R

def zeroVector (width : Nat) : Array (Amplitude R) :=
  Array.ofFn (n := Nat.pow 2 width) fun i => if i.val = 0 then 1 else 0

def normSqSum (v : Array (Amplitude R)) : R := (v.toList.map Amplitude.normSq).sum

/-- Scales the vector to norm one, unless its norm is as good as one or as good as zero; then prunes
it. -/
def normalise (v : Array (Amplitude R)) : Array (Amplitude R) :=
  let n := normSqSum v
  let off := Scalar.less Scalar.normTolerance (Scalar.magnitude (n - 1))
  let v := if off && Scalar.less Scalar.cutoff n then v.map (·.divide (Scalar.sqrt n)) else v
  v.map Amplitude.prune

/-- The probability that a qubit is measured as one, kept between zero and one. -/
def oneProbability (v : Array (Amplitude R)) (qubit : Nat) : R :=
  let p := normSqSum (v.mapIdx fun i a => if i.testBit qubit then a else 0)
  let p := if Scalar.less p 0 then 0 else p
  if Scalar.less 1 p then 1 else p

def project (v : Array (Amplitude R)) (qubit : Nat) (value : Bool) : Array (Amplitude R) :=
  v.mapIdx fun i a => if i.testBit qubit = value then a else 0

namespace Machine

def start (width bits drawn : Nat) : Machine R :=
  ⟨width, zeroVector width, List.replicate bits false, drawn⟩

def create (width : Int) (bits drawn : Nat) : Except Fault (Machine R) :=
  if width < 0 then .error .negativeWidth else .ok (start width.toNat bits drawn)

def apply (m : Machine R) (U : Operator (Amplitude R)) (targets : List Int) :
    Except Fault (Machine R) := do
  let v ← applyUnitary m.width targets U m.vector
  return if targets = [] then m else { m with vector := normalise v }

def applyControlled (m : Machine R) (controls targets : List Int) (U : Operator (Amplitude R))
    (values : Option (List Int)) : Except Fault (Machine R) := do
  let v ← applyControlledUnitary m.width controls targets U values m.vector
  return { m with vector := normalise v }

def applyGate (m : Machine R) (g : Gate) (parameters : List R) (qubits : List Int) :
    Except Fault (Machine R) := do
  let U ← g.operator parameters
  if g.controlCount = 0 then m.apply U qubits
  else m.applyControlled (qubits.take g.controlCount) (qubits.drop g.controlCount) U none

def writeBit (m : Machine R) (bit : Int) (value : Bool) : Machine R :=
  if 0 ≤ bit then { m with bits := m.bits.set bit.toNat value } else m

def measure (draws : Draws R) (m : Machine R) (qubit : Int) (bit : Option Int) :
    Except Fault (Bool × Machine R) := do
  let _ ← checkQubits m.width [qubit]
  let q := qubit.toNat
  let outcome := Scalar.less (draws m.drawn) (oneProbability m.vector q)
  let m := { m with
    vector := normalise (project m.vector q outcome)
    drawn := m.drawn + 1 }
  return (outcome, match bit with
    | some bit => m.writeBit bit outcome
    | none => m)

def reset (draws : Draws R) (m : Machine R) (qubit : Int) : Except Fault (Machine R) := do
  let (outcome, m) ← m.measure draws qubit none
  if outcome then m.applyGate .x [] [qubit] else return m

/-- The probabilities of all indices, relative to their sum unless that is as good as zero. -/
def probabilities (m : Machine R) : List R :=
  let p := m.vector.toList.map Amplitude.normSq
  let s := p.sum
  p.map (· / if Scalar.less Scalar.cutoff s then s else 1)

end Machine

def mixBits (z : UInt64) : UInt64 :=
  let z := (z ^^^ (z >>> 30)) * 0xBF58476D1CE4E5B9
  let z := (z ^^^ (z >>> 27)) * 0x94D049BB133111EB
  z ^^^ (z >>> 31)

/-- Random numbers from a seed, each depending on the seed and its place alone. -/
def seededDraws (seed : UInt64) : Draws Float := fun n =>
  let word := mixBits (seed + (n.toUInt64 + 1) * 0x9E3779B97F4A7C15)
  (word >>> 11).toFloat / 9007199254740992.0

end CircuitConsole.Simulation
