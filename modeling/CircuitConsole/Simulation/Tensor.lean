import CircuitConsole.Simulation.Operator

/-!
Tensors with two places along every axis. The index of an entry has one digit for each axis. An
array holds the entries in the order of the numbers that their indices spell, the first axis being
the most significant.
-/

namespace CircuitConsole.Simulation

abbrev Tensor (K : Type) := List Bool → K

def digitsOf : Nat → Nat → List Bool
  | 0, _ => []
  | dimension + 1, i => i.testBit dimension :: digitsOf dimension i

def numberOf : List Bool → Nat
  | [] => 0
  | digit :: index => digit.toNat * Nat.pow 2 index.length + numberOf index

def digitAt (index : List Bool) (axis : Nat) : Bool := index[axis]?.getD false

def digitsAt (axes : List Nat) (index : List Bool) : List Bool := axes.map (digitAt index)

/-- The digit that an axis is given by a list of digits for some axes. -/
def digitFor (axes : List Nat) (digits : List Bool) (axis : Nat) : Bool :=
  ((axes.zip digits).lookup axis).getD false

def otherAxes (dimension : Nat) (axes : List Nat) : List Nat :=
  (List.range dimension).filter fun a => !axes.contains a

def axesFrom (dimension : Nat) (axes : List Nat) : List Nat := axes ++ otherAxes dimension axes

section

variable {K : Type} [Zero K]

def amplitudeAt (v : Array K) (i : Nat) : K := v[i]?.getD 0

namespace Tensor

def ofArray (v : Array K) : Tensor K := fun index => amplitudeAt v (numberOf index)

def store (dimension : Nat) (t : Tensor K) (v : Array K) : Array K :=
  v.mapIdx fun i _ => t (digitsOf dimension i)

/-- Moves some axes to other positions. The other axes keep their order. -/
def moveAxes (dimension : Nat) (source destination : List Nat) (t : Tensor K) : Tensor K :=
  fun index =>
    let digits := digitsAt (axesFrom dimension destination) index
    t ((List.range dimension).map (digitFor (axesFrom dimension source) digits))

/-- Multiplies a matrix by the tensor, whose first axes are taken for rows and whose other axes for
columns. -/
def multiply [Add K] [Mul K] (rowAxes : Nat) (U : Operator K) (t : Tensor K) : Tensor K :=
  fun index =>
    dot (U.row (numberOf (index.take rowAxes)))
      ((List.range (Nat.pow 2 rowAxes)).map fun c =>
        t (digitsOf rowAxes c ++ index.drop rowAxes))

end Tensor

end

/-- Which axes are held at a digit; the others stay open. -/
abbrev Slice := List (Option Bool)

namespace Slice

def openAxes (s : Slice) : List Nat :=
  (List.range s.length).filter fun a => s[a]? = some none

def fill (s : Slice) (digits : List Bool) : List Bool :=
  s.mapIdx fun a held => held.getD (digitFor s.openAxes digits a)

def holds (s : Slice) (index : List Bool) : Bool :=
  (s.zip index).all fun (held, digit) => held.all (· = digit)

variable {K : Type}

def read (s : Slice) (t : Tensor K) : Tensor K := fun digits => t (s.fill digits)

def write (s : Slice) (block t : Tensor K) : Tensor K := fun index =>
  if s.holds index then block (digitsAt s.openAxes index) else t index

end Slice

end CircuitConsole.Simulation
