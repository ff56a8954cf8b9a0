/-!
Linear operators on a few qubits, written as the rows of a square matrix.
-/

namespace CircuitConsole

structure Operator (K : Type) where
  rows : List (List K)
  deriving DecidableEq, Repr

namespace Operator

variable {K : Type}

def isSquare (U : Operator K) (size : Nat) : Bool :=
  U.rows.length = size && U.rows.all fun row => row.length = size

def row (U : Operator K) (r : Nat) : List K := U.rows[r]?.getD []

def entry [Zero K] (U : Operator K) (r c : Nat) : K := (U.row r)[c]?.getD 0

def diagonal [Zero K] (entries : List K) : Operator K :=
  ⟨entries.mapIdx fun r x => (List.range entries.length).map fun c => if c = r then x else 0⟩

end Operator

def dot {K : Type} [Zero K] [Add K] [Mul K] (xs ys : List K) : K := (xs.zipWith (· * ·) ys).sum

end CircuitConsole
