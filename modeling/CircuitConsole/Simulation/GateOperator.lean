import CircuitConsole.Circuit.Gate
import CircuitConsole.Simulation.Fault
import CircuitConsole.Simulation.Operator
import CircuitConsole.Simulation.Scalar

/-!
The matrices of the built-in gates on their targets. Angles are halved where the gate is a
rotation; an angle without cosine and sine is refused where the matrix needs them directly.
-/

namespace CircuitConsole

open Amplitude Scalar Simulation

variable {R : Type} [Scalar R]

namespace Rotation

def bounded (angle : R) : Except Fault Unit :=
  if Scalar.bounded angle then .ok () else .error .domain

def aboutX (θ : R) : Except Fault (Operator (Amplitude R)) := do
  let a := half θ
  bounded a
  let c := real (cos a)
  let s := imaginary (-sin a)
  return ⟨[[c, s], [s, c]]⟩

def aboutY (θ : R) : Except Fault (Operator (Amplitude R)) := do
  let a := half θ
  bounded a
  let c := real (cos a)
  return ⟨[[c, real (-sin a)], [real (sin a), c]]⟩

def aboutZ (θ : R) : Operator (Amplitude R) :=
  .diagonal [phase (-half θ), phase (half θ)]

def phaseShift (l : R) : Operator (Amplitude R) := .diagonal [1, phase l]

def general (θ φ l : R) : Except Fault (Operator (Amplitude R)) := do
  let a := half θ
  bounded a
  let c := real (cos a)
  let s := real (sin a)
  return ⟨[[c, -(phase l * s)], [phase φ * s, phase (φ + l) * c]]⟩

/-- Two qubits rotated together, flipped both; the signs are those of the flipped entries. -/
def flipBoth (θ : R) (outer : Amplitude R) : Except Fault (Operator (Amplitude R)) := do
  let a := half θ
  bounded a
  let c := real (cos a)
  let s := imaginary (-sin a)
  return ⟨[[c, 0, 0, outer * s], [0, c, s, 0], [0, s, c, 0], [outer * s, 0, 0, c]]⟩

def phaseBoth (θ : R) : Operator (Amplitude R) :=
  let e := phase (-half θ)
  let d := phase (half θ)
  .diagonal [e, d, d, e]

end Rotation

namespace Gate

def flip : Operator (Amplitude R) := ⟨[[0, 1], [1, 0]]⟩

def hadamard : Operator (Amplitude R) :=
  let r : Amplitude R := real (1 / sqrt two)
  ⟨[[r, r], [r, -r]]⟩

def rootOfFlip : Operator (Amplitude R) :=
  let a : Amplitude R := ⟨half 1, half 1⟩
  let b : Amplitude R := ⟨half 1, -half 1⟩
  ⟨[[a, b], [b, a]]⟩

def exchange (k : Amplitude R) : Operator (Amplitude R) :=
  ⟨[[1, 0, 0, 0], [0, 0, k, 0], [0, k, 0, 0], [0, 0, 0, 1]]⟩

def operator : Gate → List R → Except Fault (Operator (Amplitude R))
  | .id, [] => .ok ⟨[[1, 0], [0, 1]]⟩
  | .x, [] | .cx, [] | .CX, [] | .ccx, [] => .ok flip
  | .y, [] | .cy, [] => .ok ⟨[[0, imaginary (-1)], [imaginary 1, 0]]⟩
  | .z, [] | .cz, [] => .ok (.diagonal [1, -1])
  | .h, [] | .ch, [] => .ok hadamard
  | .s, [] => .ok (.diagonal [1, imaginary 1])
  | .sdg, [] => .ok (.diagonal [1, imaginary (-1)])
  | .t, [] => .ok (.diagonal [1, phase (half (half Scalar.pi))])
  | .tdg, [] => .ok (.diagonal [1, phase (-half (half Scalar.pi))])
  | .sx, [] => .ok rootOfFlip
  | .rx, [θ] | .crx, [θ] => Rotation.aboutX θ
  | .ry, [θ] | .cry, [θ] => Rotation.aboutY θ
  | .rz, [θ] | .crz, [θ] => .ok (Rotation.aboutZ θ)
  | .p, [l] | .u1, [l] | .cp, [l] | .cu1, [l] => .ok (Rotation.phaseShift l)
  | .u2, [φ, l] => Rotation.general (half Scalar.pi) φ l
  | .u3, [θ, φ, l] | .u, [θ, φ, l] | .U, [θ, φ, l] => Rotation.general θ φ l
  | .swap, [] | .cswap, [] => .ok (exchange 1)
  | .iswap, [] => .ok (exchange (imaginary 1))
  | .rxx, [θ] => Rotation.flipBoth θ 1
  | .ryy, [θ] => Rotation.flipBoth θ (-1)
  | .rzz, [θ] => .ok (Rotation.phaseBoth θ)
  | _, _ => .error .parameterCount

end Gate

end CircuitConsole
