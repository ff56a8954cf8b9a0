import CircuitConsole.Proofs.Success
import CircuitConsole.Simulation.GateOperator

/-!
The matrices of the built-in gates exist and fit. Every gate with its number of parameters has a
matrix, as long as the halves of the parameters have a cosine and a sine, and the matrix is a
square one over the targets of the gate.
-/

namespace CircuitConsole

open Simulation

variable {R : Type} [Scalar R]

namespace Rotation

theorem bounded_eq_ok {angle : R} : bounded angle = .ok () ↔ Scalar.bounded angle = true := by
  unfold bounded
  split <;> simp_all

/-- What a rotation by a bounded angle gives, and only such a one. -/
theorem bounded_bind_eq_ok {angle : R} {x : Except Fault (Operator (Amplitude R))}
    {U : Operator (Amplitude R)} :
    (bounded angle >>= fun _ => x) = .ok U ↔ Scalar.bounded angle = true ∧ x = .ok U := by
  rw [bind_eq_ok]
  constructor
  · rintro ⟨_, hangle, hx⟩
    exact ⟨bounded_eq_ok.mp hangle, hx⟩
  · rintro ⟨hangle, hx⟩
    exact ⟨(), bounded_eq_ok.mpr hangle, hx⟩

end Rotation

namespace Gate

/-- The matrix of a gate is a square one over its targets. -/
theorem operator_isSquare {g : Gate} {parameters : List R} {U : Operator (Amplitude R)}
    (h : g.operator parameters = .ok U) : U.isSquare (Nat.pow 2 g.targetCount) = true := by
  unfold operator at h
  split at h
  all_goals first
    | contradiction
    | (obtain rfl := Except.ok.inj h; rfl)
    | (obtain ⟨_, h⟩ := Rotation.bounded_bind_eq_ok.mp h; obtain rfl := Except.ok.inj h; rfl)

/-- A gate has a matrix for parameters of the right number with bounded halves. -/
theorem operator_exists {g : Gate} {parameters : List R}
    (hlength : parameters.length = g.parameterCount)
    (hparameters : ∀ x ∈ parameters, Scalar.bounded (Scalar.half x) = true)
    (hpi : Scalar.bounded (Scalar.half (Scalar.half (Scalar.pi : R))) = true) :
    ∃ U, g.operator parameters = .ok U := by
  match parameters, hlength with
  | [], hlength =>
    have hcount : g.parameterCount = 0 := hlength.symm
    cases g <;> first
      | exact absurd hcount (by decide)
      | exact ⟨_, rfl⟩
  | [θ], hlength =>
    have hcount : g.parameterCount = 1 := hlength.symm
    have hθ := hparameters θ (List.mem_cons_self ..)
    cases g <;> first
      | exact absurd hcount (by decide)
      | exact ⟨_, rfl⟩
      | exact ⟨_, Rotation.bounded_bind_eq_ok.mpr ⟨hθ, rfl⟩⟩
  | [φ, l], hlength =>
    have hcount : g.parameterCount = 2 := hlength.symm
    cases g <;> first
      | exact absurd hcount (by decide)
      | exact ⟨_, Rotation.bounded_bind_eq_ok.mpr ⟨hpi, rfl⟩⟩
  | [θ, φ, l], hlength =>
    have hcount : g.parameterCount = 3 := hlength.symm
    have hθ := hparameters θ (List.mem_cons_self ..)
    cases g <;> first
      | exact absurd hcount (by decide)
      | exact ⟨_, Rotation.bounded_bind_eq_ok.mpr ⟨hθ, rfl⟩⟩
  | _ :: _ :: _ :: _ :: rest, hlength =>
    have hcount : g.parameterCount = rest.length + 4 := hlength.symm
    cases g <;> simp [parameterCount] at hcount

end Gate

end CircuitConsole
