import CircuitConsole.Proofs.Simulation.ExactNumbers
import CircuitConsole.Proofs.Simulation.GateOperator
import Mathlib.Tactic.LinearCombination
import Mathlib.Tactic.NormNum

/-!
The built-in gates keep norms. Over the real numbers the columns of each matrix are orthonormal: a
matrix on one qubit has orthonormal columns, and one on two qubits has two blocks of that kind, one
for the states where both qubits agree and one for those where they differ.
-/

namespace CircuitConsole

open Simulation

namespace Amplitude

section

variable {R : Type} [Scalar R]

@[simp] theorem zero_re : (0 : Amplitude R).re = 0 := rfl

@[simp] theorem zero_im : (0 : Amplitude R).im = 0 := rfl

@[simp] theorem one_re : (1 : Amplitude R).re = 1 := rfl

@[simp] theorem one_im : (1 : Amplitude R).im = 0 := rfl

@[simp] theorem add_re (a b : Amplitude R) : (a + b).re = a.re + b.re := rfl

@[simp] theorem add_im (a b : Amplitude R) : (a + b).im = a.im + b.im := rfl

@[simp] theorem neg_re (a : Amplitude R) : (-a).re = -a.re := rfl

@[simp] theorem neg_im (a : Amplitude R) : (-a).im = -a.im := rfl

@[simp] theorem mul_re (a b : Amplitude R) : (a * b).re = a.re * b.re - a.im * b.im := rfl

@[simp] theorem mul_im (a b : Amplitude R) : (a * b).im = a.re * b.im + a.im * b.re := rfl

end

protected theorem add_zero (a : Amplitude ℝ) : a + 0 = a := by
  change (⟨a.re + 0, a.im + 0⟩ : Amplitude ℝ) = a
  rw [add_zero, add_zero]

protected theorem zero_add (a : Amplitude ℝ) : 0 + a = a := by
  change (⟨0 + a.re, 0 + a.im⟩ : Amplitude ℝ) = a
  rw [zero_add, zero_add]

protected theorem zero_mul (a : Amplitude ℝ) : 0 * a = 0 := by
  change (⟨0 * a.re - 0 * a.im, 0 * a.im + 0 * a.re⟩ : Amplitude ℝ) = ⟨0, 0⟩
  simp

structure Orthonormal (a b c d : Amplitude ℝ) : Prop where
  first : a.normSq + c.normSq = 1
  second : b.normSq + d.normSq = 1
  re : a.re * b.re + a.im * b.im + (c.re * d.re + c.im * d.im) = 0
  im : a.re * b.im - a.im * b.re + (c.re * d.im - c.im * d.re) = 0

/-- What a matrix with orthonormal columns makes of two amplitudes has their norm. -/
theorem Orthonormal.normSq_eq {a b c d : Amplitude ℝ} (h : Orthonormal a b c d)
    (x y : Amplitude ℝ) :
    (a * x + b * y).normSq + (c * x + d * y).normSq = x.normSq + y.normSq := by
  have hfirst := h.first
  have hsecond := h.second
  simp only [normSq, add_re, add_im, mul_re, mul_im] at hfirst hsecond ⊢
  linear_combination (x.re * x.re + x.im * x.im) * hfirst + (y.re * y.re + y.im * y.im) * hsecond +
    2 * (x.re * y.re + x.im * y.im) * h.re - 2 * (x.re * y.im - x.im * y.re) * h.im

theorem orthonormal_diagonal {a d : Amplitude ℝ} (ha : a.normSq = 1) (hd : d.normSq = 1) :
    Orthonormal a 0 0 d where
  first := by simpa [normSq] using ha
  second := by simpa [normSq] using hd
  re := by simp
  im := by simp

theorem orthonormal_antidiagonal {b c : Amplitude ℝ} (hb : b.normSq = 1) (hc : c.normSq = 1) :
    Orthonormal 0 b c 0 where
  first := by simpa [normSq] using hc
  second := by simpa [normSq] using hb
  re := by simp
  im := by simp

theorem normSq_one : (1 : Amplitude ℝ).normSq = 1 := by simp [normSq]

theorem normSq_phase (angle : ℝ) : (phase angle).normSq = 1 := by
  have := Real.cos_sq_add_sin_sq angle
  simp only [normSq, phase, Scalar.cos, Scalar.sin]
  linear_combination this

theorem normSq_real (x : ℝ) : (real x).normSq = x * x := by simp [normSq, real]

theorem normSq_imaginary (x : ℝ) : (imaginary x).normSq = x * x := by simp [normSq, imaginary]

/-- The columns of the general rotation. -/
theorem orthonormal_rotation (a φ l : ℝ) :
    Orthonormal (real (Real.cos a)) (-(phase l * real (Real.sin a))) (phase φ * real (Real.sin a))
      (phase (φ + l) * real (Real.cos a)) := by
  have ha := Real.cos_sq_add_sin_sq a
  have hφ := Real.cos_sq_add_sin_sq φ
  have hl := Real.cos_sq_add_sin_sq l
  have hsum := Real.cos_sq_add_sin_sq (φ + l)
  refine ⟨?_, ?_, ?_, ?_⟩
  · simp only [normSq, mul_re, mul_im, real, phase, Scalar.cos, Scalar.sin]
    linear_combination ha + Real.sin a ^ 2 * hφ
  · simp only [normSq, neg_re, neg_im, mul_re, mul_im, real, phase, Scalar.cos, Scalar.sin]
    linear_combination ha + Real.sin a ^ 2 * hl + Real.cos a ^ 2 * hsum
  · simp only [neg_re, neg_im, mul_re, mul_im, real, phase, Scalar.cos, Scalar.sin, Real.cos_add,
      Real.sin_add]
    linear_combination Real.cos a * Real.sin a * Real.cos l * hφ
  · simp only [neg_re, neg_im, mul_re, mul_im, real, phase, Scalar.cos, Scalar.sin, Real.cos_add,
      Real.sin_add]
    linear_combination Real.cos a * Real.sin a * Real.sin l * hφ

/-- The columns of a rotation with equal entries on each diagonal, imaginary ones on the second. -/
theorem orthonormal_circulant {a : ℝ} {s : Amplitude ℝ} (hre : s.re = 0)
    (h : a * a + s.im * s.im = 1) : Orthonormal (real a) s s (real a) where
  first := by
    simp only [normSq, real, hre]
    linear_combination h
  second := by
    simp only [normSq, real, hre]
    linear_combination h
  re := by simp [real, hre]
  im := by
    simp only [real, hre]
    ring

/-- The columns of a rotation with real entries. -/
theorem orthonormal_real {a b c d : ℝ} (hfirst : a * a + c * c = 1) (hsecond : b * b + d * d = 1)
    (hmixed : a * b + c * d = 0) : Orthonormal (real a) (real b) (real c) (real d) where
  first := by rw [normSq_real, normSq_real, hfirst]
  second := by rw [normSq_real, normSq_real, hsecond]
  re := by
    simp only [real]
    linear_combination hmixed
  im := by simp [real]

end Amplitude

def Operator.Isometric (U : Operator (Amplitude ℝ)) (size : Nat) : Prop :=
  ∀ x : Nat → Amplitude ℝ,
    ∑ r ∈ Finset.range size, (dot (U.row r) ((List.range size).map x)).normSq =
      ∑ c ∈ Finset.range size, (x c).normSq

namespace Amplitude

variable {a b c d : Amplitude ℝ}

theorem dot_pair (a b x y : Amplitude ℝ) : dot [a, b] [x, y] = a * x + b * y := by
  simp [dot, Amplitude.add_zero]

theorem isometric_two (h : Orthonormal a b c d) :
    Operator.Isometric ⟨[[a, b], [c, d]]⟩ 2 := by
  intro x
  have hcalc : (dot [a, b] [x 0, x 1]).normSq + (dot [c, d] [x 0, x 1]).normSq =
      (x 0).normSq + (x 1).normSq := by
    rw [dot_pair, dot_pair, h.normSq_eq]
  simp only [Finset.sum_range_succ, Finset.sum_range_zero, zero_add]
  exact hcalc

/-- Two blocks: the first and last states are mapped among each other, and the two between. -/
theorem isometric_four {e f g h : Amplitude ℝ} (houter : Orthonormal a b c d)
    (hinner : Orthonormal e f g h) :
    Operator.Isometric ⟨[[a, 0, 0, b], [0, e, f, 0], [0, g, h, 0], [c, 0, 0, d]]⟩ 4 := by
  intro x
  have houtside (a b : Amplitude ℝ) :
      dot [a, 0, 0, b] [x 0, x 1, x 2, x 3] = a * x 0 + b * x 3 := by
    simp [dot, Amplitude.add_zero, Amplitude.zero_mul, Amplitude.zero_add]
  have hinside (a b : Amplitude ℝ) :
      dot [0, a, b, 0] [x 0, x 1, x 2, x 3] = a * x 1 + b * x 2 := by
    simp [dot, Amplitude.add_zero, Amplitude.zero_mul, Amplitude.zero_add]
  have hcalc : (dot [a, 0, 0, b] [x 0, x 1, x 2, x 3]).normSq +
      (dot [0, e, f, 0] [x 0, x 1, x 2, x 3]).normSq +
      (dot [0, g, h, 0] [x 0, x 1, x 2, x 3]).normSq +
      (dot [c, 0, 0, d] [x 0, x 1, x 2, x 3]).normSq =
        (x 0).normSq + (x 1).normSq + (x 2).normSq + (x 3).normSq := by
    rw [houtside, houtside, hinside, hinside]
    linear_combination houter.normSq_eq (x 0) (x 3) + hinner.normSq_eq (x 1) (x 2)
  simp only [Finset.sum_range_succ, Finset.sum_range_zero, zero_add]
  exact hcalc

end Amplitude

theorem Scalar.half_eq (x : ℝ) : Scalar.half x = x / 2 := by
  change x / (1 + 1) = x / 2
  norm_num

open Amplitude

namespace Rotation

variable {θ : ℝ} {U : Operator (Amplitude ℝ)}

theorem aboutX_isometric (h : aboutX θ = .ok U) : U.Isometric 2 := by
  obtain rfl := Except.ok.inj h
  have hunit := Real.cos_sq_add_sin_sq (Scalar.half θ)
  refine isometric_two (orthonormal_circulant rfl ?_)
  simp only [imaginary, Scalar.cos, Scalar.sin]
  linear_combination hunit

theorem aboutY_isometric (h : aboutY θ = .ok U) : U.Isometric 2 := by
  obtain rfl := Except.ok.inj h
  have hunit := Real.cos_sq_add_sin_sq (Scalar.half θ)
  refine isometric_two (orthonormal_real ?_ ?_ ?_)
  · simp only [Scalar.cos, Scalar.sin]
    linear_combination hunit
  · simp only [Scalar.cos, Scalar.sin]
    linear_combination hunit
  · ring

theorem general_isometric {φ l : ℝ} (h : general θ φ l = .ok U) : U.Isometric 2 := by
  obtain rfl := Except.ok.inj h
  exact isometric_two (orthonormal_rotation _ φ l)

theorem flipBoth_isometric {k : Amplitude ℝ} (hre : k.re * k.re = 1) (him : k.im = 0)
    (h : flipBoth θ k = .ok U) : U.Isometric 4 := by
  obtain rfl := Except.ok.inj h
  have hunit := Real.cos_sq_add_sin_sq (Scalar.half θ)
  refine isometric_four (orthonormal_circulant ?_ ?_) (orthonormal_circulant rfl ?_)
  · simp [imaginary, him]
  · simp only [imaginary, mul_im, him, Scalar.cos, Scalar.sin]
    linear_combination hunit + Real.sin (Scalar.half θ) ^ 2 * hre
  · simp only [imaginary, Scalar.cos, Scalar.sin]
    linear_combination hunit

theorem phaseBoth_isometric (θ : ℝ) : (phaseBoth θ).Isometric 4 :=
  isometric_four (orthonormal_diagonal (normSq_phase _) (normSq_phase _))
    (orthonormal_diagonal (normSq_phase _) (normSq_phase _))

end Rotation

theorem diagonal_isometric {u v : Amplitude ℝ} (hu : u.normSq = 1) (hv : v.normSq = 1) :
    (Operator.diagonal [u, v]).Isometric 2 :=
  isometric_two (orthonormal_diagonal hu hv)

namespace Gate

theorem flip_isometric : (flip : Operator (Amplitude ℝ)).Isometric 2 :=
  isometric_two (orthonormal_antidiagonal normSq_one normSq_one)

noncomputable def rootHalf : ℝ := 1 / Real.sqrt (1 + 1)

theorem rootHalf_pos : 0 < rootHalf := by
  unfold rootHalf
  positivity

theorem rootHalf_mul_self : rootHalf * rootHalf = 1 / 2 := by
  have htwo : Real.sqrt (1 + 1) * Real.sqrt (1 + 1) = 1 + 1 := Real.mul_self_sqrt (by norm_num)
  rw [rootHalf, div_mul_div_comm, htwo]
  norm_num

theorem hadamard_eq : (hadamard : Operator (Amplitude ℝ)) =
    ⟨[[real rootHalf, real rootHalf], [real rootHalf, -real rootHalf]]⟩ := rfl

theorem hadamard_isometric : (hadamard : Operator (Amplitude ℝ)).Isometric 2 := by
  rw [hadamard_eq]
  refine isometric_two ⟨?_, ?_, ?_, ?_⟩
  · rw [normSq_real]
    linear_combination 2 * rootHalf_mul_self
  · simp only [normSq, neg_re, neg_im, real]
    linear_combination 2 * rootHalf_mul_self
  · simp [real]
  · simp [real]

theorem rootOfFlip_isometric : (rootOfFlip : Operator (Amplitude ℝ)).Isometric 2 := by
  refine isometric_two ⟨?_, ?_, ?_, ?_⟩
  all_goals
    simp only [normSq, Scalar.half_eq]
    norm_num

theorem exchange_isometric {k : Amplitude ℝ} (hk : k.normSq = 1) : (exchange k).Isometric 4 :=
  isometric_four (orthonormal_diagonal normSq_one normSq_one) (orthonormal_antidiagonal hk hk)

/-- Only a gate with its number of parameters has a matrix. -/
theorem length_of_operator {R : Type} [Scalar R] {g : Gate} {parameters : List R}
    {U : Operator (Amplitude R)} (h : g.operator parameters = .ok U) :
    parameters.length = g.parameterCount := by
  unfold operator at h
  split at h
  all_goals first
    | contradiction
    | rfl

/-- The matrix of a gate without parameters keeps norms. -/
theorem isometric_of_fixed {g : Gate} {U : Operator (Amplitude ℝ)} (hg : g.parameterCount = 0)
    (h : g.operator [] = .ok U) : U.Isometric (Nat.pow 2 g.targetCount) := by
  have hi : (imaginary (1 : ℝ)).normSq = 1 := by simp [normSq_imaginary]
  have hi' : (imaginary (-1 : ℝ)).normSq = 1 := by simp [normSq_imaginary]
  cases g with
  | rx | ry | rz | p | u1 | u2 | u3 | u | U | crx | cry | crz | cp | cu1 | rxx | ryy | rzz =>
    cases hg
  | id =>
    obtain rfl := Except.ok.inj h
    exact isometric_two (orthonormal_diagonal normSq_one normSq_one)
  | x | cx | CX | ccx =>
    obtain rfl := Except.ok.inj h
    exact flip_isometric
  | y | cy =>
    obtain rfl := Except.ok.inj h
    exact isometric_two (orthonormal_antidiagonal hi' hi)
  | z | cz =>
    obtain rfl := Except.ok.inj h
    exact diagonal_isometric normSq_one (by simp [normSq])
  | h | ch =>
    obtain rfl := Except.ok.inj h
    exact hadamard_isometric
  | s =>
    obtain rfl := Except.ok.inj h
    exact diagonal_isometric normSq_one hi
  | sdg =>
    obtain rfl := Except.ok.inj h
    exact diagonal_isometric normSq_one hi'
  | t | tdg =>
    obtain rfl := Except.ok.inj h
    exact diagonal_isometric normSq_one (normSq_phase _)
  | sx =>
    obtain rfl := Except.ok.inj h
    exact rootOfFlip_isometric
  | swap | cswap =>
    obtain rfl := Except.ok.inj h
    exact exchange_isometric normSq_one
  | iswap =>
    obtain rfl := Except.ok.inj h
    exact exchange_isometric hi

/-- The matrix of a gate of one angle keeps norms. -/
theorem isometric_of_angle {g : Gate} {θ : ℝ} {U : Operator (Amplitude ℝ)}
    (hg : g.parameterCount = 1) (h : g.operator [θ] = .ok U) :
    U.Isometric (Nat.pow 2 g.targetCount) := by
  cases g with
  | id | x | y | z | h | s | sdg | t | tdg | sx | cx | CX | cy | cz | ch | ccx | swap | cswap | iswap
  | u2 | u3 | u | U => cases hg
  | rx | crx => exact Rotation.aboutX_isometric h
  | ry | cry => exact Rotation.aboutY_isometric h
  | rz | crz =>
    obtain rfl := Except.ok.inj h
    exact diagonal_isometric (normSq_phase _) (normSq_phase _)
  | p | u1 | cp | cu1 =>
    obtain rfl := Except.ok.inj h
    exact diagonal_isometric normSq_one (normSq_phase _)
  | rxx | ryy => exact Rotation.flipBoth_isometric (by simp) (by simp) h
  | rzz =>
    obtain rfl := Except.ok.inj h
    exact Rotation.phaseBoth_isometric θ

/-- The matrix of a gate keeps norms. -/
theorem operator_isometric {g : Gate} {parameters : List ℝ} {U : Operator (Amplitude ℝ)}
    (h : g.operator parameters = .ok U) : U.Isometric (Nat.pow 2 g.targetCount) := by
  have hlength := length_of_operator h
  cases g with
  | u2 =>
    obtain ⟨φ, l, rfl⟩ := List.length_eq_two.mp hlength
    exact Rotation.general_isometric h
  | u3 | u | U =>
    obtain ⟨θ, φ, l, rfl⟩ := List.length_eq_three.mp hlength
    exact Rotation.general_isometric h
  | rx | ry | rz | p | u1 | crx | cry | crz | cp | cu1 | rxx | ryy | rzz =>
    obtain ⟨θ, rfl⟩ := List.length_eq_one_iff.mp hlength
    exact isometric_of_angle rfl h
  | id | x | y | z | h | s | sdg | t | tdg | sx | cx | CX | cy | cz | ch | ccx | swap | cswap
  | iswap =>
    obtain rfl := List.eq_nil_of_length_eq_zero hlength
    exact isometric_of_fixed rfl h

end Gate

end CircuitConsole
