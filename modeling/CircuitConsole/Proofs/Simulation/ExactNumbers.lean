import CircuitConsole.Proofs.Simulation.Shape
import Mathlib.Analysis.SpecialFunctions.Trigonometric.Basic
import Mathlib.Tactic.NormNum

/-!
Exact numbers. A sum of them does not depend on the order of its terms, and products and quotients
of zero are zero. The real numbers are exact; a state vector over them has exact complex numbers
as its amplitudes.
-/

namespace CircuitConsole

open Simulation

/-- Numbers that are not rounded where they are added up, and that zero makes zero. -/
class ExactNumbers (R : Type) [Scalar R] : Prop where
  add_comm : ∀ a b : R, a + b = b + a
  add_assoc : ∀ a b c : R, a + b + c = a + (b + c)
  zero_add : ∀ a : R, 0 + a = a
  mul_zero : ∀ a : R, a * 0 = 0
  zero_sub_zero : (0 : R) - 0 = 0
  zero_div : ∀ a : R, 0 / a = 0

-- Over the real numbers their own operations are meant, not those of the simulator.
attribute [instance (100)] Scalar.toZero Scalar.toOne Scalar.toAdd Scalar.toSub Scalar.toMul
  Scalar.toDiv Scalar.toNeg

noncomputable instance : Scalar ℝ where
  less x y := decide (x < y)
  sqrt := Real.sqrt
  cos := Real.cos
  sin := Real.sin
  pi := Real.pi
  bounded _ := true
  decimal n k := n / 10 ^ k

instance : ExactNumbers ℝ where
  add_comm := add_comm
  add_assoc := add_assoc
  zero_add := zero_add
  mul_zero := mul_zero
  zero_sub_zero := sub_zero 0
  zero_div := zero_div

namespace Scalar

theorem less_iff {x y : ℝ} : less x y = true ↔ x < y := decide_eq_true_iff

theorem magnitude_eq (x : ℝ) : magnitude x = |x| := by
  unfold magnitude
  split
  · rename_i h
    exact (abs_of_neg (less_iff.mp h)).symm
  · rename_i h
    exact (abs_of_nonneg (not_lt.mp (mt less_iff.mpr h))).symm

theorem cutoff_eq : (cutoff : ℝ) = 1 / 10 ^ 12 := by
  change ((1 : ℕ) : ℝ) / 10 ^ 12 = 1 / 10 ^ 12
  rw [Nat.cast_one]

theorem normTolerance_eq : (normTolerance : ℝ) = 1 / 10 ^ 15 := by
  change ((1 : ℕ) : ℝ) / 10 ^ 15 = 1 / 10 ^ 15
  rw [Nat.cast_one]

theorem cutoff_pos : (0 : ℝ) < cutoff := by
  rw [cutoff_eq]
  norm_num

theorem normTolerance_pos : (0 : ℝ) < normTolerance := by
  rw [normTolerance_eq]
  norm_num

end Scalar

variable {R : Type} [Scalar R]

namespace Amplitude

theorem prune_zero : (0 : Amplitude R).prune = 0 := by
  change (⟨if _ then 0 else 0, if _ then 0 else 0⟩ : Amplitude R) = ⟨0, 0⟩
  rw [ite_self, ite_self]

variable [ExactNumbers R]

theorem add_zero_zero : (0 + 0 : Amplitude R) = 0 := by
  change (⟨0 + 0, 0 + 0⟩ : Amplitude R) = ⟨0, 0⟩
  rw [ExactNumbers.zero_add]

theorem mul_zero (a : Amplitude R) : a * 0 = 0 := by
  change (⟨a.re * 0 - a.im * 0, a.re * 0 + a.im * 0⟩ : Amplitude R) = ⟨0, 0⟩
  rw [ExactNumbers.mul_zero, ExactNumbers.mul_zero, ExactNumbers.zero_sub_zero,
    ExactNumbers.zero_add]

theorem normSq_zero : (0 : Amplitude R).normSq = 0 := by
  change (0 * 0 + 0 * 0 : R) = 0
  rw [ExactNumbers.mul_zero, ExactNumbers.zero_add]

theorem divide_zero (x : R) : (0 : Amplitude R).divide x = 0 := by
  change (⟨0 / x, 0 / x⟩ : Amplitude R) = ⟨0, 0⟩
  rw [ExactNumbers.zero_div]

end Amplitude

/-- A row of an operator makes zero of zeros. -/
theorem dot_zeros [ExactNumbers R] (row zeros : List (Amplitude R)) (h : ∀ a ∈ zeros, a = 0) :
    dot row zeros = 0 := by
  unfold dot
  induction row generalizing zeros with
  | nil => rfl
  | cons x row ih =>
    cases zeros with
    | nil => rfl
    | cons a zeros =>
      rw [List.zipWith_cons_cons, List.sum_cons, h a (List.mem_cons_self ..), Amplitude.mul_zero,
        ih zeros fun b hb => h b (List.mem_cons_of_mem _ hb), Amplitude.add_zero_zero]

namespace Simulation

/-- Zero entries stay zero when a vector is normalised. -/
theorem amplitudeAt_normalise [ExactNumbers R] {v : Array (Amplitude R)} {i : Nat}
    (h : amplitudeAt v i = 0) : amplitudeAt (normalise v) i = 0 := by
  unfold normalise
  rw [amplitudeAt_map Amplitude.prune_zero]
  split
  · rw [amplitudeAt_map (Amplitude.divide_zero _), h, Amplitude.divide_zero, Amplitude.prune_zero]
  · rw [h, Amplitude.prune_zero]

abbrev exactSums (R : Type) [Scalar R] [ExactNumbers R] : AddCommMonoid R where
  add_assoc := ExactNumbers.add_assoc
  zero_add := ExactNumbers.zero_add
  add_zero a := (ExactNumbers.add_comm a 0).trans (ExactNumbers.zero_add a)
  add_comm := ExactNumbers.add_comm
  nsmul := nsmulRec

/-- Vectors whose entries other than zero are the same, at corresponding places, have the same
norm. -/
theorem normSqSum_eq_of_places [ExactNumbers R] {v v' : Array (Amplitude R)} (f : Nat → Nat)
    (s : Finset Nat) (hsize : s ⊆ Finset.range v'.size)
    (hrange : ∀ j ∈ s, f j < v.size) (hinjective : ∀ j ∈ s, ∀ k ∈ s, f j = f k → j = k)
    (hsurjective : ∀ i, i < v.size → ∃ j ∈ s, f j = i)
    (hinside : ∀ j ∈ s, amplitudeAt v' j = amplitudeAt v (f j))
    (houtside : ∀ j, j ∉ s → amplitudeAt v' j = 0) : normSqSum v' = normSqSum v := by
  let _ := exactSums R
  have hsum (w : Array (Amplitude R)) :
      normSqSum w = ∑ i ∈ Finset.range w.size, (amplitudeAt w i).normSq := by
    rw [normSqSum_eq, ← List.sum_toFinset _ List.nodup_range, List.toFinset_range]
  rw [hsum, hsum, ← Finset.sum_subset hsize]
  · refine Finset.sum_nbij f ?_ ?_ ?_ ?_
    · exact fun j hj => Finset.mem_range.mpr (hrange j hj)
    · exact fun j hj k hk => hinjective j hj k hk
    · exact fun i hi => hsurjective i (Finset.mem_range.mp hi)
    · exact fun j hj => by rw [hinside j hj]
  · intro j _ hj
    rw [houtside j hj, Amplitude.normSq_zero]

end Simulation

end CircuitConsole
