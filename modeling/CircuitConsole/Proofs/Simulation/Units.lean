import CircuitConsole.Simulation.Machine
import Mathlib.Data.List.Nodup

/-!
Arithmetic on zero and one. Sums in which at most one term is one, and products of zeros and ones,
are exact also for numbers that are otherwise rounded. Floating-point numbers satisfy the few
equations that this takes.
-/

namespace CircuitConsole

def unit {K : Type} [Zero K] [One K] (b : Bool) : K := if b then 1 else 0

/-- Numbers whose zero and one are added exactly, as long as not both are one. -/
class UnitSums (K : Type) [Zero K] [One K] [Add K] : Prop where
  zero_add_zero : (0 : K) + 0 = 0
  one_add_zero : (1 : K) + 0 = 1
  zero_add_one : (0 : K) + 1 = 1

theorem unit_add {K : Type} [Zero K] [One K] [Add K] [UnitSums K] {a b : Bool}
    (h : (a && b) = false) : (unit a + unit b : K) = unit (a || b) := by
  cases a <;> cases b
  · exact UnitSums.zero_add_zero
  · exact UnitSums.zero_add_one
  · exact UnitSums.one_add_zero
  · contradiction

/-- A sum with one term that may be one. -/
theorem sum_unit {K : Type} [Zero K] [One K] [Add K] [UnitSums K] {places : List Nat}
    (hdistinct : places.Nodup) (p : Nat) (b : Bool) :
    (places.map fun c => (unit (decide (c = p) && b) : K)).sum =
      unit (decide (p ∈ places) && b) := by
  induction places with
  | nil => rfl
  | cons c places ih =>
    obtain ⟨hc, hdistinct⟩ := List.nodup_cons.mp hdistinct
    rw [List.map_cons, List.sum_cons, ih hdistinct, unit_add]
    · congr 1
      by_cases hp : c = p
      · simp [hp]
      · simp [hp, Ne.symm hp]
    · by_cases hp : c = p
      · simp [← hp, hc]
      · simp [hp]

/-- Numbers that compute exactly with zero and one, and tell both from the tolerances. -/
class ExactUnits (R : Type) [Scalar R] : Prop extends UnitSums R where
  mul_units : ∀ a b : Bool, (unit a * unit b : R) = unit (a && b)
  sub_zero : ∀ a : Bool, (unit a - 0 : R) = unit a
  one_sub_one : (1 - 1 : R) = 0
  zero_not_negative : Scalar.less (0 : R) 0 = false
  one_not_negative : Scalar.less (1 : R) 0 = false
  within_tolerance : Scalar.less (Scalar.normTolerance : R) 0 = false
  one_not_pruned : Scalar.less (1 : R) Scalar.cutoff = false

instance : ExactUnits Float where
  zero_add_zero := rfl
  one_add_zero := rfl
  zero_add_one := rfl
  mul_units a b := by cases a <;> cases b <;> rfl
  sub_zero a := by cases a <;> rfl
  one_sub_one := rfl
  zero_not_negative := by decide +kernel
  one_not_negative := by decide +kernel
  within_tolerance := by decide +kernel
  one_not_pruned := by decide +kernel

namespace Amplitude

variable {R : Type} [Scalar R] [ExactUnits R]

omit [ExactUnits R] in
theorem unit_eq (b : Bool) : (unit b : Amplitude R) = ⟨unit b, 0⟩ := by
  cases b <;> rfl

instance : UnitSums (Amplitude R) where
  zero_add_zero := by
    change (⟨0 + 0, 0 + 0⟩ : Amplitude R) = ⟨0, 0⟩
    rw [UnitSums.zero_add_zero]
  one_add_zero := by
    change (⟨1 + 0, 0 + 0⟩ : Amplitude R) = ⟨1, 0⟩
    rw [UnitSums.zero_add_zero, UnitSums.one_add_zero]
  zero_add_one := by
    change (⟨0 + 1, 0 + 0⟩ : Amplitude R) = ⟨1, 0⟩
    rw [UnitSums.zero_add_zero, UnitSums.zero_add_one]

theorem mul_zero_unit (a b : Bool) : (unit a * 0 : R) = 0 ∧ (0 * unit b : R) = 0 := by
  have hright := ExactUnits.mul_units (R := R) a false
  have hleft := ExactUnits.mul_units (R := R) false b
  rw [Bool.and_false] at hright
  rw [Bool.false_and] at hleft
  exact ⟨hright, hleft⟩

theorem unit_mul (a b : Bool) : (unit a * unit b : Amplitude R) = unit (a && b) := by
  obtain ⟨ha, hb⟩ := mul_zero_unit (R := R) a b
  have hzero : (0 * 0 : R) = 0 := (mul_zero_unit (R := R) false false).1
  rw [unit_eq, unit_eq, unit_eq]
  change (⟨unit a * unit b - 0 * 0, unit a * 0 + 0 * unit b⟩ : Amplitude R) = ⟨unit (a && b), 0⟩
  rw [ExactUnits.mul_units, hzero, ExactUnits.sub_zero, ha, hb, UnitSums.zero_add_zero]

theorem normSq_unit (b : Bool) : (unit b : Amplitude R).normSq = unit b := by
  have hzero : (0 * 0 : R) = 0 := (mul_zero_unit (R := R) false false).1
  rw [unit_eq, normSq, ExactUnits.mul_units, hzero, Bool.and_self]
  exact (unit_add (Bool.and_false b)).trans (by rw [Bool.or_false])

theorem prune_unit (b : Bool) : (unit b : Amplitude R).prune = unit b := by
  have hpart (b : Bool) : (if Scalar.less (Scalar.magnitude (unit b : R)) Scalar.cutoff then 0
      else (unit b : R)) = unit b := by
    cases b with
    | false => exact ite_self _
    | true =>
      change (if Scalar.less (Scalar.magnitude (1 : R)) Scalar.cutoff then 0 else (1 : R)) = 1
      simp only [Scalar.magnitude, ExactUnits.one_not_negative, Bool.false_eq_true, if_false,
        ExactUnits.one_not_pruned]
  rw [unit_eq, prune]
  dsimp only
  rw [hpart b, ite_self]

end Amplitude

end CircuitConsole
