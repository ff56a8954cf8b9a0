import CircuitConsole.Proofs.Simulation.SettledVectors

/-!
Superpositions that gates on single qubits make of the zero state. The Hadamard gate spreads a
vector evenly over one qubit after the other; with each of them the entries get smaller, down to
where they are pruned. A rotation spreads a vector unevenly, so that one value of the qubit may be
found although it is as good as impossible.
-/

namespace CircuitConsole.Simulation

open Amplitude Gate

variable {n k q : Nat}

theorem real_mul_real (x y : ℝ) : real x * real y = real (x * y) := by
  change (⟨x * y - 0 * 0, x * 0 + 0 * y⟩ : Amplitude ℝ) = ⟨x * y, 0⟩
  simp

/-- A matrix on one qubit mixes the two entries that differ in this qubit only. -/
theorem amplitudeAt_applyTo_singleton {a b c d : Amplitude ℝ} {v : Array (Amplitude ℝ)} {i : Nat}
    (hi : i < v.size) :
    amplitudeAt (applyTo ⟨[[a, b], [c, d]]⟩ [q] v) i =
      if i.testBit q then
        c * amplitudeAt v (writeBit i q false) + d * amplitudeAt v (writeBit i q true)
      else a * amplitudeAt v (writeBit i q false) + b * amplitudeAt v (writeBit i q true) := by
  rw [applyTo, amplitudeAt_applyWhere hi, if_pos rfl]
  cases hbit : i.testBit q with
  | false =>
    have hpick : pickBits [q] i = 0 := by simp [pickBits, hbit]
    rw [hpick]
    exact dot_pair a b _ _
  | true =>
    have hpick : pickBits [q] i = 1 := by simp [pickBits, hbit]
    rw [hpick]
    exact dot_pair c d _ _

theorem writeBit_lt_iff (i k : Nat) (value : Bool) :
    writeBit i k value < Nat.pow 2 k ↔ i < Nat.pow 2 (k + 1) ∧ value = false := by
  constructor
  · intro h
    refine ⟨Nat.lt_pow_two_of_testBit _ fun j hj => ?_, ?_⟩
    · have hwritten := testBit_writeBit i k value j
      rw [if_neg (by omega)] at hwritten
      rw [← hwritten]
      exact Nat.testBit_lt_two_pow (h.trans_le (Nat.pow_le_pow_right two_pos (by omega)))
    · have hwritten := testBit_writeBit i k value k
      rw [if_pos rfl] at hwritten
      rw [← hwritten]
      exact Nat.testBit_lt_two_pow h
  · rintro ⟨h, rfl⟩
    refine Nat.lt_pow_two_of_testBit _ fun j hj => ?_
    rw [testBit_writeBit]
    split
    · rfl
    · exact Nat.testBit_lt_two_pow (h.trans_le (Nat.pow_le_pow_right two_pos (by omega)))

noncomputable def uniform (n k : Nat) : Array (Amplitude ℝ) :=
  Array.ofFn (n := Nat.pow 2 n) fun i => if i.val < Nat.pow 2 k then real (rootHalf ^ k) else 0

theorem size_uniform (n k : Nat) : (uniform n k).size = Nat.pow 2 n := Array.size_ofFn

theorem amplitudeAt_uniform (hk : k ≤ n) (i : Nat) :
    amplitudeAt (uniform n k) i = if i < Nat.pow 2 k then real (rootHalf ^ k) else 0 := by
  by_cases hi : i < Nat.pow 2 n
  · rw [amplitudeAt_of_lt (by rwa [size_uniform])]
    simp only [uniform, Array.getElem_ofFn]
  · have hout : ¬i < Nat.pow 2 k := fun h => hi (h.trans_le (Nat.pow_le_pow_right two_pos hk))
    rw [amplitudeAt_of_le (by rw [size_uniform]; omega), if_neg hout]

theorem uniform_zero (n : Nat) : uniform n 0 = zeroVector n := by
  refine ext_amplitudeAt ((size_uniform n 0).trans (size_zeroVector n).symm) fun i _ => ?_
  rw [amplitudeAt_uniform (Nat.zero_le n), amplitudeAt_zeroVector_of_real]
  exact if_congr Nat.lt_one_iff rfl rfl

/-- The Hadamard gate on the next qubit spreads the vector over it. -/
theorem applyTo_hadamard (hk : k < n) :
    applyTo hadamard [k] (uniform n k) = uniform n (k + 1) := by
  have hsize : (applyTo hadamard [k] (uniform n k)).size = Nat.pow 2 n :=
    (size_applyWhere _ _ _ _).trans (size_uniform n k)
  refine ext_amplitudeAt (hsize.trans (size_uniform n _).symm) fun i hi => ?_
  have hone : amplitudeAt (uniform n k) (writeBit i k true) = 0 := by
    rw [amplitudeAt_uniform hk.le, if_neg]
    rw [writeBit_lt_iff]
    simp
  have hzero : real rootHalf * amplitudeAt (uniform n k) (writeBit i k false) =
      amplitudeAt (uniform n (k + 1)) i := by
    rw [amplitudeAt_uniform hk.le, amplitudeAt_uniform hk]
    simp only [writeBit_lt_iff, and_true]
    split
    · rw [real_mul_real, pow_succ']
    · exact Amplitude.mul_zero _
  rw [hadamard_eq, amplitudeAt_applyTo_singleton (by rwa [size_uniform, ← hsize]), hone, hzero,
    Amplitude.mul_zero, Amplitude.mul_zero, Amplitude.add_zero, ite_self]

theorem normSqSum_uniform (hk : k ≤ n) : normSqSum (uniform n k) = 1 := by
  induction k with
  | zero => rw [uniform_zero, normSqSum_zeroVector]
  | succ k ih =>
    rw [← applyTo_hadamard hk, ← ih (Nat.le_of_succ_le hk)]
    exact normSqSum_applyWhere hadamard_isometric (List.nodup_singleton k) (by simpa using hk)
      (fun _ _ _ => rfl) (size_uniform n k)

/-- Over up to 79 qubits a vector can be spread without being pruned. -/
theorem cutoff_le_rootHalf_pow (hk : k ≤ 79) : Scalar.cutoff ≤ rootHalf ^ k := by
  have hone : rootHalf ≤ 1 := by nlinarith [rootHalf_mul_self, rootHalf_pos]
  have hsq : (1 / 10 ^ 12 : ℝ) ^ 2 ≤ (rootHalf ^ 79) ^ 2 := by
    rw [← pow_mul, mul_comm, pow_mul, sq rootHalf, rootHalf_mul_self]
    norm_num
  rw [Scalar.cutoff_eq]
  calc (1 / 10 ^ 12 : ℝ) ≤ rootHalf ^ 79 :=
        le_of_sq_le_sq hsq (pow_nonneg rootHalf_pos.le 79)
    _ ≤ rootHalf ^ k := pow_le_pow_of_le_one rootHalf_pos.le hone hk

theorem settled_uniform (hk : k ≤ n) (h79 : k ≤ 79) : Settled (uniform n k) := by
  refine settled_of_norm_one (fun i => ?_) (normSqSum_uniform hk)
  rw [amplitudeAt_uniform hk]
  split
  · exact ⟨.inr ((cutoff_le_rootHalf_pow h79).trans (le_abs_self _)), .inl rfl⟩
  · exact pruned_zero

theorem rootHalf_pow_lt_cutoff : rootHalf ^ 80 < Scalar.cutoff := by
  rw [Scalar.cutoff_eq, pow_mul rootHalf 2 40, sq, rootHalf_mul_self]
  norm_num

/-- Both parts of the phase at half a right angle, in either direction. -/
theorem phase_half_right_angle :
    phase (Scalar.half (Real.pi / 2)) = ⟨rootHalf, rootHalf⟩ ∧
      phase (-Scalar.half (Real.pi / 2)) = ⟨rootHalf, -rootHalf⟩ := by
  have hangle : Scalar.half (Real.pi / 2) = Real.pi / 4 := by
    rw [Scalar.half_eq]
    ring
  have hroot : Real.sqrt 2 / 2 = rootHalf := by
    rw [rootHalf, one_add_one_eq_two, Real.sqrt_div_self']
  rw [hangle]
  constructor
  · simp only [phase, Scalar.cos, Scalar.sin, Real.cos_pi_div_four, Real.sin_pi_div_four, hroot]
  · simp only [phase, Scalar.cos, Scalar.sin, Real.cos_neg, Real.sin_neg, Real.cos_pi_div_four,
      Real.sin_pi_div_four, hroot]

/-- Amplitudes with both parts near to zero are pruned altogether. -/
theorem prune_eq_zero {a : Amplitude ℝ} (hre : |a.re| < Scalar.cutoff)
    (him : |a.im| < Scalar.cutoff) : a.prune = 0 := by
  rw [prune_eq, prunePart, prunePart, if_pos hre, if_pos him]
  rfl

/-- Turned by a right angle, all parts of a vector that is spread over 79 qubits are pruned. -/
theorem amplitudeAt_turned (hn : 79 ≤ n) (hq : q < n) (i : Nat) :
    amplitudeAt (normalise (applyTo (Rotation.aboutZ (Real.pi / 2)) [q] (uniform n 79))) i = 0 := by
  let turned := applyTo (Rotation.aboutZ (Real.pi / 2)) [q] (uniform n 79)
  have hsize : turned.size = Nat.pow 2 n := (size_applyWhere _ _ _ _).trans (size_uniform n 79)
  have hnorm : normSqSum turned = 1 := by
    rw [← normSqSum_uniform hn]
    exact normSqSum_applyWhere (diagonal_isometric (normSq_phase _) (normSq_phase _))
      (List.nodup_singleton q) (by simpa using hq) (fun _ _ _ => rfl) (size_uniform n 79)
  have hsmall {x : ℝ} (hx : |x| = rootHalf) : |x * rootHalf ^ 79| < Scalar.cutoff := by
    rw [abs_mul, hx, abs_of_pos (pow_pos rootHalf_pos 79), ← pow_succ']
    exact rootHalf_pow_lt_cutoff
  have hentry {z : Amplitude ℝ} (hre : |z.re| = rootHalf) (him : |z.im| = rootHalf) (j : Nat) :
      (z * amplitudeAt (uniform n 79) j).prune = 0 := by
    rw [amplitudeAt_uniform hn]
    split
    · exact prune_eq_zero (by simpa [real] using hsmall hre) (by simpa [real] using hsmall him)
    · rw [Amplitude.mul_zero, prune_zero]
  have hroot : |rootHalf| = rootHalf := abs_of_pos rootHalf_pos
  have hroot' : |-rootHalf| = rootHalf := (abs_neg _).trans hroot
  have hturned : (amplitudeAt turned i).prune = 0 := by
    by_cases hi : i < turned.size
    · rw [hsize, ← size_uniform n 79] at hi
      change (amplitudeAt (applyTo ⟨[[phase _, 0], [0, phase _]]⟩ [q] (uniform n 79)) i).prune = 0
      rw [amplitudeAt_applyTo_singleton hi, phase_half_right_angle.1, phase_half_right_angle.2,
        Amplitude.zero_mul, Amplitude.zero_mul, Amplitude.zero_add, Amplitude.add_zero]
      split
      · exact hentry hroot hroot _
      · exact hentry hroot hroot' _
    · rw [amplitudeAt_of_le (not_lt.mp hi), prune_zero]
  change amplitudeAt (normalise turned) i = 0
  rcases normalise_cases turned with ⟨hoff, _, _⟩ | ⟨_, heq⟩
  · rw [hnorm, sub_self, abs_zero] at hoff
    exact absurd hoff (not_lt.mpr Scalar.normTolerance_pos.le)
  · rw [heq, amplitudeAt_map prune_zero, hturned]

noncomputable def pair (x y : ℝ) : Array (Amplitude ℝ) := #[real x, real y]

theorem amplitudeAt_pair (x y : ℝ) (i : Nat) :
    amplitudeAt (pair x y) i = if i = 0 then real x else if i = 1 then real y else 0 := by
  rcases i with _ | _ | i <;> rfl

theorem normSqSum_pair (x y : ℝ) : normSqSum (pair x y) = x * x + y * y := by
  simp [normSqSum, pair, normSq_real]

theorem uniform_one : uniform 1 1 = pair rootHalf rootHalf := by
  refine ext_amplitudeAt (size_uniform 1 1) fun i hi => ?_
  have hbit : i = 0 ∨ i = 1 := by
    rw [size_uniform] at hi
    change i < 2 at hi
    omega
  rw [amplitudeAt_uniform le_rfl, amplitudeAt_pair, pow_one]
  rcases hbit with rfl | rfl <;> rfl

/-- Only the entry where the qubit has the value is left. -/
theorem project_pair (x y : ℝ) (value : Bool) :
    project (pair x y) 0 value = if value then pair 0 y else pair x 0 := by
  cases value <;> rfl

/-- Entries that are not pruned stay as they are where the norm asks for no scaling. -/
theorem normalise_pair {x y : ℝ} (hx : Kept x) (hy : Kept y)
    (hnorm : |x * x + y * y - 1| ≤ Scalar.normTolerance ∨ x * x + y * y ≤ Scalar.cutoff) :
    normalise (pair x y) = pair x y := by
  rcases normalise_cases (pair x y) with ⟨hoff, hsome, _⟩ | ⟨_, heq⟩
  · rw [normSqSum_pair] at hoff hsome
    rcases hnorm with hnear | hnone
    · exact absurd hnear (not_le.mpr hoff)
    · exact absurd hnone (not_le.mpr hsome)
  · rw [heq]
    refine map_prune fun i => ?_
    rw [amplitudeAt_pair]
    split
    · exact ⟨hx, .inl rfl⟩
    · split
      · exact ⟨hy, .inl rfl⟩
      · exact pruned_zero

/-- A rotation of the zero state. -/
theorem aboutY_zeroVector (θ : ℝ) :
    ∃ U, Rotation.aboutY θ = .ok U ∧
      applyTo U [0] (zeroVector 1) =
        pair (Real.cos (Scalar.half θ)) (Real.sin (Scalar.half θ)) := by
  refine ⟨_, rfl, ext_amplitudeAt ((size_applyWhere _ _ _ _).trans (size_zeroVector 1))
    fun i hi => ?_⟩
  rw [applyTo, size_applyWhere] at hi
  rw [amplitudeAt_applyTo_singleton hi, amplitudeAt_zeroVector_of_real,
    amplitudeAt_zeroVector_of_real, amplitudeAt_pair]
  have hbit : i = 0 ∨ i = 1 := by
    rw [size_zeroVector] at hi
    change i < 2 at hi
    omega
  have hcolumn (a b : ℝ) : real a * 1 + real b * 0 = real a := by
    rw [Amplitude.mul_zero, Amplitude.add_zero]
    exact (real_mul_real a 1).trans (congrArg real (mul_one a))
  rcases hbit with rfl | rfl
  · exact hcolumn _ _
  · exact hcolumn _ _

end CircuitConsole.Simulation
