import CircuitConsole.Proofs.Simulation.ExactNorms

/-!
Vectors that are normalised. Scaling makes the norm as good as one and pruning takes little away, as
long as there are not too many qubits, so that a vector never gets near to zero by being normalised.
Where nothing is left to prune, a vector stays as it is; that is so for the part of such a vector
where a qubit has a value, unless this part is as good as zero.
-/

namespace CircuitConsole.Simulation

/-- How much of its norm a vector of so many qubits may lose when it is pruned. -/
noncomputable def pruningLoss (n : Nat) : ℝ := 2 ^ n * (2 * Scalar.cutoff ^ 2)

structure Settled (v : Array (Amplitude ℝ)) : Prop where
  pruned : ∀ i, (amplitudeAt v i).Pruned
  norm : |normSqSum v - 1| ≤ Scalar.normTolerance

/-- A vector of so many qubits that pruning leaves alone, and whose norm was as good as one before
it was last pruned. -/
structure Sound (n : Nat) (v : Array (Amplitude ℝ)) : Prop where
  size : v.size = Nat.pow 2 n
  pruned : ∀ i, (amplitudeAt v i).Pruned
  le : normSqSum v ≤ 1 + Scalar.normTolerance
  ge : 1 - Scalar.normTolerance - pruningLoss n ≤ normSqSum v

theorem pruningLoss_nonneg (n : Nat) : 0 ≤ pruningLoss n := by
  unfold pruningLoss
  positivity

/-- Up to 78 qubits there is more norm than pruning can take away. -/
theorem pruningLoss_le {n : Nat} (hn : n ≤ 78) : pruningLoss n ≤ 61 / 100 := by
  have hpow : (2 : ℝ) ^ n ≤ 2 ^ 78 := pow_le_pow_right₀ (by norm_num) hn
  unfold pruningLoss
  rw [Scalar.cutoff_eq]
  calc (2 : ℝ) ^ n * (2 * (1 / 10 ^ 12) ^ 2) ≤ 2 ^ 78 * (2 * (1 / 10 ^ 12) ^ 2) := by gcongr
    _ ≤ 61 / 100 := by norm_num

variable {n : Nat} {v : Array (Amplitude ℝ)}

theorem Settled.sound (h : Settled v) (hsize : v.size = Nat.pow 2 n) : Sound n v := by
  have hnorm := abs_le.mp h.norm
  have hloss := pruningLoss_nonneg n
  exact ⟨hsize, h.pruned, by linarith, by linarith⟩

theorem map_prune (h : ∀ i, (amplitudeAt v i).Pruned) : v.map Amplitude.prune = v := by
  refine ext_amplitudeAt Array.size_map fun i _ => ?_
  rw [amplitudeAt_map Amplitude.prune_zero, (h i).prune_eq_self]

/-- A vector of norm one is settled if there is nothing to prune. -/
theorem settled_of_norm_one (hpruned : ∀ i, (amplitudeAt v i).Pruned) (hnorm : normSqSum v = 1) :
    Settled v where
  pruned := hpruned
  norm := by
    rw [hnorm, sub_self, abs_zero]
    exact Scalar.normTolerance_pos.le

/-- A vector that is settled stays as it is. -/
theorem Settled.normalise_eq (h : Settled v) : normalise v = v := by
  rcases normalise_cases v with ⟨hoff, _, _⟩ | ⟨_, heq⟩
  · exact absurd h.norm (not_le.mpr hoff)
  · rw [heq, map_prune h.pruned]

/-- Any vector that is not as good as zero is sound once it is normalised. -/
theorem sound_normalise (hsize : v.size = Nat.pow 2 n) (hv : Scalar.cutoff < normSqSum v) :
    Sound n (normalise v) := by
  have hpruned {u : Array (Amplitude ℝ)} (husize : u.size = Nat.pow 2 n)
      (hnorm : |normSqSum u - 1| ≤ Scalar.normTolerance) : Sound n (u.map Amplitude.prune) := by
    have hbounds := abs_le.mp hnorm
    have hloss : (u.size : ℝ) * (2 * Scalar.cutoff ^ 2) = pruningLoss n := by
      rw [husize]
      change ((2 ^ n : ℕ) : ℝ) * _ = _
      rw [Nat.cast_pow, Nat.cast_ofNat, pruningLoss]
    obtain ⟨hle, hge⟩ := normSqSum_prune u
    rw [hloss] at hge
    refine ⟨Array.size_map.trans husize, fun i => ?_, by linarith, by linarith⟩
    rw [amplitudeAt_map Amplitude.prune_zero]
    exact Amplitude.pruned_prune _
  rcases normalise_cases v with ⟨_, _, heq⟩ | ⟨hnear | hnone, heq⟩
  · rw [heq]
    refine hpruned ((size_scale v).trans hsize) ?_
    rw [normSqSum_scale (Scalar.cutoff_pos.trans hv), sub_self, abs_zero]
    exact Scalar.normTolerance_pos.le
  · rw [heq]
    exact hpruned hsize hnear
  · exact absurd hv (not_lt.mpr hnone)

/-- Where nothing is left to be pruned and the norm is at most as good as one, scaling settles. -/
theorem settled_normalise (hpruned : ∀ i, (amplitudeAt v i).Pruned)
    (hle : normSqSum v ≤ 1 + Scalar.normTolerance) (hv : Scalar.cutoff < normSqSum v) :
    Settled (normalise v) := by
  have hpositive : 0 < normSqSum v := Scalar.cutoff_pos.trans hv
  rcases normalise_cases v with ⟨hoff, _, heq⟩ | ⟨hnear | hnone, heq⟩
  · have hbelow : normSqSum v < 1 := by
      by_contra hnot
      rw [abs_of_nonneg (by linarith)] at hoff
      linarith
    have hroot : 0 < Real.sqrt (normSqSum v) := Real.sqrt_pos.mpr hpositive
    have hroot' : Real.sqrt (normSqSum v) ≤ 1 := Real.sqrt_le_one.mpr hbelow.le
    have hscaled : ∀ i, (amplitudeAt (scale v) i).Pruned := by
      intro i
      rw [amplitudeAt_scale]
      exact (hpruned i).divide hroot hroot'
    rw [heq, map_prune hscaled]
    exact settled_of_norm_one hscaled (normSqSum_scale hpositive)
  · rw [heq, map_prune hpruned]
    exact ⟨hpruned, hnear⟩
  · exact absurd hv (not_lt.mpr hnone)

theorem Sound.cutoff_lt (h : Sound n v) (hn : n ≤ 78) : Scalar.cutoff < normSqSum v := by
  have hloss := pruningLoss_le hn
  have hge := h.ge
  rw [Scalar.normTolerance_eq] at hge
  rw [Scalar.cutoff_eq]
  norm_num at hge ⊢
  linarith

theorem Sound.exists_ne_zero (h : Sound n v) (hn : n ≤ 78) :
    ∃ i, i < v.size ∧ amplitudeAt v i ≠ 0 := by
  by_contra hnot
  simp only [not_exists, not_and, not_not] at hnot
  have hzero : normSqSum v = 0 := by
    rw [normSqSum_eq_sum]
    refine Finset.sum_eq_zero fun i hi => ?_
    rw [hnot i (Finset.mem_range.mp hi), Amplitude.normSq_zero]
  have hcutoff := h.cutoff_lt hn
  rw [hzero] at hcutoff
  exact lt_asymm hcutoff Scalar.cutoff_pos

theorem amplitudeAt_zeroVector_of_real (n i : Nat) :
    amplitudeAt (zeroVector n : Array (Amplitude ℝ)) i = if i = 0 then 1 else 0 := by
  by_cases hi : i < Nat.pow 2 n
  · exact amplitudeAt_zeroVector hi
  · have hne : i ≠ 0 := fun h => hi (h ▸ Nat.two_pow_pos n)
    rw [amplitudeAt_of_le (by rw [size_zeroVector]; omega), if_neg hne]

theorem normSqSum_zeroVector (n : Nat) :
    normSqSum (zeroVector n : Array (Amplitude ℝ)) = 1 := by
  have hmem : 0 ∈ Finset.range (Nat.pow 2 n) := Finset.mem_range.mpr (Nat.two_pow_pos n)
  rw [normSqSum_eq_sum, size_zeroVector, Finset.sum_eq_single_of_mem 0 hmem]
  · rw [amplitudeAt_zeroVector_of_real, if_pos rfl, Amplitude.normSq_one]
  · intro i _ hi
    rw [amplitudeAt_zeroVector_of_real, if_neg hi, Amplitude.normSq_zero]

theorem settled_zeroVector (n : Nat) : Settled (zeroVector n : Array (Amplitude ℝ)) := by
  refine settled_of_norm_one (fun i => ?_) (normSqSum_zeroVector n)
  rw [amplitudeAt_zeroVector_of_real]
  split
  · refine ⟨.inr ?_, .inl rfl⟩
    rw [Amplitude.one_re, abs_one, Scalar.cutoff_eq]
    norm_num
  · exact Amplitude.pruned_zero

/-- The part of a sound vector where a qubit has a value that is not as good as impossible settles
once it is normalised. -/
theorem Sound.settled_project (h : Sound n v) {q : Nat} {value : Bool}
    (hlikely : Scalar.cutoff < normSqSum (project v q value)) :
    Settled (normalise (project v q value)) := by
  refine settled_normalise (fun i => ?_) ((normSqSum_project_le v q value).trans h.le) hlikely
  rw [amplitudeAt_project]
  split
  · exact h.pruned i
  · exact Amplitude.pruned_zero

/-- What has been projected is not changed by the same projection. -/
theorem project_normalise (v : Array (Amplitude ℝ)) (q : Nat) (value : Bool) :
    project (normalise (project v q value)) q value = normalise (project v q value) := by
  refine ext_amplitudeAt (size_project _ _ _) fun i _ => ?_
  rw [amplitudeAt_project]
  split
  · rfl
  · rename_i hvalue
    rw [amplitudeAt_normalise]
    rw [amplitudeAt_project, if_neg hvalue]

/-- The other projection leaves nothing of it. -/
theorem normSqSum_project_normalise (v : Array (Amplitude ℝ)) (q : Nat) (value : Bool) :
    normSqSum (project (normalise (project v q value)) q (!value)) = 0 := by
  rw [normSqSum_eq_sum]
  refine Finset.sum_eq_zero fun i _ => ?_
  rw [amplitudeAt_project]
  split
  · rename_i hvalue
    rw [amplitudeAt_normalise, Amplitude.normSq_zero]
    rw [amplitudeAt_project, if_neg]
    cases value <;> simp [hvalue]
  · exact Amplitude.normSq_zero

/-- The probability of a one is the norm of the part where the qubit is one, at most one. -/
theorem oneProbability_eq (v : Array (Amplitude ℝ)) (q : Nat) :
    oneProbability v q = min (normSqSum (project v q true)) 1 := by
  have hnonneg := normSqSum_nonneg (project v q true)
  have hpart : normSqSum (v.mapIdx fun i a => if i.testBit q then a else 0) =
      normSqSum (project v q true) := rfl
  unfold oneProbability
  simp only [hpart, Scalar.less_iff]
  rw [if_neg (not_lt.mpr hnonneg), min_def]
  split
  · rename_i h
    rw [if_neg (not_le.mpr h)]
  · rename_i h
    rw [if_pos (not_lt.mp h)]

end CircuitConsole.Simulation
