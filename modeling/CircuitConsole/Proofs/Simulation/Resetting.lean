import CircuitConsole.Proofs.Simulation.RepeatedMeasurement

/-!
What a reset leaves. A reset measures its qubit and flips it when a one was found, so that nothing is
left where the qubit is one, and the amplitudes of the value found stand where it is zero. They are
scaled and pruned by the measurement and maybe scaled again by the flip. The flip then finds nothing
more to prune, since pruning has made the norm smaller only and scaling takes no part nearer to zero.
-/

namespace CircuitConsole.Simulation

noncomputable def rescaled (k r : ℝ) (a : Amplitude ℝ) : Amplitude ℝ :=
  let part (x : ℝ) : ℝ := if |k * x| < Scalar.cutoff then 0 else r * (k * x)
  ⟨part a.re, part a.im⟩

theorem rescaled_eq (s t : ℝ) (a : Amplitude ℝ) :
    rescaled s⁻¹ t⁻¹ a = (a.divide s).prune.divide t := by
  have hpart (x : ℝ) : (if |s⁻¹ * x| < Scalar.cutoff then 0 else t⁻¹ * (s⁻¹ * x)) =
      Amplitude.prunePart (x / s) / t := by
    rw [Amplitude.prunePart, div_eq_inv_mul x s]
    split
    · exact (zero_div t).symm
    · exact (div_eq_inv_mul _ t).symm
  rw [Amplitude.prune_eq]
  exact congrArg₂ Amplitude.mk (hpart a.re) (hpart a.im)

theorem divide_one (a : Amplitude ℝ) : a.divide 1 = a :=
  congrArg₂ Amplitude.mk (div_one a.re) (div_one a.im)

variable {v : Array (Amplitude ℝ)}

/-- The factor of a normalisation: it makes the norm as good as one, or it is one where the squared
norm is as good as zero. -/
structure Normalises (k normSq : ℝ) : Prop where
  pos : 0 < k
  norm : 1 / 10 ^ 12 < normSq → |k ^ 2 * normSq - 1| ≤ 1 / 10 ^ 15
  alone : normSq ≤ 1 / 10 ^ 12 → k = 1

/-- Normalising divides all amplitudes by one number before it prunes them. The number is not above
one unless the norm is. -/
theorem normalise_divides (v : Array (Amplitude ℝ)) : ∃ s : ℝ, 0 < s ∧
    Normalises s⁻¹ (normSqSum v) ∧ (normSqSum v ≤ 1 + Scalar.normTolerance → s ≤ 1) ∧
    ∀ i, amplitudeAt (normalise v) i = ((amplitudeAt v i).divide s).prune := by
  rcases normalise_cases v with ⟨hoff, hcutoff, heq⟩ | ⟨hkept, heq⟩
  · have hpositive : 0 < normSqSum v := Scalar.cutoff_pos.trans hcutoff
    have hone : (Real.sqrt (normSqSum v))⁻¹ ^ 2 * normSqSum v = 1 := by
      rw [inv_pow, Real.sq_sqrt hpositive.le, inv_mul_cancel₀ hpositive.ne']
    rw [Scalar.cutoff_eq] at hcutoff
    refine ⟨Real.sqrt (normSqSum v), Real.sqrt_pos.mpr hpositive,
      ⟨inv_pos.mpr (Real.sqrt_pos.mpr hpositive), fun _ => ?_, fun hnone => ?_⟩,
      fun hle => ?_, fun i => ?_⟩
    · rw [hone, sub_self, abs_zero]
      positivity
    · exact absurd hnone (not_le.mpr hcutoff)
    · rw [Real.sqrt_le_one]
      by_contra hnot
      rw [abs_of_pos (by linarith)] at hoff
      linarith
    · rw [heq, amplitudeAt_map Amplitude.prune_zero, amplitudeAt_scale]
  · rw [Scalar.normTolerance_eq, Scalar.cutoff_eq] at hkept
    refine ⟨1, one_pos, ⟨inv_pos.mpr one_pos, fun hcutoff => ?_, fun _ => inv_one⟩,
      fun _ => le_rfl, fun i => ?_⟩
    · rw [inv_one, one_pow, one_mul]
      exact hkept.resolve_right (not_le.mpr hcutoff)
    · rw [heq, amplitudeAt_map Amplitude.prune_zero, divide_one]

/-- However great a norm was, it is as good as one at most once the vector is normalised. -/
theorem normSqSum_normalise_le (v : Array (Amplitude ℝ)) :
    normSqSum (normalise v) ≤ 1 + Scalar.normTolerance := by
  have htolerance := Scalar.normTolerance_pos
  rcases normalise_cases v with ⟨_, hpositive, heq⟩ | ⟨hnear | hnone, heq⟩
  · have hprune := (normSqSum_prune (scale v)).1
    rw [normSqSum_scale (Scalar.cutoff_pos.trans hpositive)] at hprune
    rw [heq]
    linarith
  · have hprune := (normSqSum_prune v).1
    have hnear := (abs_le.mp hnear).2
    rw [heq]
    linarith
  · have hprune := (normSqSum_prune v).1
    rw [Scalar.cutoff_eq] at hnone
    rw [heq]
    linarith

theorem writeBit_writeBit (i q : Nat) (b b' : Bool) :
    writeBit (writeBit i q b) q b' = writeBit i q b' := by
  apply Nat.eq_of_testBit_eq
  intro j
  simp only [testBit_writeBit]
  split <;> rfl

theorem writeBit_eq_self {i q : Nat} {b : Bool} (h : i.testBit q = b) : writeBit i q b = i :=
  if_pos h

protected theorem Amplitude.one_mul (a : Amplitude ℝ) : 1 * a = a := by
  change (⟨1 * a.re - 0 * a.im, 1 * a.im + 0 * a.re⟩ : Amplitude ℝ) = a
  simp

/-- The flip of a qubit exchanges the two amplitudes at indices that differ in this qubit only. -/
theorem amplitudeAt_flip {n q : Nat} (hq : q < n) (hsize : v.size = Nat.pow 2 n) (i : Nat) :
    amplitudeAt (applyTo Gate.flip [q] v) i = amplitudeAt v (writeBit i q (!i.testBit q)) := by
  by_cases hi : i < v.size
  · have hentry : amplitudeAt (applyTo Gate.flip [q] v) i =
        if i.testBit q then
          1 * amplitudeAt v (writeBit i q false) + 0 * amplitudeAt v (writeBit i q true)
        else 0 * amplitudeAt v (writeBit i q false) + 1 * amplitudeAt v (writeBit i q true) :=
      amplitudeAt_applyTo_singleton hi
    rw [hentry, Amplitude.one_mul, Amplitude.one_mul, Amplitude.zero_mul, Amplitude.zero_mul,
      Amplitude.add_zero, Amplitude.zero_add]
    cases i.testBit q <;> rfl
  · -- beyond the end of the vector there is nothing, and the flip does not lead back inside
    have hout : v.size ≤ writeBit i q (!i.testBit q) := by
      by_contra hin
      apply hi
      have hback := writeBit_lt hq (hsize ▸ not_le.mp hin) (i.testBit q)
      rwa [writeBit_writeBit, writeBit_eq_self rfl, ← hsize] at hback
    have hnone : (applyTo Gate.flip [q] v).size ≤ i := by
      rw [applyTo, size_applyWhere]
      exact not_lt.mp hi
    rw [amplitudeAt_of_le hnone, amplitudeAt_of_le hout]

/-- A vector that pruning leaves alone and whose norm is not above one is scaled by the
normalisation, but nothing more is pruned. -/
theorem normalise_divides_pruned (hpruned : ∀ i, (amplitudeAt v i).Pruned)
    (hle : normSqSum v ≤ 1 + Scalar.normTolerance) : ∃ t : ℝ, 0 < t ∧
    Normalises t⁻¹ (normSqSum v) ∧ t ≤ 1 ∧
    ∀ i, amplitudeAt (normalise v) i = (amplitudeAt v i).divide t := by
  obtain ⟨t, ht, hfactor, hone, hentry⟩ := normalise_divides v
  refine ⟨t, ht, hfactor, hone hle, fun i => ?_⟩
  rw [hentry]
  exact ((hpruned i).divide ht (hone hle)).prune_eq_self

namespace Machine

variable {m : Machine ℝ}

/-- What the measurement leaves, where the qubit has the value found and elsewhere. -/
theorem collapse_leaves (m : Machine ℝ) (q : Nat) (value : Bool) : ∃ s : ℝ,
    Normalises s⁻¹ (normSqSum (project m.vector q value)) ∧
    ∀ i, amplitudeAt (m.collapse q value).vector i =
      if i.testBit q = value then ((amplitudeAt m.vector i).divide s).prune else 0 := by
  obtain ⟨s, _, hfactor, _, hentry⟩ := normalise_divides (project m.vector q value)
  refine ⟨s, hfactor, fun i => ?_⟩
  change amplitudeAt (normalise (project m.vector q value)) i = _
  rw [hentry, amplitudeAt_project]
  split
  · rfl
  · rw [Amplitude.divide_zero, Amplitude.prune_zero]

/-- What the flip leaves after a one was found. -/
theorem flip_leaves (hwhole : m.Whole) {q : Nat} (hq : q < m.width) : ∃ t : ℝ,
    Normalises t⁻¹ (normSqSum (m.collapse q true).vector) ∧ 1 ≤ t⁻¹ ∧
    ∀ i, amplitudeAt (normalise (applyTo Gate.flip [q] (m.collapse q true).vector)) i =
      (amplitudeAt (m.collapse q true).vector
        (Simulation.writeBit i q (!i.testBit q))).divide t := by
  have hsize := collapse_whole hwhole q true
  have hentry := amplitudeAt_flip hq hsize
  have hnorm : normSqSum (applyTo Gate.flip [q] (m.collapse q true).vector) =
      normSqSum (m.collapse q true).vector :=
    normSqSum_applyWhere Gate.flip_isometric (List.nodup_singleton q) (List.forall_mem_singleton.mpr hq)
      (fun _ _ _ => rfl) hsize
  have hpruned (i : Nat) :
      (amplitudeAt (applyTo Gate.flip [q] (m.collapse q true).vector) i).Pruned := by
    obtain ⟨s, _, hcollapsed⟩ := m.collapse_leaves q true
    rw [hentry, hcollapsed]
    split
    · exact Amplitude.pruned_prune _
    · exact Amplitude.pruned_zero
  have hle : normSqSum (applyTo Gate.flip [q] (m.collapse q true).vector) ≤
      1 + Scalar.normTolerance := by
    rw [hnorm]
    exact normSqSum_normalise_le _
  obtain ⟨t, ht, hfactor, hone, hscaled⟩ := normalise_divides_pruned hpruned hle
  rw [hnorm] at hfactor
  exact ⟨t, hfactor, (one_le_inv₀ ht).mpr hone, fun i => (hscaled i).trans (by rw [hentry])⟩

/-- A reset always happens. Afterwards nothing is left where the qubit is one; where it is zero stand
the old amplitudes of the value found, scaled by one positive factor except for what was pruned: they
are normalised by the measurement and, if a one was found, normalised once more by the flip. The
classical bits stay, and one random number is drawn. -/
theorem reset_leaves (draws : Draws ℝ) (hwhole : m.Whole) {q : Nat} (hq : q < m.width) :
    ∃ m', m.reset draws q = .ok m' ∧ m'.width = m.width ∧ m'.Whole ∧ m'.bits = m.bits ∧
      m'.drawn = m.drawn + 1 ∧
      (∀ i, i.testBit q = true → amplitudeAt m'.vector i = 0) ∧
      ∃ k r : ℝ, Normalises k (normSqSum (project m.vector q (m.outcome draws q))) ∧
        (if m.outcome draws q then
          Normalises r (normSqSum (m.collapse q true).vector) ∧ 1 ≤ r else r = 1) ∧
        ∀ i, i.testBit q = false → amplitudeAt m'.vector i = rescaled k r
          (amplitudeAt m.vector
            (if m.outcome draws q then Simulation.writeBit i q true else i)) := by
  have hreset := reset_eq draws hwhole hq
  cases hvalue : m.outcome draws q with
  | false =>
    rw [hvalue, if_neg Bool.false_ne_true] at hreset
    obtain ⟨s, hfactor, hentry⟩ := m.collapse_leaves q false
    refine ⟨_, hreset, rfl, collapse_whole hwhole q false, rfl, rfl, fun i hi => ?_,
      s⁻¹, 1, hfactor, rfl, fun i hi => ?_⟩
    · rw [hentry, hi]
      rfl
    · rw [hentry, if_pos hi, if_neg Bool.false_ne_true, ← inv_one, rescaled_eq, divide_one]
  | true =>
    rw [hvalue, if_pos rfl] at hreset
    obtain ⟨s, hfactor, hentry⟩ := m.collapse_leaves q true
    obtain ⟨t, hfactor', hone, hflipped⟩ := flip_leaves hwhole hq
    refine ⟨_, hreset, rfl, ?_, rfl, rfl, fun i hi => ?_,
      s⁻¹, t⁻¹, hfactor, ⟨hfactor', hone⟩, fun i hi => ?_⟩
    · rw [Whole, size_normalise, applyTo, size_applyWhere]
      exact collapse_whole hwhole q true
    · rw [hflipped, hentry, testBit_writeBit, if_pos rfl, hi]
      exact Amplitude.divide_zero t
    · rw [hflipped, hentry, testBit_writeBit, if_pos rfl, hi, Bool.not_false, if_pos rfl,
        if_pos rfl, rescaled_eq]

/-- The first qubit of a vector that is not normalised, where a one is found for certain. -/
theorem entangled_qubit_leaves :
    ∃ m', (⟨2, #[1, 0, 0, ⟨0, 2⟩], [true], 3⟩ : Machine ℝ).reset (fun _ => 1 / 2) 0 = .ok m' ∧
      m'.width = 2 ∧ m'.Whole ∧ m'.bits = [true] ∧ m'.drawn = 4 ∧
      (∀ i, i.testBit 0 = true → amplitudeAt m'.vector i = 0) ∧
      ∃ k r : ℝ, Normalises k 4 ∧
        (Normalises r (normSqSum
          (collapse (⟨2, #[1, 0, 0, ⟨0, 2⟩], [true], 3⟩ : Machine ℝ) 0 true).vector) ∧ 1 ≤ r) ∧
        ∀ i, i.testBit 0 = false → amplitudeAt m'.vector i =
          rescaled k r (amplitudeAt #[1, 0, 0, ⟨0, 2⟩] (Simulation.writeBit i 0 true)) := by
  have hnorm : normSqSum (project (#[1, 0, 0, ⟨0, 2⟩] : Array (Amplitude ℝ)) 0 true) = 4 := by
    simp [normSqSum, project, Amplitude.normSq]
    norm_num
  have hone : outcome (fun _ => 1 / 2) (⟨2, #[1, 0, 0, ⟨0, 2⟩], [true], 3⟩ : Machine ℝ) 0 = true := by
    rw [outcome, Scalar.less_iff, oneProbability_eq, hnorm]
    norm_num
  have hleaves := reset_leaves (fun _ => 1 / 2)
    (m := (⟨2, #[1, 0, 0, ⟨0, 2⟩], [true], 3⟩ : Machine ℝ)) rfl (q := 0) (by decide)
  rw [hone, hnorm] at hleaves
  exact hleaves

end Machine

end CircuitConsole.Simulation
