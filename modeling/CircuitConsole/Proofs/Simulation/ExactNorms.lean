import CircuitConsole.Proofs.Simulation.Basis
import CircuitConsole.Proofs.Simulation.Isometries
import Mathlib.Algebra.BigOperators.Field

/-!
Norms of state vectors over the real numbers. An operator that keeps the norm of its own rows keeps
that of the whole vector, because the indices fall apart into fibres that differ in the targets
only. Scaling makes the norm one, and pruning takes away no more than the squares of what it prunes.
-/

namespace CircuitConsole

namespace Amplitude

theorem normSq_nonneg (a : Amplitude ℝ) : 0 ≤ a.normSq :=
  add_nonneg (mul_self_nonneg _) (mul_self_nonneg _)

theorem normSq_divide (a : Amplitude ℝ) (x : ℝ) : (a.divide x).normSq = a.normSq / (x * x) := by
  simp only [normSq, divide]
  rw [div_mul_div_comm, div_mul_div_comm, add_div]

noncomputable def prunePart (x : ℝ) : ℝ := if |x| < Scalar.cutoff then 0 else x

def Kept (x : ℝ) : Prop := x = 0 ∨ Scalar.cutoff ≤ |x|

theorem prune_eq (a : Amplitude ℝ) : a.prune = ⟨prunePart a.re, prunePart a.im⟩ := by
  unfold prune prunePart
  simp only [Scalar.less_iff, Scalar.magnitude_eq]

theorem kept_prunePart (x : ℝ) : Kept (prunePart x) := by
  unfold prunePart
  split
  · exact .inl rfl
  · rename_i h
    exact .inr (not_lt.mp h)

theorem prunePart_of_kept {x : ℝ} (hx : Kept x) : prunePart x = x := by
  unfold prunePart
  rcases hx with rfl | hx
  · exact ite_self _
  · exact if_neg (not_lt.mpr hx)

theorem prunePart_sq (x : ℝ) :
    prunePart x * prunePart x ≤ x * x ∧ x * x - Scalar.cutoff ^ 2 ≤ prunePart x * prunePart x := by
  unfold prunePart
  split
  · rename_i h
    have hsq : x * x ≤ Scalar.cutoff ^ 2 := by
      rw [← abs_mul_abs_self, ← sq]
      exact pow_le_pow_left₀ (abs_nonneg x) h.le 2
    constructor
    · nlinarith [mul_self_nonneg x]
    · linarith
  · exact ⟨le_rfl, by linarith [sq_nonneg (Scalar.cutoff : ℝ)]⟩

structure Pruned (a : Amplitude ℝ) : Prop where
  re : Kept a.re
  im : Kept a.im

theorem pruned_prune (a : Amplitude ℝ) : a.prune.Pruned := by
  rw [prune_eq]
  exact ⟨kept_prunePart _, kept_prunePart _⟩

theorem Pruned.prune_eq_self {a : Amplitude ℝ} (h : a.Pruned) : a.prune = a := by
  rw [prune_eq, prunePart_of_kept h.re, prunePart_of_kept h.im]

theorem pruned_zero : (0 : Amplitude ℝ).Pruned := ⟨.inl rfl, .inl rfl⟩

theorem Kept.divide {x : ℝ} (hx : Kept x) {r : ℝ} (hpos : 0 < r) (hr : r ≤ 1) : Kept (x / r) := by
  rcases hx with rfl | hx
  · exact .inl (zero_div r)
  · refine .inr (hx.trans ?_)
    rw [abs_div, abs_of_pos hpos, le_div_iff₀ hpos]
    exact mul_le_of_le_one_right (abs_nonneg x) hr

/-- Division by a number below one takes no part nearer to zero. -/
theorem Pruned.divide {a : Amplitude ℝ} (h : a.Pruned) {r : ℝ} (hpos : 0 < r) (hr : r ≤ 1) :
    (a.divide r).Pruned :=
  ⟨h.re.divide hpos hr, h.im.divide hpos hr⟩

theorem normSq_prune_le (a : Amplitude ℝ) : a.prune.normSq ≤ a.normSq := by
  rw [prune_eq]
  exact add_le_add (prunePart_sq a.re).1 (prunePart_sq a.im).1

theorem le_normSq_prune (a : Amplitude ℝ) :
    a.normSq - 2 * Scalar.cutoff ^ 2 ≤ a.prune.normSq := by
  have hre := (prunePart_sq a.re).2
  have him := (prunePart_sq a.im).2
  rw [prune_eq]
  simp only [normSq]
  linarith

end Amplitude

namespace Simulation

section

variable {targets : List Nat}

/-- The indices fall apart into fibres over those whose digits at the targets are zero. -/
theorem sum_fibres (hdistinct : targets.Nodup) {n : Nat} (hrange : ∀ t ∈ targets, t < n)
    (f : Nat → ℝ) :
    ∑ i ∈ Finset.range (Nat.pow 2 n), f i =
      ∑ b ∈ Finset.range (Nat.pow 2 n) with pickBits targets b = 0,
        ∑ c ∈ Finset.range (Nat.pow 2 targets.length), f (placeBits targets c b) := by
  have hzero : 0 < Nat.pow 2 targets.length := Nat.two_pow_pos _
  rw [← Finset.sum_product']
  symm
  refine Finset.sum_nbij' (fun x => placeBits targets x.2 x.1)
    (fun i => (placeBits targets 0 i, pickBits targets i)) ?_ ?_ ?_ ?_ ?_
  · rintro ⟨b, c⟩ h
    simp only [Finset.mem_product, Finset.mem_filter, Finset.mem_range] at h ⊢
    exact placeBits_lt hrange h.1.1 c
  · intro i h
    simp only [Finset.mem_product, Finset.mem_filter, Finset.mem_range] at h ⊢
    exact ⟨⟨placeBits_lt hrange h 0, pickBits_placeBits hdistinct hzero i⟩, pickBits_lt targets i⟩
  · rintro ⟨b, c⟩ h
    simp only [Finset.mem_product, Finset.mem_filter, Finset.mem_range] at h
    obtain ⟨⟨_, hb⟩, hc⟩ := h
    have hbase : placeBits targets 0 (placeBits targets c b) = b := by
      rw [placeBits_placeBits hdistinct hzero, ← hb, placeBits_pickBits hdistinct]
    exact Prod.ext hbase (pickBits_placeBits hdistinct hc b)
  · intro i _
    change placeBits targets (pickBits targets i) (placeBits targets 0 i) = i
    rw [placeBits_placeBits hdistinct (pickBits_lt targets i), placeBits_pickBits hdistinct]
  · intro _ _
    rfl

end

variable {v : Array (Amplitude ℝ)}

theorem normSqSum_eq_sum (v : Array (Amplitude ℝ)) :
    normSqSum v = ∑ i ∈ Finset.range v.size, (amplitudeAt v i).normSq := by
  rw [normSqSum_eq, ← List.toFinset_range, List.sum_toFinset _ List.nodup_range]

/-- An isometric operator keeps the norm, under any condition that its targets have no part in. -/
theorem normSqSum_applyWhere {U : Operator (Amplitude ℝ)} {targets : List Nat} {n : Nat}
    {holds : Nat → Bool} (hU : U.Isometric (Nat.pow 2 targets.length))
    (hdistinct : targets.Nodup) (hrange : ∀ t ∈ targets, t < n) (hholds : Ignores holds targets)
    (hsize : v.size = Nat.pow 2 n) :
    normSqSum (applyWhere holds U targets v) = normSqSum v := by
  rw [normSqSum_eq_sum, normSqSum_eq_sum, size_applyWhere, hsize, sum_fibres hdistinct hrange,
    sum_fibres hdistinct hrange]
  refine Finset.sum_congr rfl fun b hb => ?_
  have hlt : b < Nat.pow 2 n := Finset.mem_range.mp (Finset.mem_filter.mp hb).1
  have hentry {c : Nat} (hc : c < Nat.pow 2 targets.length) :
      amplitudeAt (applyWhere holds U targets v) (placeBits targets c b) =
        if holds b then dot (U.row c) (fibre targets v b)
        else amplitudeAt v (placeBits targets c b) := by
    have hplace : placeBits targets c b < v.size := hsize ▸ placeBits_lt hrange hlt c
    have hsame : holds (placeBits targets c b) = holds b :=
      hholds _ _ fun _ hq => testBit_placeBits_of_notMem hq c b
    have hfibre : fibre targets v (placeBits targets c b) = fibre targets v b := by
      refine List.map_congr_left fun d hd => ?_
      rw [placeBits_placeBits hdistinct (List.mem_range.mp hd)]
    rw [amplitudeAt_applyWhere hplace, hsame, pickBits_placeBits hdistinct hc, hfibre]
  cases hb : holds b with
  | false =>
    refine Finset.sum_congr rfl fun c hc => ?_
    rw [hentry (Finset.mem_range.mp hc), hb]
    rfl
  | true =>
    refine (Finset.sum_congr rfl fun c hc => ?_).trans
      (hU fun c => amplitudeAt v (placeBits targets c b))
    rw [hentry (Finset.mem_range.mp hc), hb]
    rfl

/-- Every gate with real parameters, on distinct qubits of any vector, keeps the norm. It is the
vector with the old norm that is normalised afterwards. -/
theorem Machine.gate_keeps_norm {m : Machine ℝ} (hwhole : m.Whole) {g : Gate}
    {parameters : List ℝ} {qubits : List Nat} (hparameters : parameters.length = g.parameterCount)
    (hqubits : qubits.length = g.qubitCount) (hdistinct : qubits.Nodup)
    (hrange : ∀ q ∈ qubits, q < m.width) :
    ∃ U v, g.operator parameters = .ok U ∧
      g.transform m.width (qubits.map Int.ofNat) U m.vector = .ok v ∧
      m.applyGate g parameters (qubits.map Int.ofNat) = .ok { m with vector := normalise v } ∧
      normSqSum v = normSqSum m.vector := by
  obtain ⟨U, hU⟩ := Gate.operator_exists hparameters (fun _ _ => rfl) rfl
  have hsub : (qubits.drop g.controlCount).Sublist qubits := List.drop_sublist _ _
  have hisometric := Gate.operator_isometric hU
  rw [← Gate.length_drop_controls hqubits] at hisometric
  refine ⟨U, _, hU,
    Gate.transform_eq hqubits hdistinct hrange (Gate.operator_isSquare hU) hwhole,
    applyGate_eq hwhole hU hqubits hdistinct hrange, ?_⟩
  apply normSqSum_applyWhere hisometric (hdistinct.sublist hsub) ?_ ?_ hwhole
  · intro q hq
    exact hrange q (hsub.subset hq)
  · exact ignores_gateControls (control_notMem_targets hdistinct)

/-- A controlled rotation of a vector that is not normalised. -/
theorem Machine.controlled_rotation_keeps_norm : ∃ U v,
    Gate.crx.operator [Real.pi / 2] = .ok U ∧
    Gate.crx.transform 2 [1, 0] U #[⟨1, 0⟩, ⟨0, 2⟩, ⟨3, 0⟩, ⟨0, 0⟩] = .ok v ∧
    Machine.applyGate ⟨2, #[⟨1, 0⟩, ⟨0, 2⟩, ⟨3, 0⟩, ⟨0, 0⟩], [], 0⟩ .crx [Real.pi / 2] [1, 0] =
      .ok ⟨2, normalise v, [], 0⟩ ∧
    normSqSum v = 14 := by
  have hnorm : normSqSum (#[⟨1, 0⟩, ⟨0, 2⟩, ⟨3, 0⟩, ⟨0, 0⟩] : Array (Amplitude ℝ)) = 14 := by
    simp [normSqSum, Amplitude.normSq]
    norm_num
  have hkept := @gate_keeps_norm ⟨2, #[⟨1, 0⟩, ⟨0, 2⟩, ⟨3, 0⟩, ⟨0, 0⟩], [], 0⟩ rfl .crx
    [Real.pi / 2] [1, 0] rfl rfl (by decide) (by decide)
  rwa [hnorm] at hkept

theorem normSqSum_nonneg (v : Array (Amplitude ℝ)) : 0 ≤ normSqSum v := by
  rw [normSqSum_eq_sum]
  exact Finset.sum_nonneg fun i _ => Amplitude.normSq_nonneg _

/-- The part of a vector where a qubit has a value has no greater norm. -/
theorem normSqSum_project_le (v : Array (Amplitude ℝ)) (q : Nat) (value : Bool) :
    normSqSum (project v q value) ≤ normSqSum v := by
  rw [normSqSum_eq_sum, normSqSum_eq_sum, size_project]
  refine Finset.sum_le_sum fun i _ => ?_
  rw [amplitudeAt_project]
  split
  · exact le_rfl
  · rw [Amplitude.normSq_zero]
    exact Amplitude.normSq_nonneg _

noncomputable def scale (v : Array (Amplitude ℝ)) : Array (Amplitude ℝ) :=
  v.map fun a => a.divide (Real.sqrt (normSqSum v))

theorem amplitudeAt_scale (v : Array (Amplitude ℝ)) (i : Nat) :
    amplitudeAt (scale v) i = (amplitudeAt v i).divide (Real.sqrt (normSqSum v)) :=
  amplitudeAt_map (Amplitude.divide_zero _) v i

theorem size_scale (v : Array (Amplitude ℝ)) : (scale v).size = v.size := Array.size_map

/-- A vector divided by its norm has norm one. -/
theorem normSqSum_scale (hv : 0 < normSqSum v) : normSqSum (scale v) = 1 := by
  have hroot : Real.sqrt (normSqSum v) * Real.sqrt (normSqSum v) = normSqSum v :=
    Real.mul_self_sqrt hv.le
  have hentry (i : Nat) :
      (amplitudeAt (scale v) i).normSq = (amplitudeAt v i).normSq / normSqSum v := by
    rw [amplitudeAt_scale, Amplitude.normSq_divide, hroot]
  rw [normSqSum_eq_sum, size_scale, Finset.sum_congr rfl fun i _ => hentry i, ← Finset.sum_div,
    ← normSqSum_eq_sum, div_self hv.ne']

/-- Pruning makes the norm smaller by no more than two squares of the cutoff for every entry. -/
theorem normSqSum_prune (v : Array (Amplitude ℝ)) :
    normSqSum (v.map Amplitude.prune) ≤ normSqSum v ∧
      normSqSum v - v.size * (2 * Scalar.cutoff ^ 2) ≤ normSqSum (v.map Amplitude.prune) := by
  have hsum : normSqSum (v.map Amplitude.prune) =
      ∑ i ∈ Finset.range v.size, (amplitudeAt v i).prune.normSq := by
    rw [normSqSum_eq_sum, Array.size_map]
    exact Finset.sum_congr rfl fun i _ => by rw [amplitudeAt_map Amplitude.prune_zero]
  have hloss : normSqSum v - v.size * (2 * Scalar.cutoff ^ 2) =
      ∑ i ∈ Finset.range v.size, ((amplitudeAt v i).normSq - 2 * Scalar.cutoff ^ 2) := by
    rw [Finset.sum_sub_distrib, ← normSqSum_eq_sum, Finset.sum_const, Finset.card_range,
      nsmul_eq_mul]
  rw [hloss, hsum, normSqSum_eq_sum]
  exact ⟨Finset.sum_le_sum fun i _ => Amplitude.normSq_prune_le _,
    Finset.sum_le_sum fun i _ => Amplitude.le_normSq_prune _⟩

/-- Before it is pruned, a vector that is not as good as zero is scaled to a norm that is as good as
one; or it is left as it is, with any norm that is as good as one or as good as zero. -/
theorem normalise_cases (v : Array (Amplitude ℝ)) :
    (Scalar.normTolerance < |normSqSum v - 1| ∧ Scalar.cutoff < normSqSum v ∧
      normalise v = (scale v).map Amplitude.prune) ∨
    ((|normSqSum v - 1| ≤ Scalar.normTolerance ∨ normSqSum v ≤ Scalar.cutoff) ∧
      normalise v = v.map Amplitude.prune) := by
  unfold normalise
  simp only [Bool.and_eq_true, Scalar.less_iff, Scalar.magnitude_eq]
  by_cases h : Scalar.normTolerance < |normSqSum v - 1| ∧ Scalar.cutoff < normSqSum v
  · rw [if_pos h]
    exact .inl ⟨h.1, h.2, rfl⟩
  · rw [if_neg h]
    rw [not_and_or, not_lt, not_lt] at h
    exact .inr ⟨h, rfl⟩

end Simulation

end CircuitConsole
