import CircuitConsole.Proofs.Simulation.AcceptedGates
import CircuitConsole.Proofs.Simulation.Superpositions
import Mathlib.Analysis.SpecialFunctions.Trigonometric.Bounds

/-!
Measurements can be repeated. Over the real numbers a state vector is never zero on any way from the
zero state on which only values are found that are not as good as impossible: gates keep its norm,
scaling makes the norm as good as one, and pruning takes little away, as long as there are not too
many qubits. A qubit that has just been measured is found with the same value again, and the vector
does not change any more. None of these limits can be left out: the vector can vanish after a value
that is as good as impossible, with a random number that is as good as one, and on 79 qubits.
-/

namespace CircuitConsole.Simulation

namespace Machine

variable {draws : Draws ℝ} {n : Nat} {m m' : Machine ℝ}

def Likely (draws : Draws ℝ) (m : Machine ℝ) (q : Nat) : Prop :=
  Scalar.cutoff < normSqSum (project m.vector q (m.outcome draws q))

/-- The machines to which any gates, measurements and resets lead from the zero state of so many
qubits, as long as no value is found that is as good as impossible. -/
inductive Reached (draws : Draws ℝ) (n : Nat) : Machine ℝ → Prop
  | start (bits drawn : Nat) : Reached draws n (.start n bits drawn)
  | gate {m m' : Machine ℝ} (g : Gate) (parameters : List ℝ) (qubits : List Int)
      (h : Reached draws n m) (hgate : m.applyGate g parameters qubits = .ok m') :
      Reached draws n m'
  | measure {m m' : Machine ℝ} (q : Nat) (bit : Option Int) (value : Bool)
      (h : Reached draws n m) (hlikely : m.Likely draws q)
      (hmeasure : m.measure draws q bit = .ok (value, m')) : Reached draws n m'
  | reset {m m' : Machine ℝ} (q : Nat) (h : Reached draws n m) (hlikely : m.Likely draws q)
      (hreset : m.reset draws q = .ok m') : Reached draws n m'

structure Sound (n : Nat) (m : Machine ℝ) : Prop where
  width : m.width = n
  vector : Simulation.Sound n m.vector

theorem Sound.whole (hm : m.Sound n) : m.Whole := by
  rw [Whole, hm.width]
  exact hm.vector.size

theorem lt_of_measure {q : Nat} {bit : Option Int} {result : Bool × Machine ℝ}
    (h : m.measure draws q bit = .ok result) : q < m.width := by
  obtain ⟨_, hplaces, _⟩ := bind_eq_ok.mp h
  obtain ⟨_, hplace, _⟩ := bind_eq_ok.mp ((List.mapM_cons ..).symm.trans hplaces)
  split at hplace
  · omega
  · contradiction

theorem measure_exists (draws : Draws ℝ) {q : Nat} (hq : q < m.width) (bit : Option Int) :
    ∃ m', m.measure draws q bit = .ok (m.outcome draws q, m') ∧ m'.width = m.width ∧
      m'.drawn = m.drawn + 1 ∧
      m'.vector = normalise (project m.vector q (m.outcome draws q)) := by
  refine ⟨_, measure_eq draws hq bit, ?_⟩
  cases bit with
  | none => exact ⟨rfl, rfl, rfl⟩
  | some bit =>
    unfold writeBit
    dsimp only
    split
    · exact ⟨rfl, rfl, rfl⟩
    · exact ⟨rfl, rfl, rfl⟩

theorem start_sound (n bits drawn : Nat) : (start n bits drawn : Machine ℝ).Sound n :=
  ⟨rfl, (settled_zeroVector n).sound (size_zeroVector n)⟩

/-- Gates keep a machine sound. -/
theorem gate_sound (hm : m.Sound n) (hn : n ≤ 78) {g : Gate} {parameters : List ℝ}
    {qubits : List Int} (h : m.applyGate g parameters qubits = .ok m') : m'.Sound n := by
  rcases applyGate_eq_ok hm.whole h with rfl | ⟨U, holds, targets, hU, hlength, happlied⟩
  · exact hm
  · have hisometric := Gate.operator_isometric hU
    rw [← hlength] at hisometric
    have hrange : ∀ t ∈ targets, t < n := fun t ht => hm.width ▸ happlied.range t ht
    have hnorm := normSqSum_applyWhere hisometric happlied.distinct hrange happlied.ignores
      hm.vector.size
    rw [happlied.eq]
    refine ⟨hm.width, sound_normalise ((size_applyWhere _ _ _ _).trans hm.vector.size) ?_⟩
    rw [hnorm]
    exact hm.vector.cutoff_lt hn

/-- Measurements that find what is not as good as impossible keep a machine sound. -/
theorem measure_sound (hm : m.Sound n) {q : Nat} (hlikely : m.Likely draws q) {bit : Option Int}
    {value : Bool} (h : m.measure draws q bit = .ok (value, m')) : m'.Sound n := by
  obtain ⟨m₁, hmeasure, hwidth, _, hvector⟩ := measure_exists draws (lt_of_measure h) bit
  obtain ⟨rfl, rfl⟩ := Prod.mk.inj (Except.ok.inj (hmeasure.symm.trans h))
  refine ⟨hwidth.trans hm.width, ?_⟩
  rw [hvector]
  refine (hm.vector.settled_project hlikely).sound ?_
  rw [size_normalise, size_project, hm.vector.size]

theorem reset_sound (hm : m.Sound n) (hn : n ≤ 78) {q : Nat} (hlikely : m.Likely draws q)
    (h : m.reset draws q = .ok m') : m'.Sound n := by
  obtain ⟨⟨value, m₁⟩, hmeasure, h⟩ := bind_eq_ok.mp h
  have hm₁ := measure_sound hm hlikely hmeasure
  dsimp only at h
  split at h
  · exact gate_sound hm₁ hn h
  · obtain rfl := Except.ok.inj h
    exact hm₁

theorem Reached.sound (hn : n ≤ 78) (h : Reached draws n m) : m.Sound n := by
  induction h with
  | start bits drawn => exact start_sound n bits drawn
  | gate g parameters qubits _ hgate ih => exact gate_sound ih hn hgate
  | measure q bit value _ hlikely hmeasure ih => exact measure_sound ih hlikely hmeasure
  | reset q _ hlikely hreset ih => exact reset_sound ih hn hlikely hreset

noncomputable def spread (n k : Nat) : Machine ℝ :=
  { (start n 0 0 : Machine ℝ) with vector := uniform n k }

theorem spread_whole (n k : Nat) : (spread n k).Whole := size_uniform n k

/-- The Hadamard gate on one qubit after the other spreads the zero state. -/
theorem reached_spread (draws : Draws ℝ) {k : Nat} (hk : k ≤ n) (h79 : k ≤ 79) :
    Reached draws n (spread n k) := by
  induction k with
  | zero =>
    rw [spread, uniform_zero]
    exact .start 0 0
  | succ k ih =>
    refine .gate .h [] [(k : Int)] (ih (Nat.le_of_succ_le hk) (Nat.le_of_succ_le h79)) ?_
    have hspread : normalise (applyTo Gate.hadamard [k] (uniform n k)) = uniform n (k + 1) := by
      rw [applyTo_hadamard hk, (settled_uniform hk h79).normalise_eq]
    rw [spread, spread, ← hspread]
    exact @applyGate_eq ℝ _ (spread n k) .h [] Gate.hadamard [k] (spread_whole n k) rfl rfl
      (List.nodup_singleton k) (by simpa [spread, start] using hk)

/-- Up to 78 qubits, and as long as no value is found that is as good as impossible, the state
vector is not zero. Where a qubit is measured and then measured again, the same value is found and
the vector stays as it is; after a one the second random number has to be below one by more than the
tolerance. -/
theorem measurement_repeatable (hdraws : ∀ k, 0 ≤ draws k) (hn : n ≤ 78) (hm : Reached draws n m) :
    (∃ i, i < m.vector.size ∧ amplitudeAt m.vector i ≠ 0) ∧
    ∀ q, q < n → m.Likely draws q →
      (m.outcome draws q = true → draws (m.drawn + 1) < 1 - Scalar.normTolerance) →
      ∀ bit bit' : Option Int, ∃ value m₁ m₂, m.measure draws q bit = .ok (value, m₁) ∧
        m₁.measure draws q bit' = .ok (value, m₂) ∧ m₂.vector = m₁.vector := by
  have hsound := hm.sound hn
  refine ⟨hsound.vector.exists_ne_zero hn, fun q hq hlikely hdraw bit bit' => ?_⟩
  rw [← hsound.width] at hq
  obtain ⟨m₁, hmeasure, hwidth, hdrawn, hvector⟩ := measure_exists draws hq bit
  obtain ⟨m₂, hmeasure', _, _, hvector'⟩ := measure_exists draws (hwidth.symm ▸ hq) bit'
  have hsettled := hsound.vector.settled_project hlikely
  have hsame : m₁.outcome draws q = m.outcome draws q := by
    have hprobability := oneProbability_eq m₁.vector q
    rw [Bool.eq_iff_iff, outcome, Scalar.less_iff, hprobability, hvector, hdrawn]
    cases hvalue : m.outcome draws q with
    | false =>
      have hnone := normSqSum_project_normalise m.vector q false
      rw [Bool.not_false] at hnone
      rw [hnone]
      simpa using hdraws _
    | true =>
      rw [hvalue] at hsettled
      have hnear := abs_le.mp hsettled.norm
      have hdraw := hdraw hvalue
      rw [project_normalise]
      simp only [lt_min_iff, iff_true]
      constructor
      · linarith
      · linarith [Scalar.normTolerance_pos]
  rw [hsame] at hmeasure' hvector'
  refine ⟨_, m₁, m₂, hmeasure, hmeasure', ?_⟩
  rw [hvector', hvector, project_normalise, hsettled.normalise_eq]

/-- A qubit that is as likely to be zero as one is found to be the same twice. -/
theorem even_qubit_repeatable : ∃ value m₁ m₂,
    (spread 1 1).measure (fun _ => 1 / 3) 0 none = .ok (value, m₁) ∧
    m₁.measure (fun _ => 1 / 3) 0 none = .ok (value, m₂) ∧ m₂.vector = m₁.vector := by
  have hone : normSqSum (project (spread 1 1).vector 0 true) = 1 / 2 := by
    rw [spread, uniform_one, project_pair, if_pos rfl, normSqSum_pair, Gate.rootHalf_mul_self]
    norm_num
  have houtcome : (spread 1 1).outcome (fun _ => 1 / 3) 0 = true := by
    rw [outcome, Scalar.less_iff, oneProbability_eq, hone]
    norm_num
  refine (measurement_repeatable (fun _ => by norm_num) (by decide)
    (reached_spread _ le_rfl (by decide))).2 0 one_pos ?_ (fun _ => ?_) none none
  · rw [Likely, houtcome, hone, Scalar.cutoff_eq]
    norm_num
  · rw [Scalar.normTolerance_eq]
    norm_num

/-- After a rotation of a single qubit two measurements find first a one and then a zero, and
nothing is left of the vector. -/
def Disagree (draws : Draws ℝ) (θ : ℝ) : Prop :=
  ∃ m m₁ m₂, (start 1 0 0).applyGate .ry [θ] [0] = .ok m ∧
    m.measure draws 0 none = .ok (true, m₁) ∧ m₁.measure draws 0 none = .ok (false, m₂) ∧
    ∀ i, amplitudeAt m₂.vector i = 0

theorem outcome_pair {x y : ℝ} (hvector : m.vector = pair x y) :
    m.outcome draws 0 = true ↔ draws m.drawn < min (y ^ 2) 1 := by
  rw [outcome, Scalar.less_iff, oneProbability_eq, hvector, project_pair, if_pos rfl,
    normSqSum_pair, mul_zero, zero_add, ← sq]

/-- The rotation leaves a vector of norm one. -/
theorem applyGate_ry {θ : ℝ} (hcos : Amplitude.Kept (Real.cos (Scalar.half θ)))
    (hsin : Amplitude.Kept (Real.sin (Scalar.half θ))) :
    (start 1 0 0).applyGate .ry [θ] [0] = .ok { (start 1 0 0 : Machine ℝ) with
      vector := pair (Real.cos (Scalar.half θ)) (Real.sin (Scalar.half θ)) } := by
  obtain ⟨U, hU, hrotated⟩ := aboutY_zeroVector θ
  have hnormed : normalise (applyTo U [0] (zeroVector 1)) =
      pair (Real.cos (Scalar.half θ)) (Real.sin (Scalar.half θ)) := by
    rw [hrotated]
    refine normalise_pair hcos hsin (.inl ?_)
    rw [← sq, ← sq, Real.cos_sq_add_sin_sq, sub_self, abs_zero]
    exact Scalar.normTolerance_pos.le
  rw [← hnormed]
  exact @applyGate_eq ℝ _ (start 1 0 0) .ry [θ] U [0] (start_whole 1 0 0) hU rfl
    (List.nodup_singleton 0) (by simp [start])

/-- This happens where the first value is found without the vector being scaled afterwards, because
the value was as good as impossible or as good as certain, and where the second random number is not
below the norm that is left. -/
theorem disagree_of_unscaled {θ : ℝ} (hcos : Amplitude.Kept (Real.cos (Scalar.half θ)))
    (hsin : Scalar.cutoff ≤ |Real.sin (Scalar.half θ)|)
    (hunscaled : |Real.sin (Scalar.half θ) ^ 2 - 1| ≤ Scalar.normTolerance ∨
      Real.sin (Scalar.half θ) ^ 2 ≤ Scalar.cutoff)
    (hfirst : draws 0 = 0) (hsecond : Real.sin (Scalar.half θ) ^ 2 ≤ draws 1) :
    Disagree draws θ := by
  have hgate := applyGate_ry hcos (.inr hsin)
  generalize Real.cos (Scalar.half θ) = c at *
  generalize Real.sin (Scalar.half θ) = s at *
  generalize hm : ({ (start 1 0 0 : Machine ℝ) with vector := pair c s } : Machine ℝ) = m at hgate
  have hvector : m.vector = pair c s := hm ▸ rfl
  have hdrawn : m.drawn = 0 := hm ▸ rfl
  have hwide : 0 < m.width := hm ▸ one_pos
  -- the first measurement finds a one, and only its entry is left
  obtain ⟨m₁, hmeasure, hwidth₁, hdrawn₁, hvector₁⟩ := measure_exists draws hwide none
  have hone : m.outcome draws 0 = true := by
    have hs : s ≠ 0 := abs_pos.mp (Scalar.cutoff_pos.trans_le hsin)
    rw [outcome_pair hvector, hdrawn, hfirst]
    exact lt_min (by positivity) one_pos
  rw [hone] at hmeasure hvector₁
  have hleft : m₁.vector = pair 0 s := by
    rw [hvector₁, hvector, project_pair, if_pos rfl]
    refine normalise_pair (.inl rfl) (.inr hsin) ?_
    rwa [mul_zero, zero_add, ← sq]
  -- the second measurement finds a zero, and nothing is left
  obtain ⟨m₂, hmeasure', _, _, hvector₂⟩ := measure_exists draws (hwide.trans_eq hwidth₁.symm) none
  have hzero : m₁.outcome draws 0 = false := by
    rw [Bool.eq_false_iff, Ne, outcome_pair hleft, hdrawn₁, hdrawn, not_lt]
    exact (min_le_left _ _).trans hsecond
  rw [hzero] at hmeasure' hvector₂
  refine ⟨m, m₁, m₂, hgate, hmeasure, hmeasure', fun i => ?_⟩
  rw [hvector₂, hleft, project_pair, amplitudeAt_normalise]
  rcases i with _ | _ | i <;> rfl

/-- On 79 qubits or more gates alone make a vector vanish. -/
theorem exists_vanished (draws : Draws ℝ) (hn : 79 ≤ n) :
    ∃ m : Machine ℝ, Reached draws n m ∧ ∀ i, amplitudeAt m.vector i = 0 := by
  have hgate : (spread n 79).applyGate .rz [Real.pi / 2] [0] = .ok { spread n 79 with
      vector := normalise (applyTo (Rotation.aboutZ (Real.pi / 2)) [0] (uniform n 79)) } :=
    @applyGate_eq ℝ _ (spread n 79) .rz [Real.pi / 2] _ [0] (spread_whole n 79) rfl rfl
      (List.nodup_singleton 0) (by simp only [List.mem_singleton, forall_eq, spread, start]; omega)
  exact ⟨_, .gate .rz _ _ (reached_spread draws hn le_rfl) hgate, amplitudeAt_turned hn (by omega)⟩

theorem sin_cos_near_zero {x : ℝ} (hpos : 0 < x) (hx : x ≤ 1) :
    x / 2 ≤ Real.sin x ∧ Real.sin x ≤ x ∧ 1 / 2 ≤ Real.cos x := by
  have hcube := Real.sin_gt_sub_cube hpos
  have hcos := Real.one_sub_sq_div_two_le_cos (x := x)
  refine ⟨?_, (Real.sin_lt hpos).le, ?_⟩
  · nlinarith [mul_pos hpos hpos]
  · nlinarith

/-- A one that is as good as impossible is found, and then a zero. -/
theorem disagree_after_impossible :
    Disagree (fun k => if k = 0 then 0 else 1 / 2) (6 / 10 ^ 7) := by
  have hhalf : Scalar.half (6 / 10 ^ 7 : ℝ) = 3 / 10 ^ 7 := by
    rw [Scalar.half_eq]
    norm_num
  obtain ⟨hsin, hsin', hcos⟩ := @sin_cos_near_zero (3 / 10 ^ 7) (by norm_num) (by norm_num)
  have hsq : Real.sin (3 / 10 ^ 7) ^ 2 ≤ (3 / 10 ^ 7) ^ 2 :=
    pow_le_pow_left₀ (by linarith) hsin' 2
  apply disagree_of_unscaled
  · rw [hhalf, Amplitude.Kept, Scalar.cutoff_eq]
    exact .inr (le_abs.mpr (.inl (by linarith)))
  · rw [hhalf, Scalar.cutoff_eq]
    exact le_abs.mpr (.inl (by linarith))
  · rw [hhalf, Scalar.cutoff_eq]
    exact .inr (hsq.trans (by norm_num))
  · rfl
  · rw [hhalf]
    exact hsq.trans (by norm_num)

/-- A one that is as good as certain is found, and then a zero. -/
theorem disagree_after_certain :
    Disagree (fun k => if k = 0 then 0 else 1 - 1 / 10 ^ 16) (Real.pi - 4 / 10 ^ 8) := by
  have hhalf : Scalar.half (Real.pi - 4 / 10 ^ 8) = Real.pi / 2 - 2 / 10 ^ 8 := by
    rw [Scalar.half_eq]
    ring
  obtain ⟨hsin, hsin', hcos⟩ := @sin_cos_near_zero (2 / 10 ^ 8) (by norm_num) (by norm_num)
  have hunit := Real.sin_sq_add_cos_sq (2 / 10 ^ 8)
  have hsq : Real.sin (2 / 10 ^ 8) ^ 2 ≤ (2 / 10 ^ 8) ^ 2 :=
    pow_le_pow_left₀ (by linarith) hsin' 2
  have hsq' : (2 / 10 ^ 8 / 2) ^ 2 ≤ Real.sin (2 / 10 ^ 8) ^ 2 :=
    pow_le_pow_left₀ (by norm_num) hsin 2
  apply disagree_of_unscaled
  · rw [hhalf, Real.cos_pi_div_two_sub, Amplitude.Kept, Scalar.cutoff_eq]
    exact .inr (le_abs.mpr (.inl (by linarith)))
  · rw [hhalf, Real.sin_pi_div_two_sub, Scalar.cutoff_eq]
    exact le_abs.mpr (.inl (by linarith))
  · rw [hhalf, Real.sin_pi_div_two_sub, Scalar.normTolerance_eq]
    refine .inl (abs_le.mpr ⟨?_, ?_⟩)
    · linarith
    · linarith [sq_nonneg (Real.sin (2 / 10 ^ 8))]
  · rfl
  · rw [hhalf, Real.sin_pi_div_two_sub, if_neg one_ne_zero]
    linarith

/-- There are three ways to go wrong: after a value that is as good as impossible, with a random
number that is as good as one, and on 79 qubits, where a vector vanishes without any measurement. -/
theorem vanishing_states :
    Disagree (fun k => if k = 0 then 0 else 1 / 2) (6 / 10 ^ 7) ∧
    Disagree (fun k => if k = 0 then 0 else 1 - 1 / 10 ^ 16) (Real.pi - 4 / 10 ^ 8) ∧
    ∃ m : Machine ℝ, Reached (fun _ => 0) 79 m ∧ ∀ i, amplitudeAt m.vector i = 0 :=
  ⟨disagree_after_impossible, disagree_after_certain, exists_vanished _ le_rfl⟩

end Machine

end CircuitConsole.Simulation
