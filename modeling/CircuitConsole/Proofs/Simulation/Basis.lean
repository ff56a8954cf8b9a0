import CircuitConsole.Proofs.Simulation.Application
import CircuitConsole.Proofs.Simulation.Indices
import CircuitConsole.Proofs.Simulation.Shape
import CircuitConsole.Proofs.Simulation.Units

/-!
Basis vectors: one at a single index and zero elsewhere. An operator that permutes the digits of
its targets takes a basis vector to another one. Measuring a qubit of a basis vector finds its
digit, whatever the random number, and changes nothing.
-/

namespace CircuitConsole.Simulation

def basis {R : Type} [Scalar R] (size k : Nat) : Array (Amplitude R) :=
  Array.ofFn (n := size) fun i => unit (decide (i.val = k))

section

variable {R : Type} [Scalar R]

theorem size_basis (size k : Nat) : (basis size k : Array (Amplitude R)).size = size := by
  simp [basis]

theorem amplitudeAt_basis {size k : Nat} (hk : k < size) (i : Nat) :
    amplitudeAt (basis size k : Array (Amplitude R)) i = unit (decide (i = k)) := by
  by_cases hi : i < size
  · simp [amplitudeAt, basis, hi]
  · have hne : i ≠ k := by omega
    simp [amplitudeAt, basis, hi, hne, unit]

theorem zeroVector_eq (width : Nat) :
    (zeroVector width : Array (Amplitude R)) = basis (Nat.pow 2 width) 0 := by
  refine Array.ext (by simp [zeroVector, basis]) fun i hi hi' => ?_
  simp [zeroVector, basis, unit]

end

variable {R : Type} [Scalar R] [ExactUnits R]

/-- The sum of squares of a vector with one entry that may be one. -/
theorem normSqSum_units {v : Array (Amplitude R)} {k : Nat} {b : Bool} (hk : k < v.size)
    (h : ∀ i (hi : i < v.size), v[i] = unit (decide (i = k) && b)) : normSqSum v = unit b := by
  have hlist : v.toList.map Amplitude.normSq =
      (List.range v.size).map fun i => unit (decide (i = k) && b) := by
    refine List.ext_getElem (by simp) fun i hi _ => ?_
    have hi : i < v.size := by simpa using hi
    simp [h i hi, Amplitude.normSq_unit]
  have hmem : decide (k ∈ List.range v.size) = true := by simpa using hk
  rw [normSqSum, hlist, sum_unit List.nodup_range, hmem, Bool.true_and]

theorem normalise_basis {size k : Nat} (hk : k < size) :
    normalise (basis size k : Array (Amplitude R)) = basis size k := by
  have hsum : normSqSum (basis size k : Array (Amplitude R)) = 1 := by
    refine normSqSum_units (k := k) (b := true) (by rwa [size_basis]) fun i hi => ?_
    simp [basis]
  have hnear : Scalar.less Scalar.normTolerance
      (Scalar.magnitude (normSqSum (basis size k : Array (Amplitude R)) - 1)) = false := by
    rw [hsum, ExactUnits.one_sub_one, Scalar.magnitude, ExactUnits.zero_not_negative]
    exact ExactUnits.within_tolerance
  unfold normalise
  simp only [hnear, Bool.false_and, Bool.false_eq_true, if_false]
  refine Array.ext (by simp) fun i hi hi' => ?_
  simp [basis, Amplitude.prune_unit]

omit [ExactUnits R] in
theorem project_basis {size k q : Nat} {value : Bool} (h : k.testBit q = value) :
    project (basis size k : Array (Amplitude R)) q value = basis size k := by
  refine Array.ext (size_project _ _ _) fun i hi hi' => ?_
  by_cases hi : i = k
  · simp [project, hi, h]
  · simp [project, basis, hi, unit]

/-- A qubit of a basis vector is one with the probability that is its digit. -/
theorem oneProbability_basis {size k : Nat} (hk : k < size) (q : Nat) :
    oneProbability (basis size k : Array (Amplitude R)) q = unit (k.testBit q) := by
  have hsum : normSqSum ((basis size k : Array (Amplitude R)).mapIdx fun i a =>
      if i.testBit q then a else 0) = unit (k.testBit q) := by
    refine normSqSum_units (k := k) (by simpa [basis] using hk) fun i hi => ?_
    by_cases hi : i = k
    · cases hbit : k.testBit q <;> simp [basis, hi, hbit, unit]
    · simp [basis, hi, unit]
  unfold oneProbability
  rw [hsum]
  cases k.testBit q with
  | false =>
    change (if Scalar.less 1 (if Scalar.less (0 : R) 0 then 0 else 0) then 1 else
      (if Scalar.less (0 : R) 0 then 0 else 0)) = 0
    rw [ite_self, ExactUnits.one_not_negative]
    rfl
  | true =>
    change (if Scalar.less 1 (if Scalar.less (1 : R) 0 then 0 else 1) then 1 else
      (if Scalar.less (1 : R) 0 then 0 else 1)) = 1
    rw [ExactUnits.one_not_negative]
    exact ite_self _

/-- A row of an operator that has one at a single column picks the amplitude of that column. -/
theorem dot_row {targets : List Nat} {size k p : Nat} (hk : k < size)
    (hp : p < Nat.pow 2 targets.length) (i : Nat) :
    dot ((List.range (Nat.pow 2 targets.length)).map fun c => unit (decide (c = p)))
        (fibre targets (basis size k : Array (Amplitude R)) i) =
      unit (decide (placeBits targets p i = k)) := by
  have hterm (c : Nat) : (unit (decide (c = p)) : Amplitude R) *
      amplitudeAt (basis size k) (placeBits targets c i) =
        unit (decide (c = p) && decide (placeBits targets p i = k)) := by
    rw [amplitudeAt_basis hk, Amplitude.unit_mul]
    by_cases hc : c = p
    · rw [hc]
    · simp [hc]
  have hmem : decide (p ∈ List.range (Nat.pow 2 targets.length)) = true := by simpa using hp
  rw [dot, fibre, List.zipWith_map, List.zipWith_self]
  simp only [hterm]
  rw [sum_unit List.nodup_range, hmem, Bool.true_and]

/-- An operator whose rows, one for each number that some digits spell, have one at a single
column. -/
def Permutes (U : Operator (Amplitude R)) (digits : Nat) (f : Nat → Nat) : Prop :=
  ∀ r, r < Nat.pow 2 digits →
    U.row r = (List.range (Nat.pow 2 digits)).map fun c => unit (decide (c = f r))

structure Exchanges (digits : Nat) (f : Nat → Nat) : Prop where
  lt : ∀ r, r < Nat.pow 2 digits → f r < Nat.pow 2 digits
  twice : ∀ r, r < Nat.pow 2 digits → f (f r) = r

def permuteIndex (holds : Nat → Bool) (targets : List Nat) (f : Nat → Nat) (i : Nat) : Nat :=
  if holds i then placeBits targets (f (pickBits targets i)) i else i

def Ignores (holds : Nat → Bool) (targets : List Nat) : Prop :=
  ∀ i j : Nat, (∀ b, b ∉ targets → i.testBit b = j.testBit b) → holds i = holds j

/-- Conditions on qubits other than the targets. -/
theorem ignores_controlsHold {fixed : List (Nat × Bool)} {targets : List Nat}
    (h : ∀ c ∈ fixed, c.1 ∉ targets) : Ignores (controlsHold fixed) targets := by
  intro i j hsame
  rw [Bool.eq_iff_iff]
  simp only [controlsHold, List.all_eq_true]
  refine forall₂_congr fun c hc => ?_
  rw [hsame c.1 (h c hc)]

/-- The controls of a gate ask nothing of other qubits. -/
theorem ignores_gateControls {g : Gate} {qubits places : List Nat}
    (h : ∀ q ∈ qubits.take g.controlCount, q ∉ places) :
    Ignores (controlsHold (Machine.gateControls g qubits)) places := by
  apply ignores_controlsHold
  intro c hc
  obtain ⟨q, hq, rfl⟩ := List.mem_map.mp hc
  exact h q hq

/-- No control of a gate is among its targets. -/
theorem control_notMem_targets {g : Gate} {qubits : List Nat} (hdistinct : qubits.Nodup) :
    ∀ q ∈ qubits.take g.controlCount, q ∉ qubits.drop g.controlCount := by
  rw [← List.take_append_drop g.controlCount qubits] at hdistinct
  obtain ⟨_, _, hdisjoint⟩ := List.nodup_append'.mp hdistinct
  exact fun q hq hq' => hdisjoint hq hq'

section

variable {holds : Nat → Bool} {targets : List Nat} {f : Nat → Nat}

theorem testBit_permuteIndex_of_notMem {b : Nat} (hb : b ∉ targets) (i : Nat) :
    (permuteIndex holds targets f i).testBit b = i.testBit b := by
  unfold permuteIndex
  split
  · exact testBit_placeBits_of_notMem hb _ i
  · rfl

theorem holds_permuteIndex (hholds : Ignores holds targets) (i : Nat) :
    holds (permuteIndex holds targets f i) = holds i :=
  hholds _ _ fun _ hb => testBit_permuteIndex_of_notMem hb i

theorem pickBits_permuteIndex (hdistinct : targets.Nodup) (hf : Exchanges targets.length f)
    (i : Nat) :
    pickBits targets (permuteIndex holds targets f i) =
      if holds i then f (pickBits targets i) else pickBits targets i := by
  unfold permuteIndex
  split
  · exact pickBits_placeBits hdistinct (hf.lt _ (pickBits_lt targets i)) i
  · rfl

theorem permuteIndex_permuteIndex (hdistinct : targets.Nodup) (hf : Exchanges targets.length f)
    (hholds : Ignores holds targets) (i : Nat) :
    permuteIndex holds targets f (permuteIndex holds targets f i) = i := by
  refine @eq_of_pickBits_eq targets _ _ ?_ fun b hb => ?_
  · rw [pickBits_permuteIndex hdistinct hf, pickBits_permuteIndex hdistinct hf,
      holds_permuteIndex hholds]
    cases holds i with
    | false => rfl
    | true => exact hf.twice _ (pickBits_lt targets i)
  · rw [testBit_permuteIndex_of_notMem hb, testBit_permuteIndex_of_notMem hb]

theorem permuteIndex_lt {width : Nat} (hrange : ∀ t ∈ targets, t < width) {i : Nat}
    (hi : i < Nat.pow 2 width) : permuteIndex holds targets f i < Nat.pow 2 width := by
  unfold permuteIndex
  split
  · exact placeBits_lt hrange hi _
  · exact hi

end

/-- A permutation of digits takes a basis vector to the one at the permuted index. -/
theorem applyWhere_basis {U : Operator (Amplitude R)} {holds : Nat → Bool} {targets : List Nat}
    {f : Nat → Nat} {size k : Nat} (hU : Permutes U targets.length f)
    (hf : Exchanges targets.length f) (hdistinct : targets.Nodup) (hholds : Ignores holds targets)
    (hk : k < size) :
    applyWhere holds U targets (basis size k : Array (Amplitude R)) =
      basis size (permuteIndex holds targets f k) := by
  have hindex (i : Nat) :
      permuteIndex holds targets f i = k ↔ i = permuteIndex holds targets f k := by
    constructor
    · rintro rfl
      exact (permuteIndex_permuteIndex hdistinct hf hholds i).symm
    · rintro rfl
      exact permuteIndex_permuteIndex hdistinct hf hholds k
  refine Array.ext (by rw [size_applyWhere, size_basis, size_basis]) fun i hi hi' => ?_
  have hentry : (applyWhere holds U targets (basis size k : Array (Amplitude R)))[i] =
      unit (decide (permuteIndex holds targets f i = k)) := by
    simp only [applyWhere, Array.getElem_ofFn]
    unfold permuteIndex
    split
    · rw [hU _ (pickBits_lt targets i)]
      exact dot_row hk (hf.lt _ (pickBits_lt targets i)) i
    · simp [basis]
  rw [hentry]
  simp [basis, hindex i]

end CircuitConsole.Simulation
