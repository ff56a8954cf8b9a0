import CircuitConsole.Proofs.Simulation.ControlledKernel
import CircuitConsole.Simulation.Execution

/-!
The shape of a machine: its width, the length of its vector, and the number of its classical bits.
No step changes the shape, whether it measures, resets or applies a gate. An execution that
succeeds therefore leaves as many amplitudes and bits as its circuit asks for. Beyond its end a
vector counts as zero, so that what maps, projections and operators make of it can be told entry by
entry, whether there is such an entry or not.
-/

namespace CircuitConsole.Simulation

variable {R : Type} [Scalar R]

theorem size_normalise (v : Array (Amplitude R)) : (normalise v).size = v.size := by
  unfold normalise
  dsimp only
  split <;> simp

theorem size_project (v : Array (Amplitude R)) (qubit : Nat) (value : Bool) :
    (project v qubit value).size = v.size := by
  simp [project]

namespace Machine

structure SameShape (m m' : Machine R) : Prop where
  width : m'.width = m.width
  size : m'.vector.size = m.vector.size
  length : m'.bits.length = m.bits.length

omit [Scalar R] in
theorem SameShape.refl (m : Machine R) : SameShape m m := ⟨rfl, rfl, rfl⟩

omit [Scalar R] in
theorem SameShape.trans {m m' m'' : Machine R} (h : SameShape m m') (h' : SameShape m' m'') :
    SameShape m m'' :=
  ⟨h'.width.trans h.width, h'.size.trans h.size, h'.length.trans h.length⟩

def Whole (m : Machine R) : Prop := m.vector.size = Nat.pow 2 m.width

omit [Scalar R] in
theorem SameShape.whole {m m' : Machine R} (h : SameShape m m') (hm : m.Whole) : m'.Whole := by
  rw [Whole, h.size, h.width]
  exact hm

/-- Applying an operator changes nothing but the entries of the vector. -/
theorem apply_vector {m m' : Machine R} {U : Operator (Amplitude R)} {targets : List Int}
    (h : m.apply U targets = .ok m') :
    ∃ v, v.size = m.vector.size ∧ m' = { m with vector := v } := by
  obtain ⟨v, hv, h⟩ := bind_eq_ok.mp h
  obtain rfl := Except.ok.inj h
  split
  · exact ⟨m.vector, rfl, rfl⟩
  · exact ⟨_, (size_normalise _).trans (size_applyUnitary hv), rfl⟩

theorem applyControlled_vector {m m' : Machine R} {controls targets : List Int}
    {U : Operator (Amplitude R)} {values : Option (List Int)}
    (h : m.applyControlled controls targets U values = .ok m') :
    ∃ v, v.size = m.vector.size ∧ m' = { m with vector := v } := by
  obtain ⟨v, hv, h⟩ := bind_eq_ok.mp h
  obtain rfl := Except.ok.inj h
  obtain ⟨_, _, _, _, _, _, _, hsize⟩ := applyControlledUnitary_eq_ok hv
  exact ⟨_, (size_normalise _).trans hsize, rfl⟩

theorem applyGate_vector {m m' : Machine R} {g : Gate} {parameters : List R}
    {qubits : List Int} (h : m.applyGate g parameters qubits = .ok m') :
    ∃ v, v.size = m.vector.size ∧ m' = { m with vector := v } := by
  unfold applyGate at h
  obtain ⟨U, _, h⟩ := bind_eq_ok.mp h
  split at h
  · exact apply_vector h
  · exact applyControlled_vector h

theorem applyGate_sameShape {m m' : Machine R} {g : Gate} {parameters : List R}
    {qubits : List Int} (h : m.applyGate g parameters qubits = .ok m') : SameShape m m' := by
  obtain ⟨v, hsize, rfl⟩ := applyGate_vector h
  exact ⟨rfl, hsize, rfl⟩

omit [Scalar R] in
theorem writeBit_natCast (m : Machine R) (b : Nat) (value : Bool) :
    m.writeBit (b : Int) value = { m with bits := m.bits.set b value } :=
  if_pos (Int.natCast_nonneg b)

omit [Scalar R] in
theorem writeBit_sameShape (m : Machine R) (bit : Int) (value : Bool) :
    SameShape m (m.writeBit bit value) := by
  unfold writeBit
  split
  · exact ⟨rfl, rfl, by simp⟩
  · exact .refl m

/-- A measurement changes the entries of the vector, counts its random number, and writes what it
has found to the bit it was given. -/
theorem measure_eq_ok {draws : Draws R} {m : Machine R} {qubit : Int} {bit : Option Int}
    {result : Bool × Machine R} (h : m.measure draws qubit bit = .ok result) :
    ∃ v, v.size = m.vector.size ∧
      result.2 = match bit with
        | some bit => { m with vector := v, drawn := m.drawn + 1 }.writeBit bit result.1
        | none => { m with vector := v, drawn := m.drawn + 1 } := by
  unfold measure at h
  obtain ⟨_, _, h⟩ := bind_eq_ok.mp h
  obtain rfl := Except.ok.inj h
  exact ⟨_, (size_normalise _).trans (size_project _ _ _), rfl⟩

theorem measure_sameShape {draws : Draws R} {m : Machine R} {qubit : Int} {bit : Option Int}
    {result : Bool × Machine R} (h : m.measure draws qubit bit = .ok result) :
    SameShape m result.2 := by
  obtain ⟨v, hsize, hresult⟩ := measure_eq_ok h
  have hmeasured : SameShape m { m with vector := v, drawn := m.drawn + 1 } := ⟨rfl, hsize, rfl⟩
  rw [hresult]
  cases bit with
  | none => exact hmeasured
  | some bit => exact hmeasured.trans (writeBit_sameShape _ _ _)

theorem reset_sameShape {draws : Draws R} {m m' : Machine R} {qubit : Int}
    (h : m.reset draws qubit = .ok m') : SameShape m m' := by
  unfold reset at h
  obtain ⟨⟨outcome, m₁⟩, hmeasure, h⟩ := bind_eq_ok.mp h
  have hm := measure_sameShape hmeasure
  dsimp only at h
  split at h
  · exact hm.trans (applyGate_sameShape h)
  · obtain rfl := Except.ok.inj h
    exact hm

theorem perform_sameShape {draws : Draws R} {m m' : Machine R} {i : Instruction R}
    (h : m.perform draws i = .ok m') : SameShape m m' := by
  cases i with
  | gate g parameters qubits => exact applyGate_sameShape h
  | measure qubit bit =>
    obtain ⟨result, hmeasure, rfl⟩ := map_eq_ok.mp h
    exact measure_sameShape hmeasure
  | reset qubit => exact reset_sameShape h

theorem step_sameShape {draws : Draws R} {m m' : Machine R} {op : Operation R}
    (h : m.step draws op = .ok m') : SameShape m m' := by
  unfold step at h
  split at h
  · split at h
    · exact perform_sameShape h
    · obtain rfl := Except.ok.inj h
      exact .refl m
  · exact perform_sameShape h

/-- A run keeps the shape, also one that stops at a fault. -/
theorem run_sameShape (draws : Draws R) (m : Machine R) (ops : List (Operation R)) :
    SameShape m (m.run draws ops).1 := by
  induction ops generalizing m with
  | nil => exact .refl m
  | cons op ops ih =>
    unfold run
    cases hstep : m.step draws op with
    | error fault => exact .refl m
    | ok m' => exact (step_sameShape hstep).trans (ih m')

theorem start_whole (width bits drawn : Nat) : (start width bits drawn : Machine R).Whole := by
  simp [Whole, start, zeroVector]

end Machine

section Entries

variable {K : Type} [Zero K]

theorem amplitudeAt_of_lt {v : Array K} {i : Nat} (hi : i < v.size) : amplitudeAt v i = v[i] := by
  simp [amplitudeAt, hi]

theorem amplitudeAt_of_le {v : Array K} {i : Nat} (hi : v.size ≤ i) : amplitudeAt v i = 0 := by
  simp [amplitudeAt, hi]

/-- Vectors of one size with the same entries are the same. -/
theorem ext_amplitudeAt {v v' : Array K} (hsize : v.size = v'.size)
    (h : ∀ i, i < v.size → amplitudeAt v i = amplitudeAt v' i) : v = v' := by
  refine Array.ext hsize fun i hi hi' => ?_
  rw [← amplitudeAt_of_lt hi, ← amplitudeAt_of_lt hi']
  exact h i hi

theorem amplitudeAt_map {f : K → K} (hf : f 0 = 0) (v : Array K) (i : Nat) :
    amplitudeAt (v.map f) i = f (amplitudeAt v i) := by
  by_cases hi : i < v.size
  · simp [amplitudeAt, hi]
  · simp [amplitudeAt, hi, hf]

theorem amplitudeAt_applyWhere [Add K] [Mul K] {holds : Nat → Bool} {U : Operator K}
    {targets : List Nat} {v : Array K} {i : Nat} (hi : i < v.size) :
    amplitudeAt (applyWhere holds U targets v) i =
      if holds i then dot (U.row (pickBits targets i)) (fibre targets v i)
      else amplitudeAt v i := by
  have hi' : i < (applyWhere holds U targets v).size := by rwa [size_applyWhere]
  rw [amplitudeAt_of_lt hi', amplitudeAt_of_lt hi]
  simp [applyWhere]

theorem amplitudeAt_project (v : Array (Amplitude R)) (q : Nat) (value : Bool) (i : Nat) :
    amplitudeAt (project v q value) i =
      if i.testBit q = value then amplitudeAt v i else 0 := by
  by_cases hi : i < v.size
  · simp [amplitudeAt, project, hi]
  · simp [amplitudeAt, project, hi]

theorem amplitudeAt_zeroVector {width i : Nat} (hi : i < Nat.pow 2 width) :
    amplitudeAt (zeroVector width : Array (Amplitude R)) i = if i = 0 then 1 else 0 := by
  have hi' : i < (zeroVector width : Array (Amplitude R)).size := by simpa [zeroVector] using hi
  rw [amplitudeAt_of_lt hi']
  simp [zeroVector]

/-- The squared norm as a sum over all indices. -/
theorem normSqSum_eq (v : Array (Amplitude R)) :
    normSqSum v = ((List.range v.size).map fun i => (amplitudeAt v i).normSq).sum := by
  have hlist : v.toList.map Amplitude.normSq =
      (List.range v.size).map fun i => (amplitudeAt v i).normSq := by
    refine List.ext_getElem (by simp) fun i hi hi' => ?_
    have hi : i < v.size := by simpa using hi
    simp [amplitudeAt, hi]
  rw [normSqSum, hlist]

end Entries

end Simulation

theorem size_zeroVector {R : Type} [Scalar R] (width : Nat) :
    (Simulation.zeroVector width : Array (Amplitude R)).size = Nat.pow 2 width := by
  simp [Simulation.zeroVector]

namespace Circuit

open Simulation

variable {R : Type} [Scalar R]

/-- What an execution gives when it succeeds: the machine's state after the whole run. -/
theorem execute_eq_ok {draws : Draws R} {drawn : Nat} {c : Circuit R} {outcome : Outcome R}
    {room : Capacity} (h : (c.execute draws drawn room).2 = .ok outcome) :
    ∃ m, (Machine.start c.qubits c.bits drawn).run draws c.operations = (m, none) ∧
      outcome = ⟨m.vector, m.bits⟩ := by
  unfold execute at h
  split at h
  · contradiction
  · split at h
    · contradiction
    · split at h
      · contradiction
      · split at h
        · rename_i m hrun
          exact ⟨m, hrun, (Except.ok.inj h).symm⟩
        · contradiction

/-- A circuit that is not too large is executed if its operations are carried out to the last. -/
theorem execute_of_run {draws : Draws R} {drawn : Nat} {c : Circuit R} {m : Machine R}
    {room : Capacity} (hqubits : c.qubits ≤ maxQubits) (hbits : c.bits ≤ room.row)
    (hrun : (Machine.start c.qubits c.bits drawn).run draws c.operations = (m, none)) :
    (c.execute draws drawn room).2 = .ok ⟨m.vector, m.bits⟩ := by
  have hcount : ¬ countLimit < c.bits := by
    have hrow := room.row_le
    omega
  rw [execute, if_neg (Nat.not_lt.mpr hqubits), if_neg hcount, if_neg (Nat.not_lt.mpr hbits), hrun]

theorem execute_shape {draws : Draws R} {drawn : Nat} {c : Circuit R} {outcome : Outcome R}
    {room : Capacity} (h : (c.execute draws drawn room).2 = .ok outcome) :
    outcome.amplitudes.size = Nat.pow 2 c.qubits ∧ outcome.bits.length = c.bits := by
  obtain ⟨m, hrun, rfl⟩ := execute_eq_ok h
  have hshape := Machine.run_sameShape draws (Machine.start c.qubits c.bits drawn) c.operations
  rw [hrun] at hshape
  refine ⟨hshape.size.trans (size_zeroVector c.qubits), hshape.length.trans ?_⟩
  simp [Machine.start]

end Circuit

end CircuitConsole
