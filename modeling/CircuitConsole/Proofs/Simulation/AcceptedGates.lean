import CircuitConsole.Proofs.Simulation.Basis

/-!
What a machine does when it accepts a gate, whatever it was given. The operator of the gate is
applied to distinct qubits of the machine, wherever other qubits have certain values; only a gate
without any qubits changes nothing.
-/

namespace CircuitConsole.Simulation

/-- A square matrix has one size. -/
theorem Operator.isSquare_unique {K : Type} {U : Operator K} {a b : Nat}
    (ha : U.isSquare a = true) (hb : U.isSquare b = true) : a = b := by
  unfold Operator.isSquare at ha hb
  rw [Bool.and_eq_true, decide_eq_true_eq] at ha hb
  exact ha.1.symm.trans hb.1

namespace Machine

variable {R : Type} {m m' : Machine R} [Scalar R]

/-- An operator has been applied to distinct qubits, wherever other qubits have certain values. -/
structure Applied (U : Operator (Amplitude R)) (m m' : Machine R) (holds : Nat → Bool)
    (targets : List Nat) : Prop where
  square : U.isSquare (Nat.pow 2 targets.length) = true
  distinct : targets.Nodup
  range : ∀ t ∈ targets, t < m.width
  ignores : Ignores holds targets
  eq : m' = { m with vector := normalise (applyWhere holds U targets m.vector) }

theorem apply_eq_ok {U : Operator (Amplitude R)} {targets : List Int} (hwhole : m.Whole)
    (h : m.apply U targets = .ok m') : m' = m ∨ ∃ holds places, Applied U m m' holds places := by
  obtain ⟨v, hv, h⟩ := bind_eq_ok.mp h
  obtain rfl := Except.ok.inj h
  split
  · exact .inl rfl
  · rename_i hne
    obtain ⟨hnone, _⟩ | ⟨places, _, hdistinct, hrange, hsquare, rfl⟩ :=
      applyUnitary_eq_ok hwhole hv
    · exact absurd hnone hne
    · exact .inr ⟨_, places, hsquare, hdistinct, hrange, fun _ _ _ => rfl, rfl⟩

theorem applyControlled_eq_ok {U : Operator (Amplitude R)} {controls targets : List Int}
    {values : Option (List Int)} (hwhole : m.Whole)
    (h : m.applyControlled controls targets U values = .ok m') :
    ∃ holds places, Applied U m m' holds places := by
  obtain ⟨v, hv, h⟩ := bind_eq_ok.mp h
  obtain rfl := Except.ok.inj h
  obtain ⟨cs, ts, s, source, rfl, rfl, haccepted, _⟩ := applyControlledUnitary_eq_ok hv
  rw [haccepted.eq hwhole] at hv
  obtain rfl := Except.ok.inj hv
  have hlength := haccepted.length
  have hrange := haccepted.source_lt
  refine ⟨_, foundQubits m.width s source, ?_, nodup_foundQubits hlength haccepted.distinct hrange,
    foundQubits_lt hlength hrange, fun _ _ hsame => holds_congr_of_found hlength hrange hsame, rfl⟩
  rw [length_foundQubits, haccepted.length_source]
  exact haccepted.square

/-- A gate that is accepted changes nothing, or applies its operator. -/
theorem applyGate_eq_ok {g : Gate} {parameters : List R} {qubits : List Int} (hwhole : m.Whole)
    (h : m.applyGate g parameters qubits = .ok m') :
    m' = m ∨ ∃ U holds targets, g.operator parameters = .ok U ∧ targets.length = g.targetCount ∧
      Applied U m m' holds targets := by
  unfold applyGate at h
  obtain ⟨U, hU, h⟩ := bind_eq_ok.mp h
  have hlength {holds : Nat → Bool} {targets : List Nat} (happlied : Applied U m m' holds targets) :
      targets.length = g.targetCount :=
    Nat.pow_right_injective (Nat.le_refl 2)
      (Operator.isSquare_unique happlied.square (Gate.operator_isSquare hU))
  split at h
  · rcases apply_eq_ok hwhole h with hsame | ⟨holds, targets, happlied⟩
    · exact .inl hsame
    · exact .inr ⟨U, holds, targets, hU, hlength happlied, happlied⟩
  · obtain ⟨holds, targets, happlied⟩ := applyControlled_eq_ok hwhole h
    exact .inr ⟨U, holds, targets, hU, hlength happlied, happlied⟩

end Machine

end CircuitConsole.Simulation
