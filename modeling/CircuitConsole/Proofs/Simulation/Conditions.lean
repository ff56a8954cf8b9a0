import CircuitConsole.Proofs.Simulation.Shape

/-!
Instructions under one condition. A condition looks at the bits of its own register only, and only
a measurement writes a bit. Instructions that all stand under one condition are therefore left out
together, or carried out together, unless one of them is a measurement into the register that the
condition looks at: then they are carried out up to a measurement after which it does not hold.
-/

namespace CircuitConsole

def Condition.Covers (c : Condition) (bit : Nat) : Prop :=
  c.offset ≤ bit ∧ bit < c.offset + c.size

theorem Condition.holds_congr {c : Condition} {bits bits' : List Bool}
    (h : ∀ b, c.Covers b → bits'[b]? = bits[b]?) : c.holds bits' = c.holds bits := by
  have hregister : (bits'.drop c.offset).take c.size = (bits.drop c.offset).take c.size := by
    refine List.ext_getElem? fun i => ?_
    rw [List.getElem?_take, List.getElem?_take]
    by_cases hi : i < c.size
    · rw [if_pos hi, if_pos hi, List.getElem?_drop, List.getElem?_drop]
      exact h _ ⟨Nat.le_add_right _ _, Nat.add_lt_add_left hi _⟩
    · rw [if_neg hi, if_neg hi]
  rw [holds, holds, hregister]

namespace Simulation.Machine

variable {R : Type} [Scalar R] {draws : Draws R} {m m' : Machine R}

theorem reset_bits {qubit : Int} (h : m.reset draws qubit = .ok m') : m'.bits = m.bits := by
  unfold reset at h
  obtain ⟨⟨outcome, m₁⟩, hmeasure, h⟩ := bind_eq_ok.mp h
  obtain ⟨v, _, hmeasured⟩ := measure_eq_ok hmeasure
  dsimp only at h hmeasured
  split at h
  · obtain ⟨v', _, rfl⟩ := applyGate_vector h
    rw [hmeasured]
  · obtain rfl := Except.ok.inj h
    rw [hmeasured]

/-- An instruction writes no bit but the one it measures into. -/
theorem perform_bits {i : Instruction R} (h : m.perform draws i = .ok m') {b : Nat}
    (hb : b ∉ i.bits) : m'.bits[b]? = m.bits[b]? := by
  cases i with
  | gate g parameters qubits =>
    obtain ⟨v, _, rfl⟩ := applyGate_vector h
    rfl
  | measure qubit bit =>
    obtain ⟨result, hmeasure, rfl⟩ := map_eq_ok.mp h
    obtain ⟨v, _, hmeasured⟩ := measure_eq_ok hmeasure
    have hne : bit ≠ b := fun heq => hb (by simp [Instruction.bits, heq])
    rw [hmeasured]
    simp [writeBit, hne]
  | reset qubit => rw [reset_bits h]

/-- A condition goes on to hold, or not to, where no bit of its register is written. -/
theorem holds_of_perform {c : Condition} {i : Instruction R} (h : m.perform draws i = .ok m')
    (hfree : ∀ b ∈ i.bits, ¬ c.Covers b) : c.holds m'.bits = c.holds m.bits :=
  Condition.holds_congr fun b hb => perform_bits h fun hmem => hfree b hmem hb

theorem run_append {ops : List (Operation R)} (h : m.run draws ops = (m', none))
    (later : List (Operation R)) : m.run draws (ops ++ later) = m'.run draws later := by
  induction ops generalizing m with
  | nil =>
    obtain rfl := (Prod.mk.inj h).1
    rfl
  | cons op ops ih =>
    unfold run at h
    rw [List.cons_append, run]
    cases hstep : m.step draws op with
    | error fault => simp [hstep] at h
    | ok m₁ =>
      simp only [hstep] at h
      exact ih h

theorem step_under (m : Machine R) (i : Instruction R) (c : Condition) :
    m.step draws ⟨i, some c⟩ = if c.holds m.bits then m.perform draws i else .ok m := rfl

/-- Instructions under a condition that does not hold are left out. -/
theorem run_of_not_holds {c : Condition} (h : c.holds m.bits = false)
    (instructions : List (Instruction R)) :
    m.run draws (instructions.map (Operation.mk · (some c))) = (m, none) := by
  induction instructions with
  | nil => rfl
  | cons i instructions ih =>
    have hstep : m.step draws ⟨i, some c⟩ = .ok m := by rw [step_under, h]; rfl
    rw [List.map_cons, run, hstep]
    exact ih

/-- Instructions under a condition that holds are carried out, all of them, or else up to a
measurement into a bit of its register. -/
theorem run_of_holds {c : Condition} (h : c.holds m.bits = true)
    (instructions : List (Instruction R)) :
    ∃ carried left, instructions = carried ++ left ∧
      m.run draws (instructions.map (Operation.mk · (some c))) =
        m.run draws (carried.map (Operation.mk · none)) ∧
      (left = [] ∨
        ∃ earlier qubit bit, carried = earlier ++ [.measure qubit bit] ∧ c.Covers bit) := by
  induction instructions generalizing m with
  | nil => exact ⟨[], [], rfl, rfl, .inl rfl⟩
  | cons i instructions ih =>
    have hstep : m.step draws ⟨i, some c⟩ = m.perform draws i := by rw [step_under, if_pos h]
    have hbare : m.step draws ⟨i, none⟩ = m.perform draws i := rfl
    cases hperform : m.perform draws i with
    | error fault =>
      refine ⟨i :: instructions, [], (List.append_nil _).symm, ?_, .inl rfl⟩
      simp only [List.map_cons, run, hstep, hbare, hperform]
    | ok m₁ =>
      have hrun (condition : Option Condition) (is : List (Instruction R))
          (hfirst : m.step draws ⟨i, condition⟩ = .ok m₁) :
          m.run draws ((i :: is).map (Operation.mk · condition)) =
            m₁.run draws (is.map (Operation.mk · condition)) := by
        simp only [List.map_cons, run, hfirst]
      by_cases hholds : c.holds m₁.bits = true
      · obtain ⟨carried, left, rfl, hsame, hleft⟩ := ih hholds
        refine ⟨i :: carried, left, rfl, ?_, hleft.imp_right ?_⟩
        · rw [hrun _ _ (hstep.trans hperform), hrun _ _ (hbare.trans hperform), hsame]
        · rintro ⟨earlier, qubit, bit, rfl, hcovers⟩
          exact ⟨i :: earlier, qubit, bit, rfl, hcovers⟩
      · -- the condition has changed, so that the instruction was a measurement into its register
        have hnot : c.holds m₁.bits = false := by simpa using hholds
        refine ⟨[i], instructions, rfl, ?_, .inr ?_⟩
        · rw [hrun _ _ (hstep.trans hperform), hrun _ [] (hbare.trans hperform),
            run_of_not_holds hnot]
          rfl
        · have hwritten : ∃ b ∈ i.bits, c.Covers b := by
            by_contra hfree
            simp only [not_exists, not_and] at hfree
            exact hholds ((holds_of_perform hperform hfree).trans h)
          obtain ⟨b, hb, hcovers⟩ := hwritten
          cases i with
          | measure qubit bit =>
            obtain rfl : b = bit := by simpa [Instruction.bits] using hb
            exact ⟨[], qubit, b, rfl, hcovers⟩
          | gate g parameters qubits => cases hb
          | reset qubit => cases hb

end Simulation.Machine

end CircuitConsole
