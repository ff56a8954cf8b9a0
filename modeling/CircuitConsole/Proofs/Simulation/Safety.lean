import CircuitConsole.Proofs.Simulation.Application
import CircuitConsole.Proofs.Simulation.Shape
import CircuitConsole.Proofs.Statement.Expansion

/-!
Execution is safe where every operation fits. No step is refused whose qubits and bits exist, whose
gates have the right numbers of qubits and parameters, and whose angles can be halved. A circuit of
such operations is executed to its end, unless it has too many qubits or bits from the start.
-/

namespace CircuitConsole

open Simulation

variable {R : Type} [Scalar R]

def Halvable (parameters : List R) : Prop :=
  ∀ x ∈ parameters, Scalar.bounded (Scalar.half x) = true

namespace Simulation.Machine

theorem perform_exists (draws : Draws R) {m : Machine R} {i : Instruction R} {bits : Nat}
    (hwhole : m.Whole) (hfits : i.FitsIn m.width bits) (hparameters : Halvable i.parameters)
    (hpi : Halvable [Scalar.half (Scalar.pi : R)]) :
    ∃ m', m.perform draws i = .ok m' := by
  cases hfits with
  | gate g parameters qubits hcount hqubits hdistinct hrange =>
    obtain ⟨U, hU⟩ := Gate.operator_exists hcount hparameters (hpi _ (List.mem_cons_self ..))
    exact ⟨_, applyGate_eq hwhole hU hqubits hdistinct hrange⟩
  | measure qubit bit hqubit hbit =>
    exact ⟨_, map_eq_ok.mpr ⟨_, measure_eq draws hqubit _, rfl⟩⟩
  | reset qubit hqubit => exact ⟨_, reset_eq draws hwhole hqubit⟩

theorem step_exists (draws : Draws R) {m : Machine R} {op : Operation R} {bits : Nat}
    (hwhole : m.Whole) (hfits : op.instruction.FitsIn m.width bits)
    (hparameters : Halvable op.instruction.parameters)
    (hpi : Halvable [Scalar.half (Scalar.pi : R)]) :
    ∃ m', m.step draws op = .ok m' := by
  unfold step
  split
  · split
    · exact perform_exists draws hwhole hfits hparameters hpi
    · exact ⟨m, rfl⟩
  · exact perform_exists draws hwhole hfits hparameters hpi

/-- Operations that fit are carried out to the last. -/
theorem run_exists (draws : Draws R) {m : Machine R} {ops : List (Operation R)} {bits : Nat}
    (hwhole : m.Whole) (hfits : ∀ op ∈ ops, op.instruction.FitsIn m.width bits)
    (hparameters : ∀ op ∈ ops, Halvable op.instruction.parameters)
    (hpi : Halvable [Scalar.half (Scalar.pi : R)]) :
    ∃ m', m.run draws ops = (m', none) := by
  induction ops generalizing m with
  | nil => exact ⟨m, rfl⟩
  | cons op ops ih =>
    obtain ⟨m₁, hstep⟩ := step_exists draws hwhole (hfits op (List.mem_cons_self ..))
      (hparameters op (List.mem_cons_self ..)) hpi
    have hshape := step_sameShape hstep
    have hwidth := hshape.width
    unfold run
    rw [hstep]
    exact ih (hshape.whole hwhole) (fun op hop => hwidth ▸ hfits op (List.mem_cons_of_mem _ hop))
      fun op hop => hparameters op (List.mem_cons_of_mem _ hop)

end Simulation.Machine

/-- A circuit of operations that fit is executed, if it is not too large. -/
theorem Circuit.execute_exists (draws : Draws R) (drawn : Nat) {c : Circuit R} {room : Capacity}
    (hqubits : c.qubits ≤ maxQubits) (hbits : c.bits ≤ room.row)
    (hfits : ∀ op ∈ c.operations, op.instruction.FitsIn c.qubits c.bits)
    (hparameters : ∀ op ∈ c.operations, Halvable op.instruction.parameters)
    (hpi : Halvable [Scalar.half (Scalar.pi : R)]) :
    ∃ outcome, (c.execute draws drawn room).2 = .ok outcome := by
  obtain ⟨m, hrun⟩ := Machine.run_exists draws (m := Machine.start c.qubits c.bits drawn)
    (Machine.start_whole _ _ _) hfits hparameters hpi
  exact ⟨_, execute_of_run hqubits hbits hrun⟩

end CircuitConsole
