import CircuitConsole.Proofs.Simulation.FloatingPoint
import CircuitConsole.Proofs.Simulation.Safety
import CircuitConsole.Proofs.Workspace.WellFormed

/-!
No queue makes an execution fail. The workspaces of a console are well-formed, so that every
operation they queue fits into their registers, and a circuit of such operations is carried out to
its end. Only its size can still stand in the way, or an angle that is not finite.
-/

namespace CircuitConsole

open Simulation

namespace Workspace

theorem halvable_of_finite {parameters : List Float} (h : ∀ x ∈ parameters, x.isFinite = true) :
    Halvable parameters :=
  fun x hx => FloatingPoint.bounded_half (h x hx)

theorem halvable_half_pi : Halvable [Scalar.half (Scalar.pi : Float)] := by
  intro x hx
  obtain rfl := List.mem_singleton.mp hx
  exact FloatingPoint.bounded_half_half_pi

/-- A well-formed workspace of moderate size with finite angles is executed. -/
theorem WellFormed.execute_exists {w : Workspace} (hw : w.WellFormed)
    {room : Capacity} (hqubits : w.quantum.width ≤ maxQubits)
    (hbits : w.classical.width ≤ room.row)
    (hfinite : ∀ op ∈ w.queue, ∀ x ∈ op.instruction.parameters, x.isFinite = true)
    (draws : Draws Float) (drawn : Nat) :
    ∃ w', (w.execute draws drawn room).2 = .ok w' := by
  obtain ⟨outcome, houtcome⟩ := Circuit.execute_exists draws drawn (c := w.circuit) hqubits hbits
    hw.instructions (fun op hop => halvable_of_finite (hfinite op hop)) halvable_half_pi
  exact ⟨_, map_eq_ok.mpr ⟨outcome, houtcome, rfl⟩⟩

end Workspace

namespace Console

/-- Whatever is done to a console, at the prompt or in the middle of a line: the registers of each
of its workspaces tile the bits there are, so that each bit belongs to exactly one of them, no name
is used twice, and every queued operation fits. A workspace of at most the greatest number of
qubits, whose bits fit into memory and whose angles are finite, is therefore executed, with any
random numbers. -/
theorem queue_safe {draws : Draws Float} {c : Console} (hc : c.Reachable draws) {w : Workspace}
    (hw : w ∈ c.workspaces) :
    w.WellFormed ∧
    (∀ i, i < w.quantum.width →
      ∃ r ∈ w.quantum, r.covers i = true ∧ ∀ s ∈ w.quantum, s.covers i = true → s = r) ∧
    (∀ i, i < w.classical.width →
      ∃ r ∈ w.classical, r.covers i = true ∧ ∀ s ∈ w.classical, s.covers i = true → s = r) ∧
    (∀ room : Capacity, w.quantum.width ≤ maxQubits → w.classical.width ≤ room.row →
      (∀ op ∈ w.queue, ∀ x ∈ op.instruction.parameters, x.isFinite = true) →
      ∀ (random : Draws Float) (drawn : Nat), ∃ w', (w.execute random drawn room).2 = .ok w') := by
  have hwell : w.WellFormed := (hc.workspaces w hw).wellFormed
  exact ⟨hwell, fun _ => hwell.tiledQuantum.covers, fun _ => hwell.tiledClassical.covers,
    fun _ => hwell.execute_exists⟩

/-- A defined gate, a rotation and a measurement under a condition are executed. -/
theorem conditional_measurement_safe :
    let s : Setting := ⟨fun _ => .error .missing, fun _ => 0⟩
    let p := (Prompt.start.feed s "qreg q[2]; creg c[2]; gate g a,b \x7bcx a,b;\x7d".toList).1
    let p' := (p.feed s "g q[0],q[1]; rx(pi) q; if (c==0) measure q->c;".toList).1
    p'.console.workspace.queue.length = 5 ∧
      ∀ (random : Draws Float) (drawn : Nat),
        ∃ w', (p'.console.workspace.execute random drawn .usual).2 = .ok w' := by
  intro s p p'
  have hp : p'.Reachable s.draws := .feed s rfl _ (.feed s rfl _ .start)
  refine ⟨by decide +kernel, ?_⟩
  exact (queue_safe hp.console (workspace_mem _)).2.2.2 .usual (by decide +kernel)
    (by decide +kernel) (by decide +kernel)

end Console

end CircuitConsole
