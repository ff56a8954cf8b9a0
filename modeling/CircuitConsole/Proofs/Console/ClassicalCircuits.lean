import CircuitConsole.Proofs.Simulation.ClassicalExecution
import CircuitConsole.Proofs.Simulation.FloatingPoint
import CircuitConsole.Proofs.Workspace.EmbeddedCircuits
import CircuitConsole.Proofs.Workspace.WellFormed

/-!
Classical circuits are executed exactly, with floating-point numbers and all. Since the queue of
every workspace fits into its registers, a queue of classical gates, measurements and resets is the
Boolean program that it reads as, whatever the layout of the registers and the random numbers.
-/

namespace CircuitConsole

open Simulation

theorem Workspace.WellFormed.follows {w : Workspace} (hw : w.WellFormed)
    (hclassical : ∀ op ∈ w.queue, op.instruction.isClassical = true) :
    ∀ op ∈ w.queue, Machine.Follows w.quantum.width w.classical.width op := by
  intro op hop
  refine ⟨hclassical op hop, hw.instructions op hop, fun c hc => ?_⟩
  obtain ⟨r, hr, _, hoffset, hsize⟩ := hw.conditions op hop c hc
  rw [hoffset, hsize]
  exact (hw.tiledClassical.bounds hr).2

/-- The classical bits that an execution leaves are those of the Boolean program. -/
theorem Workspace.WellFormed.bits_of_execute {w : Workspace} (hw : w.WellFormed)
    {room : Capacity} (hqubits : w.quantum.width ≤ maxQubits)
    (hbits : w.classical.width ≤ room.row)
    (hclassical : ∀ op ∈ w.queue, op.instruction.isClassical = true) {random : Draws Float}
    (hrandom : ∀ n, Scalar.less (random n) 0 = false ∧ Scalar.less (random n) 1 = true)
    (drawn : Nat) :
    (w.execute random drawn room).2.map (·.bits) =
      .ok ((List.range w.classical.width).map (Bits.zero.run w.queue).bit) := by
  have hrun := execute_classical hrandom drawn (c := w.circuit) hqubits hbits
    (hw.follows hclassical)
  exact map_eq_ok.mpr ⟨_, map_eq_ok.mpr ⟨_, hrun, rfl⟩, rfl⟩

namespace Console

/-- A workspace of a console that queues classical operations only, with at most the greatest number
of qubits and bits that fit into memory: executing it succeeds, the vector is one at a single index
and zero elsewhere, and the index and the bits are those that the Boolean program computes from
zeros. Random numbers are at least zero and less than one, and otherwise arbitrary. -/
theorem classical_exact {draws : Draws Float} {c : Console} (hc : c.Reachable draws)
    {w : Workspace} (hw : w ∈ c.workspaces) (room : Capacity)
    (hqubits : w.quantum.width ≤ maxQubits) (hbits : w.classical.width ≤ room.row)
    (hclassical : ∀ op ∈ w.queue, op.instruction.isClassical = true)
    (random : Draws Float) (hrandom : ∀ n, 0 ≤ random n ∧ random n < 1) (drawn : Nat) :
    let values := Bits.zero.run w.queue
    let index := number w.quantum.width values.qubit
    ∃ w', (w.execute random drawn room).2 = .ok w' ∧
      w'.amplitudes.size = Nat.pow 2 w.quantum.width ∧ index < w'.amplitudes.size ∧
      (∀ i (hi : i < w'.amplitudes.size), w'.amplitudes[i] = if i = index then 1 else 0) ∧
      w'.bits = (List.range w.classical.width).map values.bit := by
  intro values index
  have hwell : w.WellFormed := (hc.workspaces w hw).wellFormed
  have hdraws (n : Nat) : Scalar.less (random n) 0 = false ∧ Scalar.less (random n) 1 = true :=
    ⟨FloatingPoint.not_less_zero (hrandom n).1, decide_eq_true (hrandom n).2⟩
  have hrun := execute_classical hdraws drawn (c := w.circuit) hqubits hbits
    (hwell.follows hclassical)
  refine ⟨_, map_eq_ok.mpr ⟨_, hrun, rfl⟩, size_basis _ _, ?_, ?_, rfl⟩
  · change index < (basis (Nat.pow 2 w.quantum.width) index : Array (Amplitude Float)).size
    rw [size_basis]
    exact number_lt _ _
  · intro i hi
    change (basis (Nat.pow 2 w.quantum.width) index : Array (Amplitude Float))[i] = _
    simp [basis, unit]

/-- A qubit is copied and measured, the third is flipped as the register spells two, and the first
is reset: the index is six, and the bits are zero and one. -/
theorem conditional_flip_exact :
    let s : Setting := ⟨fun _ => .error .missing, fun _ => 0⟩
    let p := (Prompt.start.feed s "qreg q[3]; creg c[2]; x q[0]; cx q[0],q[1];".toList).1
    let p' := (p.feed s "measure q[1]->c[1]; if (c==2) x q[2]; reset q[0];".toList).1
    let w := p'.console.workspace
    ∃ w', (w.execute (fun _ => 0.5) 0 .usual).2 = .ok w' ∧ w'.amplitudes.size = 8 ∧
      (∀ i (hi : i < w'.amplitudes.size), w'.amplitudes[i] = if i = 6 then 1 else 0) ∧
      w'.bits = [false, true] := by
  intro s p p' w
  have hp : p'.Reachable s.draws := .feed s rfl _ (.feed s rfl _ .start)
  obtain ⟨w', hexecute, hsize, _, hamplitudes, hbits⟩ := classical_exact hp.console
    (workspace_mem _) .usual (by decide +kernel) (by decide +kernel) (by decide +kernel)
    (fun _ => 0.5) (fun _ => by decide +kernel) 0
  have hwidth : w.quantum.width = 3 := by decide +kernel
  have hindex : number w.quantum.width (Bits.zero.run w.queue).qubit = 6 := by decide +kernel
  have hvalues : (List.range w.classical.width).map (Bits.zero.run w.queue).bit =
      [false, true] := by decide +kernel
  refine ⟨w', hexecute, hsize.trans (by rw [hwidth]), ?_, hbits.trans hvalues⟩
  rw [← hindex]
  exact hamplitudes

/-- Bits that do not fit into memory: one qubit is flipped, and the execution fails. -/
theorem oversized_register_fails :
    let s : Setting := ⟨fun _ => .error .missing, fun _ => 0⟩
    let p := (Prompt.start.feed s "qreg q[1]; creg c[2000000000000000000]; x q[0];".toList).1
    let w := p.console.workspace
    p.console.Reachable s.draws ∧ w.quantum.width = 1 ∧
      (∀ op ∈ w.queue, op.instruction.isClassical = true) ∧
      ∀ room, (w.execute (fun _ => 0.5) 0 room).2 = .error (.outOfMemory 1) := by
  intro s p w
  have hp : p.Reachable s.draws := .feed s rfl _ .start
  have hqubits : w.quantum.width = 1 := by decide +kernel
  have hbits : w.classical.width = 2000000000000000000 := by decide +kernel
  have hclassical : ∀ op ∈ w.queue, op.instruction.isClassical = true := by decide +kernel
  clear_value w
  refine ⟨hp.console, hqubits, hclassical, fun room => ?_⟩
  have hlarge : room.row < w.circuit.bits := by
    change room.row < w.classical.width
    rw [hbits]
    exact room.row_lt.trans (by decide)
  have hsmall : w.circuit.qubits ≤ maxQubits := by
    change w.quantum.width ≤ maxQubits
    rw [hqubits]
    decide
  have hcount : w.circuit.bits ≤ countLimit := by
    change w.classical.width ≤ countLimit
    rw [hbits]
    decide
  rw [Workspace.execute, Circuit.execute_of_memory hsmall hcount hlarge, ← hqubits]
  rfl

end Console

end CircuitConsole
