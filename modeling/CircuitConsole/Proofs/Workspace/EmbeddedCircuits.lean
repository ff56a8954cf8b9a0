import CircuitConsole.Proofs.Simulation.EmbeddedRuns
import CircuitConsole.Proofs.Simulation.Safety
import CircuitConsole.Proofs.Workspace.WellFormed

/-!
The circuit of a workspace over any numbers, and the circuit that does the same on other qubits.
All that a workspace queues fits into its registers. So with exact numbers an execution of its
circuit on chosen qubits of a machine, with more qubits and bits or not, succeeds if the circuit's
own execution does, and has the same outcome at the chosen places.
-/

namespace CircuitConsole

open Simulation

def Outcome.ofRun {R : Type} : Machine R × Option Simulation.Fault →
    Except ExecutionFault (Outcome R)
  | (m, none) => .ok ⟨m.vector, m.bits⟩
  | (_, some fault) => .error (.step fault)

/-- Outcomes of two circuits, the second of which has the qubits of the first at given places, and
more bits. -/
structure Outcome.Embedded {R : Type} [Scalar R] (p : Nat → Nat) (n n' added : Nat)
    (o o' : Outcome R) : Prop where
  amplitudes : Simulation.Embedded p n n' o.amplitudes o'.amplitudes
  bits : o'.bits = o.bits ++ List.replicate added false

theorem Outcome.ofRun_alike {R : Type} [Scalar R] {p : Nat → Nat} {added : Nat}
    {result result' : Machine R × Option Simulation.Fault} (hfault : result'.2 = result.2)
    (h : Machine.Embedded p added result.1 result'.1) :
    Alike (Outcome.Embedded p result.1.width result'.1.width added) (ofRun result)
      (ofRun result') := by
  obtain ⟨m, fault⟩ := result
  obtain ⟨m', fault'⟩ := result'
  obtain rfl : fault' = fault := hfault
  cases fault' with
  | none => exact .ok ⟨h.vector, h.bits⟩
  | some fault => exact .error _

namespace Circuit

def embed {R : Type} (c : Circuit R) (p : Nat → Nat) (qubits added : Nat) : Circuit R :=
  ⟨qubits, c.bits + added, c.operations.map (·.mapQubits p)⟩

def relabel {R : Type} (c : Circuit R) (p : Nat → Nat) : Circuit R := c.embed p c.qubits 0

variable {R : Type} [Scalar R]

def run (draws : Draws R) (drawn : Nat) (c : Circuit R) : Machine R × Option Simulation.Fault :=
  (Machine.start c.qubits c.bits drawn).run draws c.operations

/-- A circuit that is not too large is run. -/
theorem execute_eq_run {c : Circuit R} (hqubits : c.qubits ≤ maxQubits)
    {room : Capacity} (hbits : c.bits ≤ room.row) (draws : Draws R) (drawn : Nat) :
    c.execute draws drawn room =
      ((c.run draws drawn).1.drawn, Outcome.ofRun (c.run draws drawn)) := by
  have hcount : ¬ countLimit < c.bits := by
    have hrow := room.row_le
    omega
  rw [execute, if_neg (Nat.not_lt.mpr hqubits), if_neg hcount, if_neg (Nat.not_lt.mpr hbits)]
  change _ = (((Machine.start c.qubits c.bits drawn).run draws c.operations).1.drawn,
    Outcome.ofRun ((Machine.start c.qubits c.bits drawn).run draws c.operations))
  cases (Machine.start c.qubits c.bits drawn).run draws c.operations with
  | mk m fault => cases fault <;> rfl

/-- A circuit with more bits than fit into memory is not run. -/
theorem execute_of_memory {c : Circuit R} (hqubits : c.qubits ≤ maxQubits)
    {room : Capacity} (hcount : c.bits ≤ countLimit) (hbits : room.row < c.bits) (draws : Draws R)
    (drawn : Nat) : c.execute draws drawn room = (drawn, .error (.outOfMemory c.qubits)) := by
  rw [execute, if_neg (Nat.not_lt.mpr hqubits), if_neg (Nat.not_lt.mpr hcount), if_pos hbits]

/-- Circuits of operations that fit, one on chosen qubits of the other: neither is too large, so
they take as many random numbers and have the same outcome, or fail alike. -/
theorem execute_embedded [ExactNumbers R] {c : Circuit R} {p : Nat → Nat} {qubits added : Nat}
    {room : Capacity} (hp : Places p c.qubits qubits)
    (hops : ∀ op ∈ c.operations, Machine.Fits c.qubits c.bits op)
    (hqubits : c.qubits ≤ maxQubits) (hqubits' : qubits ≤ maxQubits)
    (hbits : c.bits + added ≤ room.row) (draws : Draws R) (drawn : Nat) :
    ((c.embed p qubits added).execute draws drawn room).1 = (c.execute draws drawn room).1 ∧
      Alike (Outcome.Embedded p c.qubits qubits added) (c.execute draws drawn room).2
        ((c.embed p qubits added).execute draws drawn room).2 := by
  have hops' : ∀ op ∈ c.operations, Machine.Fits c.qubits
      (Machine.start c.qubits c.bits drawn : Machine R).bits.length op := by
    simpa [Machine.start] using hops
  obtain ⟨hfault, hm⟩ :=
    Machine.run_embedded (Machine.start_embedded hp c.bits added drawn) draws hops'
  have hwidth : (c.run draws drawn).1.width = c.qubits :=
    (Machine.run_sameShape draws (.start c.qubits c.bits drawn) c.operations).width
  have hwidth' : ((c.embed p qubits added).run draws drawn).1.width = qubits :=
    (Machine.run_sameShape draws (.start qubits (c.bits + added) drawn)
      (c.embed p qubits added).operations).width
  have halike : Alike (Outcome.Embedded p (c.run draws drawn).1.width
      ((c.embed p qubits added).run draws drawn).1.width added) _ _ :=
    Outcome.ofRun_alike hfault hm
  rw [hwidth, hwidth'] at halike
  rw [execute_eq_run hqubits (by omega), execute_eq_run hqubits' hbits]
  exact ⟨hm.drawn, halike⟩

end Circuit

theorem Instruction.FitsIn.mapParameters {R S : Type} {width bits : Nat}
    {i : Instruction R} (h : i.FitsIn width bits) (f : R → S) :
    (i.mapParameters f).FitsIn width bits := by
  cases h with
  | gate g parameters qubits hparameters hqubits hdistinct hrange =>
    exact .gate g _ qubits (by rwa [List.length_map]) hqubits hdistinct hrange
  | measure qubit bit hqubit hbit => exact .measure qubit bit hqubit hbit
  | reset qubit hqubit => exact .reset qubit hqubit

namespace Workspace

/-- The whole queue as a circuit over any numbers, given what number each parameter stands for. -/
def circuitOver {R : Type} (value : Float → R) (w : Workspace) : Circuit R :=
  ⟨w.quantum.width, w.classical.width, w.queue.map (·.mapParameters value)⟩

/-- All operations of a well-formed workspace fit, over any numbers. -/
theorem WellFormed.fits {w : Workspace} (hw : w.WellFormed) {R : Type} (value : Float → R) :
    ∀ op ∈ (w.circuitOver value).operations,
      Machine.Fits w.quantum.width w.classical.width op := by
  intro op hop
  obtain ⟨queued, hqueued, rfl⟩ := List.mem_map.mp hop
  refine ⟨(hw.instructions queued hqueued).mapParameters value, fun c hc => ?_⟩
  obtain ⟨r, hr, _, hoffset, hsize⟩ := hw.conditions queued hqueued c hc
  rw [hoffset, hsize]
  exact (hw.tiledClassical.bounds hr).2

/-- Over the real numbers each angle has a cosine and a sine, so that a well-formed workspace of
moderate size is executed whatever its parameters stand for. -/
theorem WellFormed.executeOver_exists {w : Workspace} (hw : w.WellFormed)
    (room : Capacity) (hqubits : w.quantum.width ≤ maxQubits)
    (hbits : w.classical.width ≤ room.row)
    (value : Float → ℝ) (draws : Draws ℝ) (drawn : Nat) :
    ∃ outcome, ((w.circuitOver value).execute draws drawn room).2 = .ok outcome := by
  have hhalvable (parameters : List ℝ) : Halvable parameters := fun _ _ => rfl
  exact Circuit.execute_exists draws drawn hqubits hbits
    (fun op hop => (hw.fits value op hop).instruction) (fun op _ => hhalvable _) (hhalvable _)

/-- Over the numbers in the queue itself it is the circuit that is executed. -/
theorem circuitOver_id (w : Workspace) : w.circuitOver id = w.circuit := by
  have hsame (op : Operation Float) : op.mapParameters id = op := by
    obtain ⟨i, condition⟩ := op
    cases i <;> simp [Operation.mapParameters, Instruction.mapParameters]
  simp [circuitOver, circuit, hsame]

end Workspace

end CircuitConsole
