import CircuitConsole.Proofs.Console.ClassicalCircuits
import CircuitConsole.Proofs.Simulation.Conditions

/-!
Conditional statements. A statement under a condition queues instructions that each stand under that
condition, and each looks at the register again when its turn comes. Unless the statement measures
into the register itself, this makes no difference: all its instructions are carried out, or none.
-/

namespace CircuitConsole

open Simulation Statement

namespace Workspace

/-- What a text of one conditional statement queues. -/
theorem conditional_accepted {w w' : Workspace} {room : Capacity}
    {text statement register value operation : List Char}
    (hsplit : split text = .ok [statement])
    (hform : Form.of statement = .conditional register value operation)
    (haccept : (w.accept text room).result = .ok w') :
    ∃ (c : Condition) (instructions : List (Instruction Float)),
      w'.queue = w.queue ++ instructions.map (Operation.mk · (some c)) ∧
      Reads w.classical c ∧ c.register = String.ofList register ∧
      readNumber value = .ok c.value ∧
      (measurement? operation = none → ∀ i ∈ instructions, i.bits = []) := by
  rw [accept_single hsplit] at haccept
  obtain ⟨d, hstatement, rfl⟩ := map_eq_ok.mp haccept
  obtain ⟨c, instructions, hreads, hregister, hvalue, _, rfl, hbits⟩ :=
    Draft.conditional_queued hform hstatement
  exact ⟨c, instructions, rfl, hreads, hregister, hvalue, hbits⟩

/-- A conditional statement is accepted, and later the operations before it have been carried out.
If its register does not hold the value then, the statement is left out. If it does, all its
instructions are carried out as if there were no condition, except that a measurement into the
register itself may stop short, behind a bit of the register that it has just measured. -/
theorem conditional_carriedOut {w w' : Workspace} {room : Capacity}
    {text statement register value operation : List Char} (hsplit : split text = .ok [statement])
    (hform : Form.of statement = .conditional register value operation)
    (haccept : (w.accept text room).result = .ok w') :
    ∃ (c : Condition) (instructions : List (Instruction Float)),
      w'.queue = w.queue ++ instructions.map (Operation.mk · (some c)) ∧
      Reads w.classical c ∧ c.register = String.ofList register ∧
      readNumber value = .ok c.value ∧
      ∀ (draws : Draws Float) (start m : Machine Float), start.run draws w.queue = (m, none) →
        (c.holds m.bits = false → start.run draws w'.queue = (m, none)) ∧
        (c.holds m.bits = true → ∃ carried left, instructions = carried ++ left ∧
          start.run draws w'.queue = m.run draws (carried.map (Operation.mk · none)) ∧
          (left = [] ∨ (measurement? operation).isSome = true ∧
            ∃ earlier qubit bit, carried = earlier ++ [.measure qubit bit] ∧ c.Covers bit)) := by
  obtain ⟨c, instructions, hqueue, hreads, hregister, hvalue, hbits⟩ :=
    conditional_accepted hsplit hform haccept
  refine ⟨c, instructions, hqueue, hreads, hregister, hvalue, fun draws start m hreached => ?_⟩
  rw [hqueue, Machine.run_append hreached]
  refine ⟨fun hnot => Machine.run_of_not_holds hnot instructions, fun hholds => ?_⟩
  obtain ⟨carried, left, hparts, hrun, hleft⟩ :=
    Machine.run_of_holds hholds instructions
  refine ⟨carried, left, hparts, hrun, hleft.imp_right fun hstopped => ⟨?_, hstopped⟩⟩
  obtain ⟨earlier, qubit, bit, rfl, _⟩ := hstopped
  cases hmeasurement : measurement? operation with
  | some sides => rfl
  | none =>
    have hnone := hbits hmeasurement (.measure qubit bit) (by simp [hparts])
    cases hnone

end Workspace

namespace Console

/-- Two qubits are measured under the condition that both bits are zero. When the measurement is
reached they are, so that it is carried out, to the end or up to a bit that it has measured. -/
theorem qubits_measured :
    let s : Setting := ⟨fun _ => .error .missing, fun _ => 0.5⟩
    let w := (Prompt.start.feed s "qreg q[2]; creg c[2];".toList).1.console.workspace
    let start : Machine Float := .start 2 2 0
    ∃ (w' : Workspace) (carried left : List (Instruction Float)),
      (w.accept "if (c==0) measure q -> c;".toList s.room).result = .ok w' ∧
      start.run s.draws w.queue = (start, none) ∧
      w'.queue.map (·.instruction) = carried ++ left ∧
      start.run s.draws w'.queue = start.run s.draws (carried.map (Operation.mk · none)) := by
  intro s w start
  have hqueue : w.queue = [] := by decide +kernel
  have hclassical : w.classical = [⟨"c", 0, 2⟩] := by decide +kernel
  have hsplit : split "if (c==0) measure q -> c;".toList =
      .ok ["if (c==0) measure q -> c".toList] := by decide +kernel
  have hform : Form.of "if (c==0) measure q -> c".toList =
      .conditional ['c'] ['0'] "measure q -> c".toList := by decide +kernel
  have hisOk : (w.accept "if (c==0) measure q -> c;".toList s.room).result.isOk = true := by
    decide +kernel
  cases haccept : (w.accept "if (c==0) measure q -> c;".toList s.room).result with
  | error fault =>
    rw [haccept] at hisOk
    cases hisOk
  | ok w' =>
    obtain ⟨c, instructions, hinstructions, ⟨r, hr, _, hoffset, hsize⟩, _, hvalue, hcarried⟩ :=
      Workspace.conditional_carriedOut hsplit hform haccept
    have hrun : start.run s.draws w.queue = (start, none) := by rw [hqueue]; rfl
    have hzero : c.value = 0 := Except.ok.inj (hvalue.symm.trans (by decide +kernel))
    have hholds : c.holds start.bits = true := by
      rw [hclassical, List.mem_singleton] at hr
      subst hr
      rw [Condition.holds, hoffset, hsize, hzero]
      rfl
    obtain ⟨carried, left, hparts, hleft, _⟩ := (hcarried s.draws start start hrun).2 hholds
    refine ⟨w', carried, left, rfl, hrun, ?_, hleft⟩
    rw [hinstructions, hqueue, ← hparts, List.nil_append, List.map_map]
    exact List.map_id instructions

/-- One of two bits is measured under the condition that both are zero: the second is not measured
after the first was found to be one. Without the condition both are found to be one, and without the
statement they stay zero. -/
theorem measurement_stops_halfway :
    let s : Setting := ⟨fun _ => .error .missing, fun _ => 0⟩
    let p := (Prompt.start.feed s "qreg q[2]; creg c[2]; x q;".toList).1
    let before := p.console.workspace
    let all := (p.feed s "measure q -> c;".toList).1.console.workspace
    let w := (p.feed s "if (c==0) measure q -> c;".toList).1.console.workspace
    p.Reachable s.draws ∧
      (before.execute (fun _ => 0.5) 0 s.room).2.map (·.bits) = .ok [false, false] ∧
      (all.execute (fun _ => 0.5) 0 s.room).2.map (·.bits) = .ok [true, true] ∧
      (w.execute (fun _ => 0.5) 0 s.room).2.map (·.bits) = .ok [true, false] := by
  intro s p before all w
  have hp : p.Reachable s.draws := .feed s rfl _ .start
  have hdraws (_ : Nat) :
      Scalar.less (0.5 : Float) 0 = false ∧ Scalar.less (0.5 : Float) 1 = true := by
    decide +kernel
  have hwell (q : Prompt) (hq : q.Reachable s.draws) : q.console.workspace.WellFormed :=
    (hq.console.workspaces _ (workspace_mem _)).wellFormed
  refine ⟨hp, ?_, ?_, ?_⟩
  · rw [(hwell _ hp).bits_of_execute (by decide +kernel) (by decide +kernel) (by decide +kernel)
      hdraws 0]
    decide +kernel
  · rw [(hwell _ (.feed s rfl _ hp)).bits_of_execute (by decide +kernel) (by decide +kernel)
      (by decide +kernel) hdraws 0]
    decide +kernel
  · rw [(hwell _ (.feed s rfl _ hp)).bits_of_execute (by decide +kernel) (by decide +kernel)
      (by decide +kernel) hdraws 0]
    decide +kernel

end Console

end CircuitConsole
