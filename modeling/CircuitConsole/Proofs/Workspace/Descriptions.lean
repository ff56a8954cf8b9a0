import CircuitConsole.Proofs.Statement.OperationTexts
import CircuitConsole.Proofs.Workspace.Legibility
import CircuitConsole.Workspace.View

/-!
Descriptions of queued operations. An operation without parameters is described by a statement that
queues it once more: the names of its bits lead back to the bits, also when they belong to registers
that were declared later, and its condition to the register and the value.
-/

namespace CircuitConsole

open Simulation Statement Text

namespace Workspace

variable {draws : Draws Float} {w : Workspace} {room : Capacity}

section Texts

def instructionText (w : Workspace) : Instruction Float → List Char
  | .gate g _ qubits =>
    callText g.name.toList [] (spacedOut (qubits.map fun q => (w.quantum.bitName q).toList))
  | .measure qubit bit =>
    measureText (w.quantum.bitName qubit).toList (w.classical.bitName bit).toList
  | .reset qubit => resetText (w.quantum.bitName qubit).toList

def statementText (w : Workspace) (op : Operation Float) : List Char :=
  match op.condition with
  | none => w.instructionText op.instruction
  | some c => conditionText c.register.toList (Nat.toDigits 10 c.value) ++
      ' ' :: w.instructionText op.instruction

/-- The pieces of a description, put together as texts. -/
theorem description_toList (name qubits bits : String) :
    (name ++ "" ++ (" " ++ qubits) ++ bits).toList =
      name.toList ++ ' ' :: (qubits.toList ++ bits.toList) := by
  simp only [String.toList_append, show "".toList = [] from rfl, show " ".toList = [' '] from rfl,
    List.append_nil, List.append_assoc, List.cons_append, List.nil_append]

theorem instruction_toList {i : Instruction Float} (h : i.parameters = []) :
    (i.name ++ "" ++ (" " ++ ", ".intercalate (i.qubits.map w.quantum.bitName)) ++
      if i.bits = [] then ""
      else " -> " ++ ", ".intercalate (i.bits.map w.classical.bitName)).toList =
    w.instructionText i := by
  rw [description_toList]
  cases i with
  | gate g parameters qubits =>
    change g.name.toList ++
      ' ' :: ((", ".intercalate (qubits.map w.quantum.bitName)).toList ++ []) = _
    rw [String.toList_intercalate, List.map_map, List.append_nil, ← joined_spacedOut]
    rfl
  | measure qubit bit =>
    change "measure".toList ++ ' ' :: ((w.quantum.bitName qubit).toList ++
      (" -> " ++ w.classical.bitName bit).toList) = _
    rw [String.toList_append]
    rfl
  | reset qubit =>
    change "reset".toList ++ ' ' :: ((w.quantum.bitName qubit).toList ++ []) = _
    rw [List.append_nil]
    rfl

theorem condition_toList (c : Condition) (rest : String) :
    (toString "if(" ++ (toString c.register ++ (toString "==" ++ (toString c.value ++
      (toString ") " ++ rest))))).toList =
    conditionText c.register.toList (Nat.toDigits 10 c.value) ++ ' ' :: rest.toList := by
  have hvalue : (toString c.value).toList = Nat.toDigits 10 c.value := Nat.toList_repr
  simp only [String.toList_append, hvalue, conditionText, List.append_assoc, List.cons_append,
    List.nil_append]
  rfl

theorem describe_toList {op : Operation Float} (h : op.instruction.parameters = []) :
    (w.describe op).toList = w.statementText op := by
  have hinstruction := w.instruction_toList h
  unfold describe statementText
  simp only [h, if_true]
  cases op.condition with
  | none =>
    rw [← hinstruction, String.empty_append]
  | some c =>
    rw [← hinstruction]
    simp only [String.append_assoc]
    rw [condition_toList]

end Texts

/-- The name of a bit leads back to the bit. -/
theorem resolve_bitName {table : RegisterTable} (kind : RegisterKind) (room : Capacity) {i : Nat}
    (htable : table.Tiled) (hnames : table.names.Nodup) (hlegible : ∀ r ∈ table, r.Legible)
    (hi : i < table.width) :
    Solid (table.bitName i).toList ∧
      resolve table kind (table.bitName i).toList room = .ok ⟨i, 1⟩ := by
  obtain ⟨r, hr, hlow, hhigh, hname⟩ := exists_indexed htable hi
  have hfound : table.find? (String.ofList r.name.toList) = some r := by
    rw [String.ofList_toList]
    exact RegisterTable.find?_of_mem hnames hr
  have hsize := (hlegible r hr).size
  rw [hname, resolve_indexed (hlegible r hr).name hfound (by omega) (by omega)]
  exact ⟨solid_indexed (hlegible r hr).name _, by rw [Nat.add_sub_cancel' hlow]⟩

/-- The text of an instruction that fits into the registers. -/
theorem instructionText_operation (hwell : w.WellFormed) (hlegible : w.Legible)
    {i : Instruction Float} (hfits : i.FitsIn w.quantum.width w.classical.width)
    (hparameters : i.parameters = []) (hroom : 4 ≤ room.calls) :
    OperationText w.draft room i (w.instructionText i) := by
  obtain ⟨hquantum, hclassical, -⟩ := List.nodup_append.mp hwell.names
  have hqubit {q : Nat} (hq : q < w.quantum.width) := resolve_bitName .quantum room
    hwell.tiledQuantum hquantum hlegible.quantum hq
  have hbit {b : Nat} (hb : b < w.classical.width) := resolve_bitName .classical
    room hwell.tiledClassical hclassical hlegible.classical hb
  cases hfits with
  | gate g parameters qubits hcount hqubits hdistinct hrange =>
    obtain rfl : parameters = [] := hparameters
    refine operationText_gate ?_ ?_ hcount.symm hqubits hdistinct hroom
    · intro a ha
      obtain ⟨q, hq, rfl⟩ := List.mem_map.mp ha
      exact (hqubit (hrange q hq)).1
    · exact List.forall₂_map_left_iff.mpr
        (List.forall₂_same.mpr fun q hq => (hqubit (hrange q hq)).2)
  | measure qubit bit hq hb =>
    exact operationText_measure (hqubit hq).1.spaced (hbit hb).1.spaced (hqubit hq).2 (hbit hb).2
  | reset qubit hq => exact operationText_reset (hqubit hq).1.spaced (hqubit hq).2

/-- The text of a queued operation is a statement that queues it once more. -/
theorem statementText_reads (hwell : w.WellFormed) (hlegible : w.Legible) {op : Operation Float}
    (hop : op ∈ w.queue) (hparameters : op.instruction.parameters = [])
    (hroom : 5 ≤ room.calls) :
    Plain (w.statementText op) ∧ '#' ∉ w.statementText op ∧ Spaced (w.statementText op) ∧
      w.statementText op ≠ [] ∧
      w.draft.statement (w.statementText op) room =
        .ok (w.draft.enqueue op.condition [op.instruction]) := by
  have hinside : 4 ≤ (room.inside 1).calls := Nat.le_sub_of_add_le hroom
  have htext := w.instructionText_operation hwell hlegible (hwell.instructions op hop) hparameters
    hinside
  unfold statementText
  cases hcondition : op.condition with
  | none => exact ⟨htext.plain, htext.unmarked, htext.spaced, htext.nonempty, htext.statement_eq⟩
  | some c =>
    obtain ⟨r, hr, hname, hoffset, hsize⟩ := hwell.conditions op hop c hcondition
    obtain ⟨-, hclassical, -⟩ := List.nodup_append.mp hwell.names
    have hfound : w.classical.find? (String.ofList c.register.toList) = some r := by
      rw [String.ofList_toList, hname]
      exact RegisterTable.find?_of_mem hclassical hr
    have hregister : isIdentifier c.register.toList = true := by
      rw [hname]
      exact (hlegible.classical r hr).name
    obtain ⟨hplain, hunmarked, hspaced, hreads⟩ := htext.conditional hregister hfound
      (hlegible.conditions op hop c hcondition)
    refine ⟨hplain, hunmarked, hspaced, by simp, ?_⟩
    rw [hreads, ← hname, ← hoffset, ← hsize]

/-- The names of all bits lead back to them, and the description of a queued operation without
parameters, whatever statement it came from, is accepted and queues just this operation. Reading it
takes six calls; even at the deepest level of loads and blocks some hundreds are left. -/
theorem describe_reads_back
    (hw : w.Reachable draws ∨ ∃ c : Console, c.Reachable draws ∧ w ∈ c.workspaces)
    (hroom : 6 ≤ room.calls) :
    (∀ i < w.quantum.width,
      resolve w.quantum .quantum (w.quantum.bitName i).toList room = .ok ⟨i, 1⟩) ∧
    (∀ i < w.classical.width,
      resolve w.classical .classical (w.classical.bitName i).toList room = .ok ⟨i, 1⟩) ∧
    ∀ op ∈ w.queue, op.instruction.parameters = [] →
      '#' ∉ (w.describe op).toList ∧
      (w.accept (w.describe op).toList room).result =
        .ok { w with queue := w.queue ++ [op], dirty := true } := by
  have hreachable := Console.reachable_of_held hw
  have hwell := hreachable.wellFormed
  have hlegible := hreachable.legible
  obtain ⟨hquantum, hclassical, -⟩ := List.nodup_append.mp hwell.names
  refine ⟨fun i hi => ?_, fun i hi => ?_, fun op hop hparameters => ?_⟩
  · exact (resolve_bitName .quantum room hwell.tiledQuantum hquantum hlegible.quantum hi).2
  · exact (resolve_bitName .classical room hwell.tiledClassical hclassical hlegible.classical hi).2
  · have hinside : 5 ≤ (room.inside 1).calls := Nat.le_sub_of_add_le hroom
    obtain ⟨hplain, hunmarked, hspaced, hne, hreads⟩ :=
      statementText_reads hwell hlegible hop hparameters hinside
    rw [w.describe_toList hparameters]
    refine ⟨hunmarked, ?_⟩
    have hsplit := hplain.split_single (by rwa [hspaced.trim_eq])
    rw [hspaced.trim_eq] at hsplit
    rw [accept_single hsplit, hreads]
    simp [Except.map, commit, draft, Draft.enqueue]

/-- Operations of a gate under a condition and of a broadcast, described by statements of their
own. -/
theorem describe_reads_back_all :
    let t := ("qreg q[2]; qreg r[1]; creg c[2]; gate g a,b \x7bcx b,a; h b;\x7d " ++
      "if(c==2) g r[0],q[1]; measure q -> c;").toList
    ∃ w, (empty.accept t .usual).result = .ok w ∧
      w.queue.map w.describe = ["if(c==2) cx q[1], r[0]", "if(c==2) h q[1]",
        "measure q[0] -> c[0]", "measure q[1] -> c[1]"] ∧
      (∀ i < w.quantum.width,
        resolve w.quantum .quantum (w.quantum.bitName i).toList .usual = .ok ⟨i, 1⟩) ∧
      (∀ i < w.classical.width,
        resolve w.classical .classical (w.classical.bitName i).toList .usual = .ok ⟨i, 1⟩) ∧
      ∀ op ∈ w.queue, op.instruction.parameters = [] →
        '#' ∉ (w.describe op).toList ∧
        (w.accept (w.describe op).toList .usual).result =
          .ok { w with queue := w.queue ++ [op], dirty := true } := by
  intro t
  obtain ⟨w, hw, hdescribed⟩ := ok_of_any (x := (empty.accept t .usual).result)
    (p := fun w => w.queue.map w.describe = ["if(c==2) cx q[1], r[0]", "if(c==2) h q[1]",
      "measure q[0] -> c[0]", "measure q[1] -> c[1]"]) (by decide +kernel)
  have hreachable : w.Reachable fun _ => 0 := .accept .usual t .empty hw
  exact ⟨w, hw, of_decide_eq_true hdescribed, describe_reads_back (.inl hreachable) (by decide)⟩

end Workspace

end CircuitConsole
