import CircuitConsole.Proofs.Text.WrittenNumbers
import CircuitConsole.Proofs.Workspace.DefinedCalls

/-!
What is written of a workspace can be read again: registers have identifiers as their names, and
their sizes and the values of conditions have been read from digits, so that they do not have too
many digits to be read once more.
-/

namespace CircuitConsole

open Statement Text

structure Register.Legible (r : Register) : Prop where
  name : isIdentifier r.name.toList = true
  size : r.size < 10 ^ digitLimit

def Condition.Legible (c : Condition) : Prop := c.value < 10 ^ digitLimit

structure Legible (quantum classical : RegisterTable) (queue : List (Operation Float)) : Prop where
  quantum : ∀ r ∈ quantum, r.Legible
  classical : ∀ r ∈ classical, r.Legible
  conditions : ∀ op ∈ queue, ∀ c ∈ op.condition, c.Legible

theorem Legible.empty : Legible [] [] [] :=
  ⟨List.forall_mem_nil _, List.forall_mem_nil _, List.forall_mem_nil _⟩

namespace Statement

variable {d d' : Draft} {s : List Char}

theorem readNumber_lt {digits : List Char} {n : Nat} (h : readNumber digits = .ok n) :
    n < 10 ^ digitLimit := by
  unfold readNumber at h
  cases hread : readNat digits with
  | error e =>
    rw [hread] at h
    cases h
  | ok m =>
    rw [hread] at h
    obtain rfl := Except.ok.inj h
    exact readNat_lt hread

/-- What is declared has an identifier as its name. -/
theorem isIdentifier_of_declaration {kind : RegisterKind} {name size : List Char}
    (h : Form.of s = .declaration kind name size) : isIdentifier name = true := by
  have hdeclaration : declaration? (tidy s) = some (kind, name, size) := by
    have hreading := form_reading s
    rw [h] at hreading
    cases hreading with
    | declaration hdeclaration => exact hdeclaration
  unfold declaration? at hdeclaration
  obtain ⟨⟨kind', rest⟩, -, h⟩ := Option.bind_eq_some_iff.mp hdeclaration
  obtain ⟨behind, -, h⟩ := Option.bind_eq_some_iff.mp h
  obtain ⟨⟨name', rest'⟩, hname, h⟩ := Option.bind_eq_some_iff.mp h
  obtain ⟨⟨digits, more⟩, -, h⟩ := Option.bind_eq_some_iff.mp h
  dsimp only at h
  split at h
  · cases h
    exact (identifier?_eq_some hname).2
  · cases h

def Draft.Legible (d : Draft) : Prop := CircuitConsole.Legible d.quantum d.classical d.queue

theorem Draft.declare_legible {kind : RegisterKind} {name : String} {size : Nat}
    (hd : d.Legible) (hname : isIdentifier name.toList = true) (hsize : size < 10 ^ digitLimit)
    (h : d.declare kind name size = .ok d') : d'.Legible := by
  have hadded {table : RegisterTable} (htable : ∀ r ∈ table, r.Legible) :
      ∀ r ∈ table.declare name size, r.Legible :=
    List.forall_mem_append.mpr ⟨htable, List.forall_mem_singleton.mpr ⟨hname, hsize⟩⟩
  obtain ⟨-, -, -, rfl⟩ := declare_eq_ok h
  cases kind with
  | quantum => exact ⟨hadded hd.quantum, hd.classical, hd.conditions⟩
  | classical => exact ⟨hd.quantum, hadded hd.classical, hd.conditions⟩

theorem Draft.enqueue_legible {condition : Option Condition}
    (hd : d.Legible) (hcondition : ∀ c ∈ condition, c.Legible)
    (instructions : List (Instruction Float)) : (d.enqueue condition instructions).Legible := by
  refine ⟨hd.quantum, hd.classical, List.forall_mem_append.mpr ⟨hd.conditions, ?_⟩⟩
  intro op hop
  obtain ⟨i, -, rfl⟩ := List.mem_map.mp hop
  exact hcondition

/-- A statement that is accepted keeps the draft legible. -/
theorem Draft.statement_legible {room : Capacity} (hd : d.Legible)
    (h : d.statement s room = .ok d') : d'.Legible := by
  cases hform : Form.of s with
  | ignored =>
    rw [statement_ignored hform] at h
    cases h
    exact hd
  | declaration kind name size =>
    rw [statement_declaration hform] at h
    obtain ⟨n, hn, h⟩ := bind_eq_ok.mp h
    refine declare_legible hd ?_ (readNumber_lt hn) h
    rw [String.toList_ofList]
    exact isIdentifier_of_declaration hform
  | definition form =>
    rw [statement_definition hform] at h
    obtain ⟨x, rfl, -, -⟩ := define_adds h
    exact hd
  | conditional register value text =>
    obtain ⟨c, instructions, -, -, hvalue, -, rfl, -⟩ := conditional_queued hform h
    refine enqueue_legible hd ?_ instructions
    rintro c ⟨⟩
    exact readNumber_lt hvalue
  | operation text =>
    rw [statement_operation hform] at h
    obtain ⟨instructions, -, rfl, -⟩ := operation_queued h
    exact enqueue_legible hd (by simp) instructions

theorem Draft.statements_legible (hd : d.Legible) (statements : List (List Char))
    (room : Capacity) : (d.statements statements room).1.Legible :=
  statements_keep hd fun _ _ _ _ hd hs => statement_legible hd hs

end Statement

namespace Workspace

def Legible (w : Workspace) : Prop := CircuitConsole.Legible w.quantum w.classical w.queue

theorem Reachable.legible {draws : Simulation.Draws Float} {w : Workspace}
    (h : w.Reachable draws) : w.Legible := by
  induction h with
  | empty => exact .empty
  | @accept room text v v' _ haccept ih =>
    obtain ⟨statements, d, -, hstatements, rfl⟩ := accept_eq_ok_iff.mp haccept
    have hdraft : v.draft.Legible := ⟨ih.quantum, ih.classical, List.forall_mem_nil _⟩
    have hd := Draft.statements_legible hdraft statements room
    rw [hstatements] at hd
    exact ⟨hd.quantum, hd.classical, List.forall_mem_append.mpr ⟨ih.conditions, hd.conditions⟩⟩
  | execute room drawn _ hexecute ih =>
    obtain ⟨outcome, -, rfl⟩ := execute_eq_ok hexecute
    exact ih

end Workspace

end CircuitConsole
