import CircuitConsole.Proofs.Statement.Changes
import CircuitConsole.Proofs.Statement.Drafts

/-!
How a circuit text can fail. Nearly every fault belongs to the text; what remains is a number with
too many digits, a register too large for a list of its bits, and definitions nested too deep.
Each function hands on the faults of its parts and adds few of its own; a fault of the braces comes
from cutting a text only, be it the whole text or the body of a definition.
-/

namespace CircuitConsole.Statement

open Text

variable {α β : Type} {P : Overload → Prop}

def FailsOnly (Q : Fault → Prop) (x : Except Fault α) : Prop :=
  ∀ fault, x = .error fault → Q fault

namespace FailsOnly

variable {Q : Fault → Prop}

theorem ok (a : α) : FailsOnly Q (.ok a : Except Fault α) := by
  intro fault h
  cases h

theorem error {fault : Fault} (h : Q fault) : FailsOnly Q (.error fault : Except Fault α) := by
  intro fault' h'
  obtain rfl := Except.error.inj h'
  exact h

theorem mono {Q' : Fault → Prop} {x : Except Fault α} (hx : FailsOnly Q x)
    (h : ∀ fault, Q fault → Q' fault) : FailsOnly Q' x :=
  fun fault hfault => h fault (hx fault hfault)

theorem bind {x : Except Fault α} {f : α → Except Fault β} (hx : FailsOnly Q x)
    (hf : ∀ a, FailsOnly Q (f a)) : FailsOnly Q (x >>= f) := by
  intro fault hfault
  rcases bind_eq_error.mp hfault with h | ⟨a, _, h⟩
  · exact hx fault h
  · exact hf a fault h

theorem throw_bind {fault : Fault} {f : α → Except Fault β} (h : Q fault) :
    FailsOnly Q (throw fault >>= f) :=
  error h

theorem map {x : Except Fault α} (f : α → β) (hx : FailsOnly Q x) : FailsOnly Q (x.map f) := by
  cases x with
  | error fault => exact error (hx fault rfl)
  | ok a => exact ok (f a)

theorem mapM {f : α → Except Fault β} {xs : List α} (hf : ∀ x ∈ xs, FailsOnly Q (f x)) :
    FailsOnly Q (xs.mapM f) := by
  intro fault hfault
  obtain ⟨x, hx, h⟩ := exists_of_mapM_eq_error hfault
  exact hf x hx fault h

end FailsOnly

def Fault.Overloads (P : Overload → Prop) : Fault → Prop
  | .overload o => P o
  | _ => True

def Fault.Within (P : Overload → Prop) : Fault → Prop
  | .overload o => P o
  | .unbalancedBrace | .unterminatedBlock => False
  | _ => True

theorem Fault.Within.overloads {fault : Fault} (h : fault.Within P) : fault.Overloads P := by
  cases fault with
  | overload o => exact h
  | _ => trivial

theorem Fault.Within.mono {P' : Overload → Prop} {fault : Fault} (h : fault.Within P)
    (hP : ∀ o, P o → P' o) : fault.Within P' := by
  cases fault with
  | overload o => exact hP o h
  | unbalancedBrace | unterminatedBlock => exact h.elim
  | _ => trivial

/-- How a draft can be too much for an operation: a number has too many digits, a register too many
bits to count them or to list them, or there are so many definitions that they can be nested too
deep. -/
def Draft.Exceeds (d : Draft) (room : Capacity) : Overload → Prop
  | .digitsRead digits => digitLimit < digits
  | .places => ∃ r ∈ d.quantum ++ d.classical, countLimit < r.size
  | .memory => ∃ r ∈ d.quantum ++ d.classical, room.row < r.size
  | .nesting => room.calls ≤ d.definitions.length + 3
  | .count | .digitsWritten => False

section Parts

theorem pieces_overloads (depth : Nat) (s : List Char) :
    FailsOnly (Fault.Overloads P) (pieces depth s) := by
  induction s generalizing depth with
  | nil =>
    unfold pieces
    split
    · exact .ok _
    · exact .error trivial
  | cons c rest ih =>
    unfold pieces
    split
    · exact .map _ (ih _)
    · split
      · split
        · exact .error trivial
        · exact .map _ (ih _)
        · exact .map _ (ih _)
      · split
        · exact .map _ (ih _)
        · exact .map _ (ih _)

theorem split_overloads (text : List Char) : FailsOnly (Fault.Overloads P) (split text) :=
  .map _ (pieces_overloads 0 _)

theorem readNumber_failsOnly {digits : List Char} (h : ∀ n, digitLimit < n → P (.digitsRead n)) :
    FailsOnly (Fault.Within P) (readNumber digits) := by
  unfold readNumber readNat
  split
  · exact .ok _
  · rename_i hlong
    exact .error (h _ (Nat.lt_of_not_le hlong))

theorem evaluateAll_failsOnly (env : Expression.Environment) (texts : List String) {room : Nat}
    (hroom : room = 0 → P .nesting) : FailsOnly (Fault.Within P) (evaluateAll env texts room) := by
  refine .mapM fun text _ => ?_
  split
  · rename_i hnone
    exact .error (hroom hnone)
  · cases Expression.evaluate env text.toList room with
    | error fault => exact .error trivial
    | ok x => exact .ok x

theorem checkArity_failsOnly (definitions : List Definition) (gate : String)
    (parameters qubits : Nat) :
    FailsOnly (Fault.Within P) (checkArity definitions gate parameters qubits) := by
  unfold checkArity
  split
  · exact .error trivial
  · split
    · exact .error trivial
    · split
      · exact .error trivial
      · exact .ok ()

theorem broadcast_failsOnly (spans : List Span) : FailsOnly (Fault.Within P) (broadcast spans) := by
  refine .bind ?_ fun width => .ok _
  unfold broadcastWidth
  split
  · exact .ok 1
  · split
    · exact .ok _
    · exact .error trivial

theorem placesOf_failsOnly (x : Definition) (qubits : List Nat) (names : List String) :
    FailsOnly (Fault.Within P) (placesOf x qubits names) := by
  refine .mapM fun q _ => ?_
  split
  · exact .ok _
  · exact .error trivial

/-- Expanding definitions inside one another uses them up: where there is no more room, there were
at least as many definitions as there had been room, but for the two calls that make an
instruction. -/
theorem expand_failsOnly (room : Nat) (definitions : List Definition) (gate : String)
    (parameters : List Float) (qubits : List Nat) :
    FailsOnly (Fault.Within fun o => o = .nesting ∧ room ≤ definitions.length + 2)
      (expand room definitions gate parameters qubits) := by
  induction room, definitions, gate, parameters, qubits using expand_induction with
  | noRoom definitions gate parameters qubits =>
    rw [expand_noRoom]
    exact .error ⟨rfl, by omega⟩
  | repeated room definitions gate parameters qubits hqubits =>
    rw [expand_repeated hqubits]
    exact .error trivial
  | cramped room definitions gate parameters qubits g hqubits hgate hroom =>
    rw [expand_cramped hqubits hgate hroom]
    exact .error ⟨rfl, by omega⟩
  | builtIn room definitions gate parameters qubits g hqubits hgate hroom =>
    rw [expand_builtIn hqubits hgate hroom]
    exact .ok _
  | unknown room gate parameters qubits hqubits hgate =>
    rw [expand_unknown hqubits hgate]
    exact .error trivial
  | latest room d earlier parameters qubits hqubits hgate ih =>
    rw [expand_latest hqubits hgate]
    refine .map _ (.mapM fun call _ => ?_)
    refine .bind (evaluateAll_failsOnly _ _ fun hnone => ⟨rfl, ?_⟩) fun values => ?_
    · rw [List.length_cons]
      omega
    refine .bind (placesOf_failsOnly d qubits call.qubits) fun places => ?_
    refine (ih call values places).mono fun fault hfault => hfault.mono fun o ho => ?_
    exact ⟨ho.1, Nat.succ_le_succ ho.2⟩
  | earlier room d earlier gate parameters qubits hqubits hgate hd ih =>
    rw [expand_earlier hd]
    refine ih.mono fun fault hfault => hfault.mono fun o ho => ?_
    exact ⟨ho.1, Nat.le_succ_of_le ho.2⟩

section Draft

variable {d : Draft} {room : Capacity}

theorem wholeSpan_failsOnly {r : Register} (hr : r ∈ d.quantum ++ d.classical) :
    FailsOnly (Fault.Within (d.Exceeds room)) (wholeSpan r room) := by
  unfold wholeSpan
  split
  · rename_i hcount
    exact .error ⟨r, hr, hcount⟩
  · split
    · rename_i hmemory
      exact .error ⟨r, hr, hmemory⟩
    · exact .ok _

theorem resolve_failsOnly {table : RegisterTable} (htable : table ⊆ d.quantum ++ d.classical)
    (kind : RegisterKind) (argument : List Char) :
    FailsOnly (Fault.Within (d.Exceeds room)) (resolve table kind argument room) := by
  unfold resolve
  dsimp only
  split
  · exact .error trivial
  · split
    · exact .error trivial
    · rename_i r hr
      split
      · exact wholeSpan_failsOnly (htable (List.mem_of_find?_eq_some hr))
      · refine .bind (readNumber_failsOnly fun _ h => h) fun index => ?_
        split
        · exact .error trivial
        · exact .ok _

theorem call_failsOnly (condition : Option Condition) (form : CallForm) :
    FailsOnly (Fault.Within (d.Exceeds room)) (d.call condition form room) := by
  unfold Draft.call
  refine .bind (checkArity_failsOnly _ _ _ _) fun _ => ?_
  refine .bind (evaluateAll_failsOnly _ _ fun hnone => ?_) fun parameters => ?_
  · show room.calls ≤ d.definitions.length + 3
    omega
  refine .bind (.mapM fun argument _ => resolve_failsOnly (List.subset_append_left _ _) _ _)
    fun spans => ?_
  refine .bind (broadcast_failsOnly spans) fun rounds => ?_
  refine .bind (.mapM fun qubits _ => ?_) fun instructions => .ok _
  refine (expand_failsOnly _ _ _ _ _).mono fun fault hfault => hfault.mono ?_
  rintro o ⟨rfl, hroom⟩
  rw [List.length_reverse] at hroom
  show room.calls ≤ d.definitions.length + 3
  omega

theorem operation_failsOnly (condition : Option Condition) (s : List Char) :
    FailsOnly (Fault.Within (d.Exceeds room)) (d.operation condition s room) := by
  have hquantum (argument : List Char) :
      FailsOnly (Fault.Within (d.Exceeds room)) (resolve d.quantum .quantum argument room) :=
    resolve_failsOnly (List.subset_append_left _ _) _ _
  have hclassical (argument : List Char) :
      FailsOnly (Fault.Within (d.Exceeds room)) (resolve d.classical .classical argument room) :=
    resolve_failsOnly (List.subset_append_right _ _) _ _
  cases operation_reading s with
  | measurement source target h =>
    rw [operation_measurement h]
    refine .bind (hquantum _) fun qubits => .bind (hclassical _) fun bits => ?_
    split
    · exact .error trivial
    · exact .ok _
  | reset target hmeasurement h =>
    rw [operation_reset hmeasurement h]
    exact .map _ (hquantum target)
  | barrier arguments hmeasurement hreset h =>
    rw [operation_barrier hmeasurement hreset h]
    exact .map _ (.mapM fun argument _ => hquantum argument)
  | call form h hqubits =>
    rw [h.operation_eq hqubits]
    exact call_failsOnly condition form
  | nothing h =>
    rw [h]
    exact .error trivial

theorem guard_failsOnly (guard : Option (List Char × List Char)) :
    FailsOnly (Fault.Within (d.Exceeds room)) (d.guard guard) := by
  cases guard with
  | none => exact .ok none
  | some p =>
    unfold Draft.guard
    dsimp only
    split
    · exact .error trivial
    · exact .map _ (readNumber_failsOnly fun _ h => h)

theorem declare_failsOnly (kind : RegisterKind) (name : String) (size : Nat) :
    FailsOnly (Fault.Within P) (d.declare kind name size) := by
  unfold Draft.declare
  split
  · exact .error trivial
  · split
    · exact .error trivial
    · cases kind with
      | quantum => exact .ok _
      | classical => exact .ok _

theorem bodyCall_failsOnly (gate : String) (qubits : List String) (s : List Char) :
    FailsOnly (Fault.Within P) (d.bodyCall gate qubits s) := by
  unfold Draft.bodyCall
  split
  · exact .ok none
  · split
    · exact .error trivial
    · refine .bind (checkArity_failsOnly _ _ _ _) fun _ => ?_
      split
      · exact .error trivial
      · exact .ok _

def DefinitionForm.Named (form : DefinitionForm) : Prop :=
  ∀ i ∈ (commaParts form.parameters).filter (· ≠ []) ++ commaParts (trim form.qubits),
    isIdentifier i = true

variable {Q : Fault → Prop}
  (hwithin : ∀ fault, fault.Within (d.Exceeds (room.inside 1)) → Q fault)

include hwithin

/-- A definition is cut into its body's statements only when its names are in order. -/
theorem define_failsOnly {form : DefinitionForm}
    (hbody : form.Named → FailsOnly Q (split form.body)) : FailsOnly Q (d.define form) := by
  unfold Draft.define
  dsimp only
  split
  · exact .throw_bind (hwithin _ trivial)
  · split
    · exact .throw_bind (hwithin _ trivial)
    · rename_i hnames
      have hnamed : form.Named := fun i hi => by
        simpa using List.find?_eq_none.mp hnames i hi
      split
      · exact .throw_bind (hwithin _ trivial)
      · refine .bind (hbody hnamed) fun statements => ?_
        exact .bind (.mapM fun s _ => (bodyCall_failsOnly _ _ s).mono hwithin) fun body => .ok _

/-- A statement fails as a definition does, or by what is too much in its draft, or with a fault of
its own text. -/
theorem statement_failsOnly {s : List Char}
    (hdefine : ∀ form, Form.of s = .definition form → FailsOnly Q (d.define form)) :
    FailsOnly Q (d.statement s room) := by
  cases hform : Form.of s with
  | ignored =>
    rw [Draft.statement_ignored hform]
    exact .ok d
  | declaration kind name size =>
    rw [Draft.statement_declaration hform]
    refine .bind ((readNumber_failsOnly fun _ h => h).mono hwithin) fun size => ?_
    exact (declare_failsOnly _ _ size).mono hwithin
  | definition form =>
    rw [Draft.statement_definition hform]
    exact hdefine form hform
  | conditional register value text =>
    rw [Draft.statement_conditional hform]
    refine .bind ((guard_failsOnly _).mono hwithin) fun condition => ?_
    exact (operation_failsOnly condition text).mono hwithin
  | operation text =>
    rw [Draft.statement_operation hform]
    exact (operation_failsOnly none text).mono hwithin

omit hwithin

/-- A statement is overloaded only by what is too much in its draft. -/
theorem statement_overloads (s : List Char) :
    FailsOnly (Fault.Overloads (d.Exceeds (room.inside 1))) (d.statement s room) :=
  statement_failsOnly (fun _ => Fault.Within.overloads) fun _ _ =>
    define_failsOnly (fun _ => Fault.Within.overloads) fun _ => split_overloads _

end Draft

end Parts

/-- Statements that are overloaded have led to a draft in which something is too much. -/
theorem statements_overload {d d' : Draft} {texts : List (List Char)} {o : Overload}
    {room : Capacity} (h : d.statements texts room = (d', some (.overload o))) :
    d'.Exceeds (room.inside 2) o := by
  obtain ⟨s, -, hs⟩ := Draft.exists_of_statements_fail h
  exact statement_overloads s _ hs

end CircuitConsole.Statement
