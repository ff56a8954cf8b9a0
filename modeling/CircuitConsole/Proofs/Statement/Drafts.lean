import CircuitConsole.Proofs.Success
import CircuitConsole.Statement.Draft

/-!
How statements are worked into a draft. They are worked in one after the other, each by its form; an
operation is worked in by what it is read as first. A call goes through the rounds of its arguments,
which are whole registers and single qubits, and its gate is expanded once for every round, on one
qubit of each argument.
-/

namespace CircuitConsole.Statement

open Text

namespace Draft

section Statements

variable {d d' : Draft} {s : List Char} {texts : List (List Char)} {fault : Fault}
  {room : Capacity}

theorem statements_cons (s : List Char) (texts : List (List Char)) :
    d.statements (s :: texts) room =
      match d.statement s (room.inside 1) with
      | .ok d' => d'.statements texts room
      | .error fault => (d, some fault) := rfl

theorem statements_of_ok (h : d.statement s (room.inside 1) = .ok d') :
    d.statements (s :: texts) room = d'.statements texts room := by
  rw [statements_cons, h]

theorem statements_of_error (h : d.statement s (room.inside 1) = .error fault) :
    d.statements (s :: texts) room = (d, some fault) := by
  rw [statements_cons, h]

/-- What every statement keeps is kept by all that are worked in. -/
theorem statements_keep {P : Draft → Prop} (hd : P d)
    (hstep : ∀ s ∈ texts, ∀ d d' : Draft, P d → d.statement s (room.inside 1) = .ok d' →
      P d') :
    P (d.statements texts room).1 := by
  induction texts generalizing d with
  | nil => exact hd
  | cons s texts ih =>
    obtain ⟨hs, htexts⟩ := List.forall_mem_cons.mp hstep
    cases hstatement : d.statement s (room.inside 1) with
    | error fault => rwa [statements_of_error hstatement]
    | ok e =>
      rw [statements_of_ok hstatement]
      exact ih (hs d e hd hstatement) htexts

/-- Statements fail with one of them, in the draft that those before it have led to. -/
theorem exists_of_statements_fail (h : d.statements texts room = (d', some fault)) :
    ∃ s ∈ texts, d'.statement s (room.inside 1) = .error fault := by
  induction texts generalizing d with
  | nil => cases h
  | cons s texts ih =>
    cases hstatement : d.statement s (room.inside 1) with
    | error fault' =>
      rw [statements_of_error hstatement, Prod.mk.injEq, Option.some.injEq] at h
      obtain ⟨rfl, rfl⟩ := h
      exact ⟨s, List.mem_cons_self .., hstatement⟩
    | ok e =>
      rw [statements_of_ok hstatement] at h
      obtain ⟨t, ht, hfails⟩ := ih h
      exact ⟨t, List.mem_cons_of_mem s ht, hfails⟩

end Statements

end Draft

section Forms

/-- The form of a statement that is an operation, by itself or behind a condition on a register. -/
def operationForm : Option (List Char × List Char) → List Char → Form
  | none, t => .operation t
  | some (register, value), t => .conditional register value t

def Draft.guard (d : Draft) :
    Option (List Char × List Char) → Except Fault (Option Condition)
  | none => .ok none
  | some (register, value) =>
    match d.classical.find? (String.ofList register) with
    | none => .error (.unknownRegister .classical (String.ofList register))
    | some r => (readNumber value).map fun value => some ⟨r.name, r.offset, r.size, value⟩

namespace Draft

variable {s t register value name size : List Char} {kind : RegisterKind} {form : DefinitionForm}
  {guard : Option (List Char × List Char)} {room : Capacity}

theorem guard_eq_ok {d : Draft} {condition : Option Condition}
    (h : d.guard (some (register, value)) = .ok condition) :
    ∃ r number, d.classical.find? (String.ofList register) = some r ∧
      readNumber value = .ok number ∧ condition = some ⟨r.name, r.offset, r.size, number⟩ := by
  unfold guard at h
  dsimp only at h
  split at h
  · cases h
  · rename_i r hr
    obtain ⟨number, hnumber, rfl⟩ := map_eq_ok.mp h
    exact ⟨r, number, hr, hnumber, rfl⟩

theorem statement_ignored (h : Form.of s = .ignored) (d : Draft) : d.statement s room = .ok d := by
  unfold statement
  rw [h]

theorem statement_declaration (h : Form.of s = .declaration kind name size) (d : Draft) :
    d.statement s room = readNumber size >>= d.declare kind (String.ofList name) := by
  unfold statement
  rw [h]

theorem statement_definition (h : Form.of s = .definition form) (d : Draft) :
    d.statement s room = d.define form := by
  unfold statement
  rw [h]

/-- The condition is found first, and the operation is worked in under it. -/
theorem statement_of_form (h : Form.of s = operationForm guard t) (d : Draft) :
    d.statement s room =
      d.guard guard >>= fun condition => d.operation condition t (room.inside 1) := by
  unfold statement
  rw [h]
  cases guard with
  | none => rfl
  | some p =>
    obtain ⟨register, value⟩ := p
    unfold operationForm guard
    dsimp only
    cases d.classical.find? (String.ofList register) with
    | none => rfl
    | some r => cases readNumber value <;> rfl

theorem statement_conditional (h : Form.of s = .conditional register value t) (d : Draft) :
    d.statement s room = d.guard (some (register, value)) >>= fun condition =>
      d.operation condition t (room.inside 1) :=
  statement_of_form h d

theorem statement_operation (h : Form.of s = .operation t) (d : Draft) :
    d.statement s room = d.operation none t (room.inside 1) := by
  unfold statement
  rw [h]

end Draft

end Forms

section Operations

variable {s source target arguments : List Char} {form : CallForm}

structure IsCall (t : List Char) (form : CallForm) : Prop where
  measurement : measurement? t = none
  reset : resetTarget? t = none
  barrier : barrier? t = none
  call : call? t = some form

inductive OperationReading (s : List Char) : Prop
  | measurement (source target : List Char) (h : measurement? s = some (source, target))
  | reset (target : List Char) (hmeasurement : measurement? s = none)
      (h : resetTarget? s = some target)
  | barrier (arguments : List Char) (hmeasurement : measurement? s = none)
      (hreset : resetTarget? s = none) (h : barrier? s = some arguments)
  | call (form : CallForm) (h : IsCall s form) (hqubits : form.qubits ≠ [])
  | nothing (h : ∀ (d : Draft) (condition : Option Condition) (room : Capacity),
      d.operation condition s room = .error (.unreadable (String.ofList s)))

theorem operation_measurement (h : measurement? s = some (source, target)) (d : Draft)
    (condition : Option Condition) (room : Capacity) : d.operation condition s room = (do
      let qubits ← resolve d.quantum .quantum source room
      let bits ← resolve d.classical .classical target room
      if qubits.size ≠ bits.size then .error .measureSizes
      else .ok (d.enqueue condition (qubits.toList.zipWith .measure bits.toList))) := by
  unfold Draft.operation
  simp only [h]

theorem operation_reset (hmeasurement : measurement? s = none) (h : resetTarget? s = some target)
    (d : Draft) (condition : Option Condition) (room : Capacity) : d.operation condition s room =
      (resolve d.quantum .quantum target room).map fun qubits =>
        d.enqueue condition (qubits.toList.map .reset) := by
  unfold Draft.operation
  simp only [hmeasurement, h]
  cases resolve d.quantum .quantum target room <;> rfl

theorem operation_barrier (hmeasurement : measurement? s = none) (hreset : resetTarget? s = none)
    (h : barrier? s = some arguments) (d : Draft) (condition : Option Condition)
    (room : Capacity) :
    d.operation condition s room =
      ((commaParts arguments).mapM (resolve d.quantum .quantum · room)).map fun _ => d := by
  unfold Draft.operation
  simp only [hmeasurement, hreset, h]
  cases (commaParts arguments).mapM (resolve d.quantum .quantum · room) <;> rfl

theorem IsCall.operation_eq (h : IsCall s form) (hne : form.qubits ≠ []) (d : Draft)
    (condition : Option Condition) (room : Capacity) :
    d.operation condition s room = d.call condition form room := by
  unfold Draft.operation
  simp only [h.measurement, h.reset, h.barrier, h.call]
  rw [if_neg hne]

theorem operation_reading (s : List Char) : OperationReading s := by
  cases hmeasurement : measurement? s with
  | some sides => exact .measurement sides.1 sides.2 hmeasurement
  | none =>
    cases hreset : resetTarget? s with
    | some target => exact .reset target hmeasurement hreset
    | none =>
      cases hbarrier : barrier? s with
      | some arguments => exact .barrier arguments hmeasurement hreset hbarrier
      | none =>
        cases hcall : call? s with
        | none =>
          refine .nothing fun d condition room => ?_
          simp only [Draft.operation, hmeasurement, hreset, hbarrier, hcall]
        | some form =>
          by_cases hqubits : form.qubits = []
          · refine .nothing fun d condition room => ?_
            simp only [Draft.operation, hmeasurement, hreset, hbarrier, hcall, if_pos hqubits]
          · exact .call form ⟨hmeasurement, hreset, hbarrier, hcall⟩ hqubits

end Operations

section Calls

/-- Single qubits make one round. -/
theorem broadcast_single (places : List Nat) : broadcast (places.map (⟨·, 1⟩)) = .ok [places] := by
  have hwidth : broadcastWidth (places.map (⟨·, 1⟩)) = .ok 1 := by
    unfold broadcastWidth
    rw [List.map_map, List.filter_eq_nil_iff.mpr (by simp)]
  have hround : (places.map (⟨·, 1⟩)).map (Span.at · 0) = places := by
    rw [List.map_map]
    exact List.map_id places
  unfold broadcast
  rw [hwidth]
  change Except.ok [(places.map (⟨·, 1⟩)).map (Span.at · 0)] = _
  rw [hround]

namespace Draft

def round (d : Draft) (condition : Option Condition) (gate : String) (parameters : List Float)
    (qubits : List Nat) (room : Capacity) : Except Fault Draft :=
  (expand (room.calls - 1) d.definitions.reverse gate parameters qubits).map (d.enqueue condition)

theorem enqueue_nil (d : Draft) (condition : Option Condition) : d.enqueue condition [] = d := by
  rw [enqueue, List.map_nil, List.append_nil]

theorem enqueue_append (d : Draft) (condition : Option Condition)
    (earlier later : List (Instruction Float)) :
    (d.enqueue condition earlier).enqueue condition later =
      d.enqueue condition (earlier ++ later) := by
  simp only [enqueue, List.map_append, List.append_assoc]

/-- What is found out about a call before its arguments are looked up: the values of its
parameters, if it has the right numbers of parameters and arguments. -/
def callValues (d : Draft) (form : CallForm) (room : Capacity) : Except Fault (List Float) := do
  let expressions := (commaParts form.parameters).map String.ofList
  checkArity d.definitions (String.ofList form.gate) expressions.length
    (commaParts form.qubits).length
  evaluateAll [] expressions (room.calls - 2)

/-- A call whose arguments are found goes through its rounds. -/
theorem call_of_spans (d : Draft) (condition : Option Condition) {form : CallForm}
    {spans : List Span} {turns : List (List Nat)} {room : Capacity}
    (hspans : (commaParts form.qubits).mapM (resolve d.quantum .quantum · room) = .ok spans)
    (hturns : broadcast spans = .ok turns) :
    d.call condition form room = d.callValues form room >>= fun parameters =>
      (turns.mapM (expand (room.calls - 1) d.definitions.reverse (String.ofList form.gate)
        parameters)).map fun parts => d.enqueue condition parts.flatten := by
  unfold call callValues
  simp only [hspans, hturns, bind, Except.bind]
  cases checkArity d.definitions (String.ofList form.gate)
    ((commaParts form.parameters).map String.ofList).length (commaParts form.qubits).length <;> rfl

/-- A call on single qubits has one round. -/
theorem call_single (d : Draft) (condition : Option Condition) {form : CallForm} {places : List Nat}
    {room : Capacity} (hplaces : (commaParts form.qubits).mapM (resolve d.quantum .quantum · room) =
      .ok (places.map (⟨·, 1⟩))) :
    d.call condition form room = d.callValues form room >>= fun parameters =>
      d.round condition (String.ofList form.gate) parameters places room := by
  rw [d.call_of_spans condition hplaces (broadcast_single places)]
  refine bind_congr fun parameters => ?_
  rw [round, List.mapM_cons, List.mapM_nil]
  cases
    expand (room.calls - 1) d.definitions.reverse (String.ofList form.gate) parameters places with
  | error fault => rfl
  | ok part => exact congrArg (Except.ok ∘ d.enqueue condition) (List.append_nil part)

end Draft

end Calls

end CircuitConsole.Statement
