import CircuitConsole.Statement.Expansion
import CircuitConsole.Statement.Form

/-!
A draft of what a circuit text adds: its registers, definitions and operations. Statements are
worked into the draft one by one. The first that fails spoils the whole text, and what the text
was added to stays as it was.
-/

namespace CircuitConsole.Statement

open Text

/-- The tables a text is read against, with the operations it has queued so far and whether it
declared a register. -/
structure Draft where
  quantum : RegisterTable
  classical : RegisterTable
  definitions : List Definition
  queue : List (Operation Float)
  declared : Bool
  deriving DecidableEq, Repr

structure Span where
  offset : Nat
  size : Nat
  deriving DecidableEq, Repr

def Span.toList (s : Span) : List Nat := List.range' s.offset s.size

def readNumber (digits : List Char) : Except Fault Nat :=
  (readNat digits).mapError fun e => .overload (.digitsRead e.count)

def wholeSpan (register : Register) (room : Capacity) : Except Fault Span :=
  if countLimit < register.size then .error (.overload .places)
  else if room.row < register.size then .error (.overload .memory)
  else .ok ⟨register.offset, register.size⟩

def resolve (table : RegisterTable) (kind : RegisterKind) (argument : List Char)
    (room : Capacity) : Except Fault Span :=
  let argument := trim argument
  match reference? argument with
  | none => .error (.badReference kind (String.ofList argument))
  | some (name, place) =>
    match table.find? (String.ofList name) with
    | none => .error (.unknownRegister kind (String.ofList name))
    | some register =>
      match place with
      | none => wholeSpan register room
      | some digits => do
        let index ← readNumber digits
        if register.size ≤ index then
          .error (.indexOutOfRange index register.name register.size)
        else .ok ⟨register.offset + index, 1⟩

/-- The bit that an argument provides in one round of a broadcast: its only one, or the one whose
turn it is. -/
def Span.at (s : Span) (round : Nat) : Nat := if 1 < s.size then s.offset + round else s.offset

def broadcastWidth (spans : List Span) : Except Fault Nat :=
  match (spans.map (·.size)).filter (1 < ·) with
  | [] => .ok 1
  | size :: sizes => if sizes.all (· = size) then .ok size else .error .gateSizes

def broadcast (spans : List Span) : Except Fault (List (List Nat)) := do
  let width ← broadcastWidth spans
  .ok ((List.range width).map fun round => spans.map (·.at round))

namespace Draft

def declare (d : Draft) (kind : RegisterKind) (name : String) (size : Nat) :
    Except Fault Draft :=
  if d.quantum.contains name || d.classical.contains name then .error (.alreadyDeclared name)
  else if size < 1 then .error (.emptyRegister name)
  else match kind with
  | .quantum => .ok { d with quantum := d.quantum.declare name size, declared := true }
  | .classical => .ok { d with classical := d.classical.declare name size, declared := true }

def bodyCall (d : Draft) (gate : String) (qubits : List String) (s : List Char) :
    Except Fault (Option Call) :=
  if (barrier? s).isSome then .ok none
  else match call? s with
  | none => .error (.badBodyStatement (String.ofList s) gate)
  | some form => do
    let name := String.ofList form.gate
    let expressions := (commaParts form.parameters).map String.ofList
    let arguments := (commaParts form.qubits).map String.ofList
    checkArity d.definitions name expressions.length arguments.length
    match arguments.find? fun a => !qubits.contains a with
    | some a => .error (.unknownQubit a gate)
    | none => .ok (some ⟨name, expressions, arguments⟩)

def define (d : Draft) (form : DefinitionForm) : Except Fault Draft := do
  let name := String.ofList form.name
  if (Gate.ofName? name).isSome || d.definitions.any (·.name = name) then
    throw (.alreadyDefined name)
  let parameters := (commaParts form.parameters).filter (· ≠ [])
  let qubits := commaParts (trim form.qubits)
  match (parameters ++ qubits).find? fun i => !isIdentifier i with
  | some i => throw (.badIdentifier (String.ofList i) name)
  | none => pure ()
  if qubits = [] then throw (.noQubits name)
  let formal := qubits.map String.ofList
  let statements ← split form.body
  let body ← statements.mapM (d.bodyCall name formal)
  return { d with
    definitions := d.definitions ++
      [⟨name, parameters.map String.ofList, formal, body.filterMap fun call => call⟩] }

def enqueue (d : Draft) (condition : Option Condition) (instructions : List (Instruction Float)) :
    Draft :=
  { d with queue := d.queue ++ instructions.map (⟨·, condition⟩) }

def call (d : Draft) (condition : Option Condition) (form : CallForm) (room : Capacity) :
    Except Fault Draft := do
  let gate := String.ofList form.gate
  let expressions := (commaParts form.parameters).map String.ofList
  let arguments := commaParts form.qubits
  checkArity d.definitions gate expressions.length arguments.length
  let parameters ← evaluateAll [] expressions (room.calls - 2)
  let spans ← arguments.mapM (resolve d.quantum .quantum · room)
  let rounds ← broadcast spans
  let instructions ← rounds.mapM (expand (room.calls - 1) d.definitions.reverse gate parameters)
  return d.enqueue condition instructions.flatten

def operation (d : Draft) (condition : Option Condition) (s : List Char) (room : Capacity) :
    Except Fault Draft :=
  match measurement? s with
  | some (source, target) => do
    let qubits ← resolve d.quantum .quantum source room
    let bits ← resolve d.classical .classical target room
    if qubits.size ≠ bits.size then .error .measureSizes
    else .ok (d.enqueue condition (qubits.toList.zipWith .measure bits.toList))
  | none =>
    match resetTarget? s with
    | some target => do
      let qubits ← resolve d.quantum .quantum target room
      .ok (d.enqueue condition (qubits.toList.map .reset))
    | none =>
      match barrier? s with
      | some arguments => do
        let _ ← (commaParts arguments).mapM (resolve d.quantum .quantum · room)
        .ok d
      | none =>
        match call? s with
        | some form =>
          if form.qubits = [] then .error (.unreadable (String.ofList s))
          else d.call condition form room
        | none => .error (.unreadable (String.ofList s))

def statement (d : Draft) (s : List Char) (room : Capacity) : Except Fault Draft :=
  match Form.of s with
  | .ignored => .ok d
  | .declaration kind name size => do
    let size ← readNumber size
    d.declare kind (String.ofList name) size
  | .definition form => d.define form
  | .conditional register value text =>
    match d.classical.find? (String.ofList register) with
    | none => .error (.unknownRegister .classical (String.ofList register))
    | some r => do
      let value ← readNumber value
      d.operation (some ⟨r.name, r.offset, r.size, value⟩) text (room.inside 1)
  | .operation text => d.operation none text (room.inside 1)

def statements (d : Draft) (texts : List (List Char)) (room : Capacity) : Draft × Option Fault :=
  match texts with
  | [] => (d, none)
  | s :: rest =>
    match d.statement s (room.inside 1) with
    | .ok d => d.statements rest room
    | .error fault => (d, some fault)

end Draft

end CircuitConsole.Statement
