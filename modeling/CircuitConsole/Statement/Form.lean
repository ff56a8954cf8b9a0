import CircuitConsole.Statement.Split

/-!
Forms of statements, told apart by their shape alone. Names are not looked up and numbers are not
read here. A text that fits no other form is an operation, and an operation that fits no other
form is a call of a gate.
-/

namespace CircuitConsole.Statement

open Text

def around? (sign : Char) : List Char → Option (List Char × List Char)
  | [] => none
  | c :: rest =>
    if c = sign then some ([], rest)
    else (around? sign rest).map fun (before, after) => (c :: before, after)

def aroundLast? (sign : Char) : List Char → Option (List Char × List Char)
  | [] => none
  | c :: rest =>
    match aroundLast? sign rest with
    | some (before, after) => some (c :: before, after)
    | none => if c = sign then some ([], rest) else none

def aroundArrow? : List Char → Option (List Char × List Char)
  | [] => none
  | c :: rest =>
    match c, rest with
    | '-', '>' :: after => some ([], after)
    | _, _ => (aroundArrow? rest).map fun (before, after) => (c :: before, after)

def enclosedDigits? (opening closing : Char) (s : List Char) :
    Option (List Char × List Char) := do
  let rest ← afterPrefix? [opening] s
  let rest := trimLeft rest
  let digits := rest.takeWhile isDigit
  let rest ← afterPrefix? [closing] (trimLeft (rest.dropWhile isDigit))
  if digits = [] then none else some (digits, rest)

def isHeader (s : List Char) : Bool :=
  match (afterPrefix? "OPENQASM".toList s).bind afterBlanks? with
  | some version => version ≠ [] && version.all fun c => isDigit c || c = '.'
  | none => false

def isInclude (s : List Char) : Bool :=
  match ((afterPrefix? "include".toList s).bind afterBlanks?).bind (afterPrefix? ['"']) with
  | some rest => rest.dropWhile (· ≠ '"') = ['"']
  | none => false

def declaration? (s : List Char) : Option (RegisterKind × List Char × List Char) := do
  let (kind, rest) ←
    ((afterPrefix? "qreg".toList s).map ((RegisterKind.quantum, ·))).or
      ((afterPrefix? "creg".toList s).map ((RegisterKind.classical, ·)))
  let rest ← afterBlanks? rest
  let (name, rest) ← identifier? rest
  let (size, rest) ← enclosedDigits? '[' ']' (trimLeft rest)
  if rest = [] then some (kind, name, size) else none

structure DefinitionForm where
  name : List Char
  parameters : List Char
  qubits : List Char
  body : List Char
  deriving DecidableEq, Repr

def block? (s : List Char) : Option (List Char × List Char) := do
  let (qubits, rest) ← around? '\x7b' s
  match rest.reverse with
  | '\x7d' :: body => some (qubits, body.reverse)
  | _ => none

/-- A gate definition. Parentheses that do not close before the block belong to the qubits. -/
def definition? (s : List Char) : Option DefinitionForm := do
  let rest ← (afterPrefix? "gate".toList s).bind afterBlanks?
  let (name, rest) ← identifier? rest
  let rest := trimLeft rest
  let bare := (block? rest).map fun (qubits, body) => ⟨name, [], qubits, body⟩
  match rest with
  | '(' :: inside =>
    let withParameters : Option DefinitionForm := do
      let (parameters, rest) ← around? ')' inside
      let (qubits, body) ← block? rest
      some ⟨name, parameters, qubits, body⟩
    withParameters.or bare
  | _ => bare

def conditional? (s : List Char) : Option (List Char × List Char × List Char) := do
  let rest ← afterPrefix? "if".toList s
  let rest ← afterPrefix? ['('] (trimLeft rest)
  let (name, rest) ← identifier? (trimLeft rest)
  let rest ← afterPrefix? ['=', '='] (trimLeft rest)
  let rest := trimLeft rest
  let digits := rest.takeWhile isDigit
  let rest ← afterPrefix? [')'] (trimLeft (rest.dropWhile isDigit))
  let operation := trim rest
  if digits = [] || rest = [] then none else some (name, digits, operation)

inductive Form where
  | ignored
  | declaration (kind : RegisterKind) (name size : List Char)
  | definition (form : DefinitionForm)
  | conditional (register value operation : List Char)
  | operation (text : List Char)
  deriving DecidableEq, Repr

/-- Blanks are collapsed, except in a statement with a block. -/
def tidy (s : List Char) : List Char := if s.contains '\x7b' then trim s else collapse s

def Form.of (s : List Char) : Form :=
  let s := tidy s
  if isHeader s || isInclude s then .ignored
  else match declaration? s with
  | some (kind, name, size) => .declaration kind name size
  | none =>
    match definition? s with
    | some form => .definition form
    | none =>
      match conditional? s with
      | some (register, value, text) => .conditional register value text
      | none => .operation s

/-- The two sides of a measurement. The measured side has at least one character, if only a blank
one. -/
def measurement? (s : List Char) : Option (List Char × List Char) := do
  let rest ← afterPrefix? "measure".toList s
  let blanks := rest.takeWhile isBlank
  let rest := rest.dropWhile isBlank
  let sides (source : List Char) (tail : List Char) : Option (List Char × List Char) :=
    match aroundArrow? tail with
    | some (before, after) => if after = [] then none else some (source ++ before, after)
    | none => none
  match blanks, rest with
  | [], _ => none
  | _, [] => none
  | _ :: more, c :: tail => (sides [c] tail).or (if more = [] then none else sides [' '] rest)

def resetTarget? (s : List Char) : Option (List Char) := do
  let rest ← (afterPrefix? "reset".toList s).bind afterBlanks?
  if rest = [] then none else some rest

def barrier? (s : List Char) : Option (List Char) := do
  let rest ← afterPrefix? "barrier".toList s
  match rest with
  | c :: _ => if isWord c then none else some rest
  | [] => some []

structure CallForm where
  gate : List Char
  parameters : List Char
  qubits : List Char
  deriving DecidableEq, Repr

/-- A gate call: a name, parameters up to the last closing parenthesis, and qubits. -/
def call? (s : List Char) : Option CallForm := do
  let (gate, rest) ← identifier? s
  let rest := trimLeft rest
  let bare : CallForm := ⟨gate, [], rest⟩
  match rest with
  | '(' :: inside =>
    match aroundLast? ')' inside with
    | some (parameters, qubits) => some ⟨gate, parameters, trimLeft qubits⟩
    | none => some bare
  | _ => some bare

def reference? (s : List Char) : Option (List Char × Option (List Char)) := do
  let (name, rest) ← identifier? s
  match trimLeft rest with
  | [] => some (name, none)
  | rest =>
    let (digits, rest) ← enclosedDigits? '[' ']' rest
    if rest = [] then some (name, some digits) else none

end CircuitConsole.Statement
