import CircuitConsole.Capacity
import CircuitConsole.Expression.Arithmetic
import CircuitConsole.Expression.Grammar
import CircuitConsole.Expression.Lexer
import CircuitConsole.Text.Blank

/-!
Values of parameter expressions. A text is trimmed, read as a tree, and evaluated from the
leaves up, the left operand first. A caret is another spelling of the power sign. What is nested
too deep has no value: how deep the whole tree may be depends on how many calls can still be opened,
and so does how deep each part may be that is evaluated before a fault is met.
-/

namespace CircuitConsole.Expression

open Text

/-- Names and their values; of two values for one name the later counts. -/
abbrev Environment := List (String × Float)

def Environment.find? (env : Environment) (name : String) : Option Float :=
  (env.reverse.find? fun b => b.1 = name).map (·.2)

inductive ValueFault where
  | tooDeep
  | unsupported
  | unknownParameter (name : String)
  | notReal
  | arithmetic (fault : ArithmeticFault)
  deriving DecidableEq, Repr

def lift (r : Except ArithmeticFault Float) : Except ValueFault Float :=
  r.mapError .arithmetic

def Operator.apply (op : Operator) (x y : Float) : Except ValueFault Float :=
  match op with
  | .add => .ok (x + y)
  | .subtract => .ok (x - y)
  | .multiply => .ok (x * y)
  | .divide => lift (ratio x y)
  | .power =>
    match raised x y with
    | .error fault => .error (.arithmetic fault)
    | .ok none => .error .notReal
    | .ok (some r) => .ok r

def spare {α : Type} (room : Nat) (r : Except ValueFault α) : Except ValueFault α :=
  if room = 0 then .error .tooDeep else r

/-- The value of a tree where so many calls can be opened one inside the other. Each node is a call,
which opens one more for whatever it does, except to find the value of a name. The name `pi` always
has its own value, whatever the names around. -/
def Tree.value (env : Environment) : Nat → Tree → Except ValueFault Float
  | 0, _ => .error .tooDeep
  | room + 1, .natural n => spare room <|
    match Decimal.naturalToFloat? n with
    | some x => .ok x
    | none => .error (.arithmetic .wholeNumberRange)
  | room + 1, .decimal d => spare room (.ok d.toFloat)
  | room + 1, .name s =>
    if s = "pi" then .ok pi
    else match env.find? s with
      | some x => .ok x
      | none => spare room (.error (.unknownParameter s))
  | room + 1, .sign negative t => do
    let x ← t.value env room
    .ok (if negative then -x else x)
  | room + 1, .binary op l r => do
    let x ← l.value env room
    let y ← r.value env room
    op.apply x y
  | room + 1, .call f t =>
    match function? f with
    | none => spare room (.error .unsupported)
    | some g => do
      let x ← t.value env room
      lift (g x)
  | room + 1, .other _ _ => spare room (.error .unsupported)

inductive Fault where
  | malformed (text : String)
  | tooDeep
  | unsupported
  | unknownParameter (name : String)
  | notReal
  | arithmetic (text : String) (fault : ArithmeticFault)
  deriving DecidableEq, Repr

def Fault.message : Fault → String
  | .malformed text => s!"Bad expression '{text}'"
  | .tooDeep => "Expression too deeply nested"
  | .unsupported => "Unsupported expression"
  | .unknownParameter name => s!"Unknown parameter '{name}'"
  | .notReal => "Expression has no real value"
  | .arithmetic text fault => s!"Cannot evaluate '{text}': {fault.message}"

/-- Expressions inside formatted texts may hold formatted texts themselves; with four kinds of
quotes there are no more than four one inside the other. -/
def textNesting : Nat := 4

def readTree : Nat → List Char → Except Refusal Tree
  | 0, _ => refuse
  | n + 1, s => treeOf (fun field => readTree n ('(' :: field ++ [')'])) (tokens s)

def withPowerSigns (s : List Char) : List Char :=
  s.flatMap fun c => if c = '^' then ['*', '*'] else [c]

/-- The value of an expression where some names have values and so many calls can be opened. The
tree is built by calls that take a third of the room of others, inside one that takes its whole. -/
def evaluate (env : Environment) (text : List Char) (room : Nat := Capacity.usual.calls) :
    Except Fault Float :=
  let text := trim text
  let shown := String.ofList text
  if text.contains '\x00' then .error (.arithmetic shown .nullCharacter)
  else match readTree (textNesting + 1) (withPowerSigns text) with
  | .error .malformed => .error (.malformed shown)
  | .error .tooDeep => .error .tooDeep
  | .ok t =>
    if 3 * (room - 1) ≤ t.depth then .error .tooDeep
    else (t.value env room).mapError fun
      | .tooDeep => .tooDeep
      | .unsupported => .unsupported
      | .unknownParameter name => .unknownParameter name
      | .notReal => .notReal
      | .arithmetic fault => .arithmetic shown fault

end CircuitConsole.Expression
