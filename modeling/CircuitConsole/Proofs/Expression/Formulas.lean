import CircuitConsole.Expression.Evaluation
import CircuitConsole.Proofs.Expression.WrittenNumerals

/-!
Formulas, which are arithmetic without any text: numerals, names, signs, operators and elementary
functions. A formula has a value, which is found from the leaves up, the left operand first, and it
is written as a row of lexemes with no more parentheses than the levels of its operators ask for.
-/

namespace CircuitConsole.Expression

open Decimal Text

structure Word where
  letters : List Char
  identifier : isIdentifier letters = true
  ascii : letters.all (fun c => c.toNat < 128) = true
  free : String.ofList letters ∉ reservedWords

namespace Word

def name (w : Word) : String := String.ofList w.letters

theorem lt_of_mem (w : Word) : ∀ c ∈ w.letters, c.toNat < 128 := by
  simpa using w.ascii

def pi : Word := ⟨['p', 'i'], by decide, by decide, by decide⟩

end Word

inductive Elementary where
  | sin | cos | tan | exp | ln | sqrt

def Elementary.word : Elementary → Word
  | sin => ⟨['s', 'i', 'n'], by decide, by decide, by decide⟩
  | cos => ⟨['c', 'o', 's'], by decide, by decide, by decide⟩
  | tan => ⟨['t', 'a', 'n'], by decide, by decide, by decide⟩
  | exp => ⟨['e', 'x', 'p'], by decide, by decide, by decide⟩
  | ln => ⟨['l', 'n'], by decide, by decide, by decide⟩
  | sqrt => ⟨['s', 'q', 'r', 't'], by decide, by decide, by decide⟩

inductive Formula where
  | numeral (n : Numeral)
  | pi
  | parameter (w : Word) (other : w.name ≠ "pi")
  | sign (negative : Bool) (operand : Formula)
  | binary (op : Operator) (left right : Formula)
  | call (f : Elementary) (argument : Formula)

inductive Failure where
  | unbound (name : String)
  | divisionByZero
  | domain
  | range
  | notReal

section Values

/-- The value of a numeral: whole numbers may be beyond the range, decimal fractions are rounded to
infinity there. -/
def Numeral.value (n : Numeral) : Except Failure Float :=
  match n.number with
  | .inl n => (naturalToFloat? n).elim (.error .range) .ok
  | .inr d => .ok d.toFloat

def Operator.result (op : Operator) (x y : Float) : Except Failure Float :=
  match op with
  | .add => .ok (x + y)
  | .subtract => .ok (x - y)
  | .multiply => .ok (x * y)
  | .divide => if y == 0.0 then .error .divisionByZero else .ok (x / y)
  | .power =>
    match raised x y with
    | .ok (some r) => .ok r
    | .ok none => .error .notReal
    | .error fault => .error (if fault = .zeroToNegativePower then .divisionByZero else .range)

def Elementary.result (f : Elementary) (x : Float) : Except Failure Float :=
  match f with
  | .sin => if x.isInf then .error .domain else .ok x.sin
  | .cos => if x.isInf then .error .domain else .ok x.cos
  | .tan => if x.isInf then .error .domain else .ok x.tan
  | .exp => if x.exp.isInf && !x.isInf then .error .range else .ok x.exp
  | .ln => if x.isNaN then .ok x else if x ≤ 0.0 then .error .domain else .ok x.log
  | .sqrt => if x < 0.0 then .error .domain else .ok x.sqrt

/-- The value of a formula from the leaves up, or what is met first that has none. -/
def Formula.value (env : Environment) : Formula → Except Failure Float
  | numeral n => n.value
  | pi => .ok Expression.pi
  | parameter w _ => (env.find? w.name).elim (.error (.unbound w.name)) .ok
  | sign negative t => do
    let x ← t.value env
    .ok (if negative then -x else x)
  | binary op l r => do
    let x ← l.value env
    let y ← r.value env
    op.result x y
  | call f t => do
    let x ← t.value env
    f.result x

end Values

inductive Mark where
  | plus | minus | times | slash | power | opening | closing
  deriving DecidableEq

inductive Lexeme where
  | numeral (n : Numeral)
  | word (w : Word)
  | mark (m : Mark)

def Mark.text : Mark → List Char
  | plus => ['+']
  | minus => ['-']
  | times => ['*']
  | slash => ['/']
  | power => ['^']
  | opening => ['(']
  | closing => [')']

def Lexeme.text : Lexeme → List Char
  | numeral n => n.text
  | word w => w.letters
  | mark m => m.text

def Operator.mark : Operator → Mark
  | add => .plus
  | subtract => .minus
  | multiply => .times
  | divide => .slash
  | power => .power

def signMark (negative : Bool) : Mark := if negative then .minus else .plus

section Levels

/-- The levels of the grammar: sums, products, signs, powers, and all that needs no parentheses. -/
def Operator.level : Operator → Nat
  | add | subtract => 9
  | multiply | divide => 10
  | power => 12

def signLevel : Nat := 11

def atomLevel : Nat := 13

def Operator.leftLevel : Operator → Nat
  | add | subtract => 9
  | multiply | divide => 10
  | power => atomLevel

def Operator.rightLevel : Operator → Nat
  | add | subtract => 10
  | multiply | divide | power => signLevel

def Formula.level : Formula → Nat
  | binary op _ _ => op.level
  | sign _ _ => signLevel
  | _ => atomLevel

end Levels

def enclose (asked level : Nat) (row : List Lexeme) : List Lexeme :=
  if level < asked then .mark .opening :: (row ++ [.mark .closing]) else row

def Formula.lexemes : Formula → List Lexeme
  | numeral n => [.numeral n]
  | pi => [.word .pi]
  | parameter w _ => [.word w]
  | sign negative t => .mark (signMark negative) :: enclose signLevel t.level t.lexemes
  | binary op l r =>
    enclose op.leftLevel l.level l.lexemes ++
      .mark op.mark :: enclose op.rightLevel r.level r.lexemes
  | call f t => .word f.word :: .mark .opening :: (t.lexemes ++ [.mark .closing])

def Formula.depth : Formula → Nat
  | numeral _ | pi | parameter _ _ => 1
  | sign _ t => t.depth + 1
  | binary _ l r => max l.depth r.depth + 1
  | call _ t => t.depth + 1

/-- A row of things spelled one behind the other, with any spaces before, between and after them. -/
inductive Spaced {α : Type} (spell : α → List Char) : List α → List Char → Prop
  | nil {gap : List Char} (hgap : ∀ c ∈ gap, isSpace c = true) : Spaced spell [] gap
  | cons {gap : List Char} (hgap : ∀ c ∈ gap, isSpace c = true) (a : α) {row : List α}
      {s : List Char} (hs : Spaced spell row s) : Spaced spell (a :: row) (gap ++ (spell a ++ s))

def Formula.Spells (t : Formula) (s : List Char) : Prop := Spaced Lexeme.text t.lexemes s

end CircuitConsole.Expression
