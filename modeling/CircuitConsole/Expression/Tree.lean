import CircuitConsole.Decimal.Rounding

/-!
Syntax trees of parameter expressions. Arithmetic is kept in full. Of all other expressions only
two things are kept: how deep they are, and whether they could stand where a loop binds a name.
-/

namespace CircuitConsole.Expression

inductive Operator where
  | add | subtract | multiply | divide | power
  deriving DecidableEq, Repr

inductive Tree where
  | natural (n : Nat)
  | decimal (d : Decimal.Scientific)
  | name (s : String)
  | sign (negative : Bool) (operand : Tree)
  | binary (op : Operator) (left right : Tree)
  | call (function : String) (argument : Tree)
  | other (bindable : Bool) (depth : Nat)
  deriving DecidableEq, Repr

def Tree.depth : Tree → Nat
  | .natural _ | .decimal _ | .name _ => 1
  | .sign _ t => t.depth + 1
  | .binary _ l r => max l.depth r.depth + 1
  | .call _ t => t.depth + 1
  | .other _ depth => depth

def Tree.around (parts : List Tree) : Tree :=
  .other false (parts.foldl (fun d t => max d t.depth) 0 + 1)

def Tree.place (parts : List Tree) : Tree :=
  .other true (parts.foldl (fun d t => max d t.depth) 0 + 1)

/-- A chain of operands on one level, without a value, with one operand more. -/
def Tree.beside (chain operand : Tree) : Tree :=
  .other false (max chain.depth (operand.depth + 1))

def Tree.bindable : Tree → Bool
  | .name _ => true
  | .other bindable _ => bindable
  | _ => false

end CircuitConsole.Expression
