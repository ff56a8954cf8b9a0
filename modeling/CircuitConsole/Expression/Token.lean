import CircuitConsole.Decimal.Rounding

/-!
Tokens of parameter expressions. The language around the arithmetic is rich: much of it is
recognised, and only told apart from what is no expression at all.
-/

namespace CircuitConsole.Expression

/-- A text literal carries the expressions in braces that a formatted one holds. What is no token is
kept as one that fits nowhere. -/
inductive Token where
  | natural (n : Nat)
  | decimal (d : Decimal.Scientific)
  | imaginary
  | text (bytes : Bool) (fields : List (List Char))
  | name (s : String)
  | word (s : String)
  | symbol (s : String)
  | unreadable
  deriving DecidableEq, Repr

def reservedWords : List String := [
  "False", "None", "True", "and", "as", "assert", "async", "await", "break", "class", "continue",
  "def", "del", "elif", "else", "except", "finally", "for", "from", "global", "if", "import",
  "in", "is", "lambda", "nonlocal", "not", "or", "pass", "raise", "return", "try", "while",
  "with", "yield"]

/-- Signs of three, two and one characters; the longest that fits is taken. -/
def symbols3 : List String := ["**=", "//=", ">>=", "<<=", "..."]

def symbols2 : List String := [
  "!=", "%=", "&=", "**", "*=", "+=", "-=", "->", "//", "/=", ":=", "<<", "<=", "<>", "==", ">=",
  ">>", "@=", "^=", "|="]

def symbols1 : List String := [
  "%", "&", "(", ")", "*", "+", ",", "-", ".", "/", ":", ";", "<", "=", ">", "@", "[", "]", "^",
  "\x7b", "|", "\x7d", "~"]

end CircuitConsole.Expression
