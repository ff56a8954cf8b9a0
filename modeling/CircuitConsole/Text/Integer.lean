import CircuitConsole.Text.Character

/-!
Whole numbers read from text. Digits of every script count, and no number of more than 4300
digits is read.
-/

namespace CircuitConsole.Text

def digitLimit : Nat := 4300

def digitsToNat (digits : List Char) : Nat :=
  digits.foldl (fun n c => 10 * n + (digitValue? c).getD 0) 0

structure TooManyDigits where
  count : Nat
  deriving DecidableEq, Repr

def readNat (digits : List Char) : Except TooManyDigits Nat :=
  if digits.length ≤ digitLimit then .ok (digitsToNat digits)
  else .error ⟨digits.length⟩

/-- Digits with single underscores between them; the result has the underscores left out. -/
def groupedDigits? : List Char → Option (List Char)
  | [] => none
  | [c] => if isDigit c then some [c] else none
  | c :: '_' :: rest => if isDigit c then (groupedDigits? rest).map (c :: ·) else none
  | c :: rest => if isDigit c then (groupedDigits? rest).map (c :: ·) else none

def readInt? (s : List Char) : Option Int :=
  let (negative, digits) := match s with
    | '-' :: rest => (true, rest)
    | '+' :: rest => (false, rest)
    | _ => (false, s)
  match groupedDigits? digits with
  | some ds =>
    if ds.length ≤ digitLimit then
      some (if negative then -(digitsToNat ds : Int) else digitsToNat ds)
    else none
  | none => none

end CircuitConsole.Text
