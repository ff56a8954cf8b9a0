import CircuitConsole.Statement.Fault
import CircuitConsole.Text.Blank

/-!
Cutting a circuit text into statements, and a list of arguments into its parts. Comments run from
two slashes to the end of the line. A statement ends at a semicolon outside braces, and after the
brace that closes a block.
-/

namespace CircuitConsole.Statement

open Text

/-- Leaves the comments out; the flag tells whether one is open. -/
def withoutComments : Bool → List Char → List Char
  | _, [] => []
  | true, c :: rest =>
    if c = '\n' then c :: withoutComments false rest else withoutComments true rest
  | false, '/' :: '/' :: rest => withoutComments true rest
  | false, c :: rest => c :: withoutComments false rest

def onFirst (c : Char) : List (List Char) → List (List Char)
  | [] => [[c]]
  | piece :: pieces => (c :: piece) :: pieces

def pieces : Nat → List Char → Except Fault (List (List Char))
  | depth, [] => if depth = 0 then .ok [[]] else .error .unterminatedBlock
  | depth, c :: rest =>
    if c = '\x7b' then (pieces (depth + 1) rest).map (onFirst c)
    else if c = '\x7d' then
      match depth with
      | 0 => .error .unbalancedBrace
      | 1 => (pieces 0 rest).map ([c] :: ·)
      | depth + 2 => (pieces (depth + 1) rest).map (onFirst c)
    else if c = ';' && depth == 0 then (pieces 0 rest).map ([] :: ·)
    else (pieces depth rest).map (onFirst c)

/-- The statements of a text, trimmed, without the empty ones. -/
def split (text : List Char) : Except Fault (List (List Char)) :=
  (pieces 0 (withoutComments false text)).map fun ps => (ps.map trim).filter (· ≠ [])

def braceBalance (s : List Char) : Int :=
  (s.count '\x7b' : Int) - s.count '\x7d'

def beforeComment : List Char → List Char
  | [] => []
  | '/' :: '/' :: _ => []
  | c :: rest => c :: beforeComment rest

def openBraces : List (List Char) → Int
  | [] => 0
  | line :: lines => braceBalance (beforeComment line) + openBraces lines

def commaPieces : Int → List Char → List (List Char)
  | _, [] => [[]]
  | depth, c :: rest =>
    let depth := if c = '(' then depth + 1 else if c = ')' then depth - 1 else depth
    if c = ',' && depth == 0 then [] :: commaPieces depth rest
    else onFirst c (commaPieces depth rest)

def commaParts (s : List Char) : List (List Char) :=
  let parts := (commaPieces 0 s).map trim
  if parts = [[]] then [] else parts

end CircuitConsole.Statement
