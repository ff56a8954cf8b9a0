import CircuitConsole.Console.Directive
import CircuitConsole.Statement.Split

/-!
The reader of a source of lines. It is idle, or holds the lines of a loop block that is not closed
yet, or the lines of a statement whose braces are not closed yet.
-/

namespace CircuitConsole.Console

abbrev Line := List Char

/-- The lines of a loop block, how often to repeat them, and how many blocks are open in them. -/
structure Block where
  rounds : Nat
  lines : List Line
  depth : Nat
  deriving DecidableEq, Repr

inductive Reader where
  | idle
  | capturing (block : Block)
  | unfinished (lines : List Line)
  deriving DecidableEq, Repr

inductive Bracket where
  | opening
  | closing
  | neither
  deriving DecidableEq, Repr

/-- A line closes a block if its first directive does, and opens one if its last does. -/
def bracket (line : Line) : Bracket :=
  if isDirective line then
    let words := (phrasesAfter (Text.words line)).2.map (·.word)
    if words.head? = some "end".toList then .closing
    else if words.getLast? = some "loop".toList then .opening
    else .neither
  else .neither

namespace Block

def add (b : Block) (line : Line) (depth : Nat) : Block :=
  { b with lines := b.lines ++ [line], depth := depth }

def capture? (b : Block) (line : Line) : Option Block :=
  match bracket line, b.depth with
  | .closing, 0 => none
  | .closing, depth + 1 => some (b.add line depth)
  | .opening, depth => some (b.add line (depth + 1))
  | .neither, depth => some (b.add line depth)

end Block

/-- A statement goes on as long as it opens more braces than it closes. -/
def goesOn (lines : List Line) : Bool := 0 < Statement.openBraces lines

def joined (lines : List Line) : List Char := ['\n'].intercalate lines

end CircuitConsole.Console
