/-!
Lines of a text. All line ends are first made into line feeds; a text is then cut at every line
boundary of the Unicode standard, and a boundary at the very end opens no further line.
-/

namespace CircuitConsole.Text

def unifyLineEnds : List Char → List Char
  | [] => []
  | '\r' :: '\n' :: rest => '\n' :: unifyLineEnds rest
  | '\r' :: rest => '\n' :: unifyLineEnds rest
  | c :: rest => c :: unifyLineEnds rest

def isLineBreak (c : Char) : Bool :=
  let n := c.toNat
  (10 ≤ n && n ≤ 13) || (28 ≤ n && n ≤ 30) || n == 0x85 || n == 0x2028 || n == 0x2029

/-- The lines of a text without their ends; a line not yet ended is the first argument. -/
def linesFrom : List Char → List Char → List (List Char)
  | [], [] => []
  | pending, [] => [pending.reverse]
  | pending, c :: rest =>
    if isLineBreak c then pending.reverse :: linesFrom [] rest
    else linesFrom (c :: pending) rest

def lines (s : List Char) : List (List Char) := linesFrom [] s

end CircuitConsole.Text
