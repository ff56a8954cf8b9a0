/-!
Blank characters and what is done with them: trimming a text at its ends, cutting it into
its blank-free words, and writing the words back with single spaces. Texts are lists of
characters. The class is that of the Unicode standard together with the four separators
that follow the escape character.
-/

namespace CircuitConsole.Text

/-- The blanks: space, the line and page breaks, the information separators, and the
Unicode spaces. A zero-width space is no blank. -/
def isBlank (c : Char) : Bool :=
  let n := c.toNat
  (9 ≤ n && n ≤ 13) || (28 ≤ n && n ≤ 32) || n == 0x85 || n == 0xA0 || n == 0x1680 ||
    (0x2000 ≤ n && n ≤ 0x200A) || n == 0x2028 || n == 0x2029 || n == 0x202F || n == 0x205F ||
    n == 0x3000

def trimLeft (s : List Char) : List Char := s.dropWhile isBlank

def trimRight (s : List Char) : List Char := (s.reverse.dropWhile isBlank).reverse

def trim (s : List Char) : List Char := trimRight (trimLeft s)

def words : List Char → List (List Char)
  | [] => []
  | c :: rest =>
    if isBlank c then words rest
    else match rest with
      | [] => [[c]]
      | d :: _ =>
        if isBlank d then [c] :: words rest
        else match words rest with
          | [] => [[c]]
          | w :: ws => (c :: w) :: ws

def collapse (s : List Char) : List Char := [' '].intercalate (words s)

def afterPrefix? (lead s : List Char) : Option (List Char) :=
  match lead, s with
  | [], s => some s
  | _ :: _, [] => none
  | a :: lead, c :: s => if a = c then afterPrefix? lead s else none

def afterBlanks? : List Char → Option (List Char)
  | [] => none
  | c :: s => if isBlank c then some (trimLeft s) else none

def splitAt (separator : Char) : List Char → List (List Char)
  | [] => [[]]
  | c :: rest =>
    if c = separator then [] :: splitAt separator rest
    else match splitAt separator rest with
      | [] => [[c]]
      | piece :: pieces => (c :: piece) :: pieces

end CircuitConsole.Text
