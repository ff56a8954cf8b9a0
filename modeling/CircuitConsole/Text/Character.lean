import CircuitConsole.Text.WordTable
import CircuitConsole.Text.PrintableTable
import CircuitConsole.Text.NameTable

/-!
Classes of characters. ASCII is decided by inspection and the rest by tables of the Unicode
standard: word characters, decimal digits of every script with their values, printable
characters, and the characters of names.
-/

namespace CircuitConsole.Text

def inRanges (ranges : List (Nat × Nat)) (n : Nat) : Bool :=
  ranges.any fun r => r.1 ≤ n && n ≤ r.2

def isAsciiLetter (c : Char) : Bool :=
  ('a' ≤ c && c ≤ 'z') || ('A' ≤ c && c ≤ 'Z')

def isAsciiDigit (c : Char) : Bool := '0' ≤ c && c ≤ '9'

def isWord (c : Char) : Bool :=
  if c.toNat < 128 then isAsciiLetter c || isAsciiDigit c || c == '_'
  else inRanges wordRanges c.toNat

def isPrintable (c : Char) : Bool :=
  if c.toNat < 128 then ' ' ≤ c && c ≤ '~' else inRanges printableRanges c.toNat

def isNameStart (c : Char) : Bool :=
  if c.toNat < 128 then isAsciiLetter c || c == '_' else inRanges nameStartRanges c.toNat

def isNameContinue (c : Char) : Bool :=
  if c.toNat < 128 then isWord c else inRanges nameContinueRanges c.toNat

/-- The code points of the zeros of all decimal digits; nine digits follow each. -/
def digitZeros : List Nat := [
  48, 1632, 1776, 1984, 2406, 2534, 2662, 2790, 2918, 3046, 3174, 3302, 3430, 3558, 3664, 3792,
  3872, 4160, 4240, 6112, 6160, 6470, 6608, 6784, 6800, 6992, 7088, 7232, 7248, 42528, 43216,
  43264, 43472, 43504, 43600, 44016, 65296, 66720, 68912, 69734, 69872, 69942, 70096, 70384,
  70736, 70864, 71248, 71360, 71472, 71904, 72016, 72784, 73040, 73120, 92768, 92864, 93008,
  120782, 120792, 120802, 120812, 120822, 123200, 123632, 125264, 130032]

def digitValue? (c : Char) : Option Nat :=
  (digitZeros.find? fun z => z ≤ c.toNat && c.toNat < z + 10).map (c.toNat - ·)

def isDigit (c : Char) : Bool := (digitValue? c).isSome

/-- Identifiers of circuit texts start with an ASCII letter or the underscore and go on with
word characters. -/
def isIdentifierStart (c : Char) : Bool := isAsciiLetter c || c == '_'

def isIdentifier : List Char → Bool
  | [] => false
  | c :: rest => isIdentifierStart c && rest.all isWord

def identifier? : List Char → Option (List Char × List Char)
  | [] => none
  | c :: rest =>
    if isIdentifierStart c then some (c :: rest.takeWhile isWord, rest.dropWhile isWord)
    else none

end CircuitConsole.Text
