import CircuitConsole.Text.Blank
import CircuitConsole.Text.Character
import CircuitConsole.Text.CharacterNames.AToB
import CircuitConsole.Text.CharacterNames.C
import CircuitConsole.Text.CharacterNames.DToJ
import CircuitConsole.Text.CharacterNames.KToL
import CircuitConsole.Text.CharacterNames.MToR
import CircuitConsole.Text.CharacterNames.SToZ

/-!
The names of characters. Most are listed, in any case of letters; Hangul syllables and unified
ideographs are named by rules. A listing gives its names in order, and each begins with the words
it shares with the name before it: a small letter tells how many these are, `a` for none, and the
rest of the name follows. A word ends with a blank or a hyphen. Listings are cut into lines.
-/

namespace CircuitConsole.Text

def listing (initial : Char) : List String :=
  match initial with
  | 'A' => namesInA
  | 'B' => namesInB
  | 'C' => namesInC
  | 'D' => namesInD
  | 'E' => namesInE
  | 'F' => namesInF
  | 'G' => namesInG
  | 'H' => namesInH
  | 'I' => namesInI
  | 'J' => namesInJ
  | 'K' => namesInK
  | 'L' => namesInL
  | 'M' => namesInM
  | 'N' => namesInN
  | 'O' => namesInO
  | 'P' => namesInP
  | 'Q' => namesInQ
  | 'R' => namesInR
  | 'S' => namesInS
  | 'T' => namesInT
  | 'U' => namesInU
  | 'V' => namesInV
  | 'W' => namesInW
  | 'X' => namesInX
  | 'Y' => namesInY
  | 'Z' => namesInZ
  | _ => []

def entries (s : List Char) : List (Char × List Char) :=
  (s.foldr (fun c (follows, found) =>
    if c.isLower then ([], (c, follows) :: found) else (c :: follows, found)) ([], [])).2

def leadingWords : Nat → List Char → List Char
  | 0, _ => []
  | _, [] => []
  | n + 1, c :: rest => c :: leadingWords (if c = ' ' || c = '-' then n else n + 1) rest

def namesAfter (name : List Char) : List (Char × List Char) → List (List Char)
  | [] => []
  | (mark, follows) :: rest =>
    let next := leadingWords (mark.toNat - 'a'.toNat) name ++ follows
    next :: namesAfter next rest

def isListed (name : List Char) : Bool :=
  (namesAfter [] (entries ((listing (name.headD ' ')).flatMap String.toList))).contains name

/-- The romanised letters of Hangul at the beginning, in the middle and at the end of a syllable;
the first and the last place may be empty. -/
def hangulInitials : List String := [
  "G", "GG", "N", "D", "DD", "R", "M", "B", "BB", "S", "SS", "", "J", "JJ", "C", "K", "T", "P",
  "H"]

def hangulVowels : List String := [
  "A", "AE", "YA", "YAE", "EO", "E", "YEO", "YE", "O", "WA", "WAE", "OE", "YO", "U", "WEO", "WE",
  "WI", "YU", "EU", "YI", "I"]

def hangulFinals : List String := [
  "", "G", "GG", "GS", "N", "NJ", "NH", "D", "L", "LG", "LM", "LB", "LS", "LT", "LP", "LH", "M",
  "B", "BS", "S", "SS", "NG", "J", "C", "K", "T", "P", "H"]

def isHangulSyllable (s : List Char) : Bool :=
  hangulInitials.any fun initial => hangulVowels.any fun vowel =>
    match afterPrefix? (initial ++ vowel).toList s with
    | some last => hangulFinals.contains (String.ofList last)
    | none => false

def ideographRanges : List (Nat × Nat) := [
  (0x3400, 0x4DBF), (0x4E00, 0x9FFF), (0x20000, 0x2A6DF), (0x2A700, 0x2B738),
  (0x2B740, 0x2B81D), (0x2B820, 0x2CEA1), (0x2CEB0, 0x2EBE0), (0x30000, 0x3134A)]

def capitalHexValue? (c : Char) : Option Nat :=
  if isAsciiDigit c then some (c.toNat - 48)
  else if 'A' ≤ c && c ≤ 'F' then some (c.toNat - 55)
  else none

def isIdeographNumber (s : List Char) : Bool :=
  match s.mapM capitalHexValue? with
  | some digits =>
    (digits.length = 4 || digits.length = 5) &&
      inRanges ideographRanges (digits.foldl (fun n d => 16 * n + d) 0)
  | none => false

def isCharacterName (s : List Char) : Bool :=
  match afterPrefix? "HANGUL SYLLABLE ".toList s with
  | some syllable => isHangulSyllable syllable
  | none =>
    match afterPrefix? "CJK UNIFIED IDEOGRAPH-".toList s with
    | some number => isIdeographNumber number
    | none => isListed (s.map Char.toUpper)

end CircuitConsole.Text
