import CircuitConsole.Text.DecompositionTable

/-!
The composed compatibility form of a name. Every character is decomposed as far as it goes,
the combining marks after each letter are put in order of their class, and letters and marks
that compose are composed again. Two spellings of a name that the standard holds for the same
have one form.
-/

namespace CircuitConsole.Text

def runOf? (runs : List (Nat × Nat × Nat)) (n : Nat) : Option (Nat × Nat) :=
  (runs.find? fun r => r.1 ≤ n && n ≤ r.2.1).map fun r => (r.1, r.2.2)

def decomposeOnce (n : Nat) : List Nat :=
  if 0xAC00 ≤ n && n < 0xD7A4 then
    let k := n - 0xAC00
    let tail := if k % 28 = 0 then [] else [0x11A7 + k % 28]
    [0x1100 + k / 588, 0x1161 + k % 588 / 28] ++ tail
  else match compositionPairs.find? fun p => p.2.2 == n with
  | some (a, b, _) => [a, b]
  | none =>
    match runOf? decompositionRuns n with
    | some (first, image) => [image + (n - first)]
    | none =>
      match decompositionLists.find? fun d => d.1 == n with
      | some (_, image) => image
      | none => [n]

def decompose : Nat → Nat → List Nat
  | 0, n => [n]
  | depth + 1, n =>
    let step := decomposeOnce n
    if step = [n] then step else step.flatMap (decompose depth)

/-- No decomposition of the standard is deeper. -/
def decompositionDepth : Nat := 8

def combiningClass (n : Nat) : Nat := ((runOf? combiningClasses n).map (·.2)).getD 0

/-- Puts a character behind those already read, which stand in reverse, and before the marks of
a higher class. -/
def insertMark (n : Nat) : List Nat → List Nat
  | [] => [n]
  | d :: ds =>
    if combiningClass n ≠ 0 ∧ combiningClass n < combiningClass d then d :: insertMark n ds
    else n :: d :: ds

def composePair? (a b : Nat) : Option Nat :=
  if 0x1100 ≤ a && a < 0x1113 && 0x1161 ≤ b && b < 0x1176 then
    some (0xAC00 + ((a - 0x1100) * 21 + (b - 0x1161)) * 28)
  else if 0xAC00 ≤ a && a < 0xD7A4 && (a - 0xAC00) % 28 == 0 && 0x11A8 ≤ b && b < 0x11C3 then
    some (a + (b - 0x11A7))
  else (compositionPairs.find? fun p => p.1 == a && p.2.1 == b).map (·.2.2)

/-- Composes from left to right. The letter that may still compose comes with the marks after
it in reverse; a mark is blocked from its letter by one of no lower class between them. -/
def composeFrom (letter : Nat) (marks : List Nat) : List Nat → List Nat
  | [] => letter :: marks.reverse
  | c :: rest =>
    let free := match marks with
      | [] => true
      | m :: _ => combiningClass m < combiningClass c
    match if free then composePair? letter c else none with
    | some composite => composeFrom composite marks rest
    | none =>
      if combiningClass c = 0 then letter :: marks.reverse ++ composeFrom c [] rest
      else composeFrom letter (c :: marks) rest

def compose : List Nat → List Nat
  | [] => []
  | c :: rest => if combiningClass c = 0 then composeFrom c [] rest else c :: compose rest

def normalForm (s : List Char) : List Char :=
  if s.all fun c => c.toNat < 128 then s
  else
    let decomposed := s.flatMap fun c => decompose decompositionDepth c.toNat
    let ordered := (decomposed.foldl (fun acc n => insertMark n acc) []).reverse
    (compose ordered).map Char.ofNat

end CircuitConsole.Text
