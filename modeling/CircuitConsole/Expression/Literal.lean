import CircuitConsole.Expression.Numeral
import CircuitConsole.Text.CharacterName

/-!
Text literals of parameter expressions. They never have a numeric value; what is decided here is
whether one is well formed, where it ends, and which expressions a formatted one holds.
-/

namespace CircuitConsole.Expression

open Text

structure LiteralKind where
  bytes : Bool
  raw : Bool
  formatted : Bool
  deriving DecidableEq, Repr

def literalKind? (letters : List Char) : Option LiteralKind :=
  match letters.map Char.toLower with
  | [] => some ⟨false, false, false⟩
  | ['u'] => some ⟨false, false, false⟩
  | ['r'] => some ⟨false, true, false⟩
  | ['b'] => some ⟨true, false, false⟩
  | ['f'] => some ⟨false, false, true⟩
  | ['b', 'r'] => some ⟨true, true, false⟩
  | ['r', 'b'] => some ⟨true, true, false⟩
  | ['f', 'r'] => some ⟨false, true, true⟩
  | ['r', 'f'] => some ⟨false, true, true⟩
  | _ => none

def shortContent (quote : Char) : List Char → Option (List Char × List Char)
  | [] => none
  | '\\' :: c :: rest => (shortContent quote rest).map fun (s, r) => ('\\' :: c :: s, r)
  | c :: rest =>
    if c = quote then some ([], rest)
    else if c = '\n' || c = '\\' then none
    else (shortContent quote rest).map fun (s, r) => (c :: s, r)

def longContent (quote : Char) : List Char → Option (List Char × List Char)
  | [] => none
  | '\\' :: c :: rest => (longContent quote rest).map fun (s, r) => ('\\' :: c :: s, r)
  | c :: rest =>
    match rest with
    | d :: e :: rest' =>
      if c = quote && d = quote && e = quote then some ([], rest')
      else (longContent quote rest).map fun (s, r) => (c :: s, r)
    | _ => none

def literalContent? : List Char → Option (List Char × List Char)
  | [] => none
  | [_] => none
  | quote :: c :: rest =>
    if c = quote then
      match rest with
      | d :: rest' => if d = quote then longContent quote rest' else some ([], rest)
      | [] => some ([], [])
    else shortContent quote (c :: rest)

def startsWithHex (count : Nat) (s : List Char) : Bool :=
  (s.take count).length = count && (s.take count).all isHexDigit

def startsWithName : List Char → Bool
  | '\x7b' :: rest =>
    rest.contains '\x7d' && isCharacterName (rest.takeWhile (· ≠ '\x7d'))
  | _ => false

/-- Whether every escape is complete: numbered characters have all their digits and exist, named
ones have the name of a character. -/
def escapesComplete (bytes : Bool) : List Char → Bool
  | [] => true
  | '\\' :: 'x' :: rest => startsWithHex 2 rest && escapesComplete bytes rest
  | '\\' :: 'u' :: rest => (bytes || startsWithHex 4 rest) && escapesComplete bytes rest
  | '\\' :: 'U' :: rest =>
    (bytes || (startsWithHex 8 rest &&
      (rest.take 8).foldl (fun n c => 16 * n + hexValue c) 0 < 0x110000)) &&
      escapesComplete bytes rest
  | '\\' :: 'N' :: rest =>
    (bytes || startsWithName rest) && escapesComplete bytes rest
  | '\\' :: _ :: rest => escapesComplete bytes rest
  | _ :: rest => escapesComplete bytes rest

/-- How far the scan of a replacement field has come: the brackets open in it, the quote open in it
with whether it is a triple one, and how many characters belong to what was read before. -/
structure FieldState where
  closers : List Char := []
  quote : Option (Char × Bool) := none
  skip : Nat := 0

def closerOf? (c : Char) : Option Char :=
  if c = '(' then some ')'
  else if c = '[' then some ']'
  else if c = '\x7b' then some '\x7d'
  else none

def isCloser (c : Char) : Bool := c = ')' || c = ']' || c = '\x7d'

/-- The scan of a field after one more character: nothing if the field ends before it, and no
state at all if the field is ill formed. -/
def FieldState.next (state : FieldState) (c : Char) (rest : List Char) :
    Option (Option FieldState) :=
  let tripled := rest.head? = some c && (rest.drop 1).head? = some c
  if 0 < state.skip then some (some { state with skip := state.skip - 1 })
  else if c = '\\' then none
  else match state.quote with
  | some (quote, long) =>
    if c = quote && (!long || tripled) then
      some (some { state with quote := none, skip := if long then 2 else 0 })
    else some (some state)
  | none =>
    if c = '\'' || c = '"' then
      some (some { state with quote := some (c, tripled), skip := if tripled then 2 else 0 })
    else if c = '#' then none
    else match closerOf? c, state.closers with
    | some closer, closers => some (some { state with closers := closer :: closers })
    | none, closer :: outer =>
      if !isCloser c then some (some state)
      else if c = closer then some (some { state with closers := outer })
      else none
    | none, [] =>
      if c = '\x7d' || c = ':' then some none
      else if isCloser c then none
      else if (c = '!' || c = '=' || c = '<' || c = '>') && rest.head? = some '=' then
        some (some { state with skip := 1 })
      else if c = '!' || c = '=' then some none
      else some (some state)

def fieldExpression (state : FieldState) : List Char → Option (List Char × List Char)
  | [] => none
  | c :: rest =>
    match state.next c rest with
    | none => none
    | some none => some ([], c :: rest)
    | some (some state) => (fieldExpression state rest).map fun (s, r) => (c :: s, r)

def isFieldBlank (c : Char) : Bool :=
  c = ' ' || c = '\t' || c = '\n' || c = '\x0c' || c = '\r'

def isBlankBehindEquals (c : Char) : Bool := isFieldBlank c || c = '\x0b'

def afterConversion? (s : List Char) : Option (List Char) :=
  let s := match s with
    | '=' :: rest => rest.dropWhile isBlankBehindEquals
    | _ => s
  match s with
  | ['!'] => none
  | '!' :: c :: rest => if c = 's' || c = 'r' || c = 'a' then some rest else none
  | _ => some s

/-- The expressions of a formatted text, and what follows where it is the format of a field
itself: at most two fields are open at once, `depth` of them around this text. The first number
bounds the steps; the length of the text is enough. -/
def formattedFields (raw : Bool) : Nat → Nat → List Char →
    Option (List (List Char) × List Char)
  | 0, _, _ => none
  | _ + 1, depth, [] => if depth = 0 then some ([], []) else none
  | steps + 1, depth, c :: rest =>
    if c = '\x7d' then
      if depth ≠ 0 then some ([], c :: rest)
      else if rest.head? = some '\x7d' then formattedFields raw steps depth (rest.drop 1)
      else none
    else if c = '\\' && !raw then
      match rest with
      | 'N' :: '\x7b' :: named =>
        formattedFields raw steps depth ((named.dropWhile (· ≠ '\x7d')).drop 1)
      | '\x7b' :: _ | '\x7d' :: _ => formattedFields raw steps depth rest
      | _ => formattedFields raw steps depth (rest.drop 1)
    else if c = '\x7b' then
      if rest.head? = some '\x7b' && depth = 0 then formattedFields raw steps depth (rest.drop 1)
      else if 2 ≤ depth then none
      else do
        let (field, rest) ← fieldExpression {} rest
        if field.all isFieldBlank then none
        else
          match ← afterConversion? rest with
          | ':' :: rest =>
            let (inner, rest) ← formattedFields raw steps (depth + 1) rest
            let (more, rest) ← formattedFields raw steps depth (rest.drop 1)
            some (field :: inner ++ more, rest)
          | '\x7d' :: rest =>
            let (more, rest) ← formattedFields raw steps depth rest
            some (field :: more, rest)
          | _ => none
    else formattedFields raw steps depth rest

def literalToken? (kind : LiteralKind) (content : List Char) : Option Token :=
  if kind.bytes && content.any (128 ≤ ·.toNat) then none
  else if !kind.raw && !escapesComplete kind.bytes content then none
  else if kind.formatted then
    (formattedFields kind.raw (content.length + 1) 0 content).map fun (fields, _) =>
      .text false fields
  else some (.text kind.bytes [])

end CircuitConsole.Expression
