import CircuitConsole.Expression.Literal
import CircuitConsole.Text.Lines
import CircuitConsole.Text.NormalForm

/-!
Cutting a parameter expression into tokens. Blanks and comments separate tokens; a line end
counts as a blank inside brackets and after a backslash, and otherwise ends the expression.
Brackets are matched here, two hundred deep at most.
-/

namespace CircuitConsole.Expression

open Text

def bracketLimit : Nat := 200

def symbol? (s : List Char) : Option (Token × List Char) :=
  let start (n : Nat) (symbols : List String) : Option (Token × List Char) :=
    let lead := String.ofList (s.take n)
    if symbols.contains lead then some (.symbol lead, s.drop n) else none
  (start 3 symbols3).or ((start 2 symbols2).or (start 1 symbols1))

/-- A word of name characters: a reserved word, a name in its normal form, or the letters in
front of a text literal. -/
def wordToken? (s : List Char) : Option (Token × List Char) :=
  let letters := s.takeWhile continuesName
  let rest := s.dropWhile continuesName
  let quoted := rest.head? = some '\'' || rest.head? = some '"'
  match if quoted then literalKind? letters else none with
  | some kind => do
    let (content, rest) ← literalContent? rest
    some (← literalToken? kind content, rest)
  | none =>
    let valid := match letters with
      | [] => false
      | c :: cs => isNameStart c && cs.all isNameContinue
    if !valid then none
    else
      let word := String.ofList letters
      if reservedWords.contains word then some (.word word, rest)
      else some (.name (String.ofList (normalForm letters)), rest)

def token? (s : List Char) : Option (Token × List Char) :=
  match s with
  | [] => none
  | c :: rest =>
    if isAsciiDigit c || (c = '.' && rest.head?.any isAsciiDigit) then numeral? s
    else if continuesName c || c = '\'' || c = '"' then wordToken? s
    else symbol? s

def bracketsAfter? (brackets : List String) (token : Token) : Option (List String) :=
  let opening (closer : String) : Option (List String) :=
    if brackets.length < bracketLimit then some (closer :: brackets) else none
  let closing (s : String) : Option (List String) :=
    match brackets with
    | [] => none
    | closer :: outer => if s = closer then some outer else none
  match token with
  | .symbol "(" => opening ")"
  | .symbol "[" => opening "]"
  | .symbol "\x7b" => opening "\x7d"
  | .symbol ")" => closing ")"
  | .symbol "]" => closing "]"
  | .symbol "\x7d" => closing "\x7d"
  | _ => some brackets

def isSpace (c : Char) : Bool := c = ' ' || c = '\t' || c = '\x0c'

def onlyBlankLines : Bool → List Char → Bool
  | _, [] => true
  | _, '\n' :: rest => onlyBlankLines false rest
  | true, _ :: rest => onlyBlankLines true rest
  | false, '#' :: rest => onlyBlankLines true rest
  | false, '\\' :: '\n' :: c :: rest => onlyBlankLines false (c :: rest)
  | false, c :: rest => isSpace c && onlyBlankLines false rest

/-- Leaves out the blank lines and comments before an expression, which itself begins at the
left margin. The flags tell whether the reader stands there, and whether in a comment. -/
def fromMargin : Bool → Bool → List Char → Option (List Char)
  | _, _, [] => some []
  | _, _, '\n' :: rest => fromMargin true false rest
  | margin, true, _ :: rest => fromMargin margin true rest
  | margin, false, '#' :: rest => fromMargin margin true rest
  | margin, false, '\\' :: '\n' :: c :: rest => fromMargin margin false (c :: rest)
  | margin, false, c :: rest =>
    if isSpace c then fromMargin (c = '\x0c') false rest
    else if margin then some (c :: rest)
    else none

/-- The tokens of a text, with the closing brackets still due. Where no token can be read the row
ends with an unreadable one. The number bounds the steps; the length of the text is enough. -/
def tokensFrom : Nat → List String → List Char → List Token
  | 0, _, _ => [.unreadable]
  | _ + 1, brackets, [] => if brackets.isEmpty then [] else [.unreadable]
  | steps + 1, brackets, c :: rest =>
    if isSpace c then tokensFrom steps brackets rest
    else if c = '#' then tokensFrom steps brackets (rest.dropWhile (· ≠ '\n'))
    else if c = '\n' then
      if !brackets.isEmpty then tokensFrom steps brackets rest
      else if onlyBlankLines false rest then []
      else [.unreadable]
    else if c = '\\' then
      match rest with
      | '\n' :: d :: rest' => tokensFrom steps brackets (d :: rest')
      | _ => [.unreadable]
    else match token? (c :: rest) with
    | none => [.unreadable]
    | some (token, rest) =>
      match bracketsAfter? brackets token with
      | none => [.unreadable]
      | some brackets => token :: tokensFrom steps brackets rest

def tokens (s : List Char) : List Token :=
  match fromMargin true false (unifyLineEnds s) with
  | some s => tokensFrom (s.length + 1) [] s
  | none => [.unreadable]

end CircuitConsole.Expression
