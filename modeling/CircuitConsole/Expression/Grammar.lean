import CircuitConsole.Expression.Token
import CircuitConsole.Expression.Tree

/-!
The grammar of parameter expressions. Operators have levels from 1 to 12, and an operand of one
level holds no operator of a lower one; level 0 adds the conditional and the function literal.
Reading goes from left to right on a stack of limited size, and is given up where the stack is full,
whatever follows. All functions take a bound on the depth of the calls, which the number of tokens
provides, and then the room that is left on the stack.
-/

namespace CircuitConsole.Expression

inductive Refusal where
  | malformed
  | tooDeep
  deriving DecidableEq, Repr

def refuse {α : Type} : Except Refusal α := .error .malformed

/-- The size of the stack, in signs that can stand one before the other. -/
def stackSize : Nat := 5975

/-- What a power sign or a function literal takes of the stack, then a call or a subscript, then
any other bracket. -/
def powerCost : Nat := 2

def callCost : Nat := 24

def bracketCost : Nat := 28

def enter (cost room : Nat) : Except Refusal Nat :=
  if cost ≤ room then .ok (room - cost) else .error .tooDeep

/-- A binary operator at the start of the tokens: its level, the level of its right operand, its
meaning if it is arithmetic, and the tokens after it. -/
structure Infix where
  level : Nat
  rightLevel : Nat
  operator? : Option Operator
  rest : List Token

def infix? : List Token → Option Infix
  | .word "or" :: rest => some ⟨1, 2, none, rest⟩
  | .word "and" :: rest => some ⟨2, 3, none, rest⟩
  | .word "not" :: .word "in" :: rest => some ⟨4, 5, none, rest⟩
  | .word "is" :: .word "not" :: rest => some ⟨4, 5, none, rest⟩
  | .word "in" :: rest => some ⟨4, 5, none, rest⟩
  | .word "is" :: rest => some ⟨4, 5, none, rest⟩
  | .symbol s :: rest =>
    if s = "+" then some ⟨9, 10, some .add, rest⟩
    else if s = "-" then some ⟨9, 10, some .subtract, rest⟩
    else if s = "*" then some ⟨10, 11, some .multiply, rest⟩
    else if s = "/" then some ⟨10, 11, some .divide, rest⟩
    else if s = "**" then some ⟨12, 11, some .power, rest⟩
    else if ["<", ">", "==", ">=", "<=", "!="].contains s then some ⟨4, 5, none, rest⟩
    else if s = "|" then some ⟨5, 6, none, rest⟩
    else if s = "&" then some ⟨7, 8, none, rest⟩
    else if s = "<<" || s = ">>" then some ⟨8, 9, none, rest⟩
    else if s = "//" || s = "%" || s = "@" then some ⟨10, 11, none, rest⟩
    else none
  | _ => none

structure Sign where
  level : Nat
  operandLevel : Nat
  apply : Tree → Tree
  rest : List Token

def sign? : List Token → Option Sign
  | .symbol "-" :: rest => some ⟨11, 11, .sign true, rest⟩
  | .symbol "+" :: rest => some ⟨11, 11, .sign false, rest⟩
  | .symbol "~" :: rest => some ⟨11, 11, fun t => .around [t], rest⟩
  | .word "not" :: rest => some ⟨3, 3, fun t => .around [t], rest⟩
  | .word "await" :: rest => some ⟨13, 14, fun t => .around [t], rest⟩
  | _ => none

/-- Whether an operator joins any number of operands on one level: so do `and`, `or` and the
comparisons. -/
def Infix.isChain (i : Infix) : Bool := i.level ≤ 4

def Infix.cost (i : Infix) : Nat := if i.operator? = some .power then powerCost else 0

/-- Joins operands. A chain goes on if the left operand is one of the same level. -/
def Infix.apply (i : Infix) (chain : Nat) (left right : Tree) : Tree :=
  match i.operator? with
  | some op => .binary op left right
  | none =>
    if i.isChain && chain = i.level then left.beside right else .around [left, right]

def symbolAfter? (s : String) : List Token → Option (List Token)
  | .symbol t :: rest => if t = s then some rest else none
  | _ => none

def expect (s : String) (tokens : List Token) : Except Refusal (List Token) :=
  match symbolAfter? s tokens with
  | some rest => .ok rest
  | none => refuse

def wordAfter? (s : String) : List Token → Option (List Token)
  | .word t :: rest => if t = s then some rest else none
  | _ => none

def expectWord (s : String) (tokens : List Token) : Except Refusal (List Token) :=
  match wordAfter? s tokens with
  | some rest => .ok rest
  | none => refuse

def startsLoop : List Token → Bool
  | .word "for" :: _ => true
  | .word "async" :: .word "for" :: _ => true
  | _ => false

/-- The text literals that follow one: they are joined, and never of both kinds. -/
def moreTexts (bytes : Bool) : List Token → Except Refusal (List (List Char) × List Token)
  | .text b fields :: rest =>
    if b = bytes then (moreTexts bytes rest).map fun (more, r) => (fields ++ more, r) else refuse
  | rest => .ok ([], rest)

structure Argument where
  plain : Bool
  value : Tree

/-- A call of a name with one plain argument may have a value, and no other call has. -/
def callTree (callee : Tree) (arguments : List Argument) : Tree :=
  match callee, arguments with
  | .name f, [⟨true, t⟩] => .call f t
  | _, _ => .around (callee :: arguments.map (·.value))

structure ParameterState where
  any : Bool := false
  default : Bool := false
  slash : Bool := false
  star : Bool := false
  bareStar : Bool := false
  closed : Bool := false

def afterParameter (tokens : List Token) : Except Refusal (List Token) :=
  match symbolAfter? "," tokens with
  | some rest => .ok rest
  | none => (expect ":" tokens).map fun _ => tokens

section

/- The reading of the expressions inside formatted texts. -/
variable (field : List Char → Except Refusal Tree)

mutual

/-- An operand of a level, with all operators of that level and above. -/
def operand : Nat → Nat → Nat → List Token → Except Refusal (Tree × List Token)
  | 0, _, _, _ => refuse
  | n + 1, room, level, tokens => do
    let (left, rest) ← leading n room level tokens
    operators n room level 0 left rest

def leading : Nat → Nat → Nat → List Token → Except Refusal (Tree × List Token)
  | 0, _, _, _ => refuse
  | n + 1, room, level, tokens =>
    match sign? tokens, tokens with
    | some sign, _ =>
      if level ≤ sign.level then do
        let room ← enter 1 room
        let (t, rest) ← operand n room sign.operandLevel sign.rest
        .ok (sign.apply t, rest)
      else refuse
    | none, .word "lambda" :: rest =>
      if level = 0 then do
        let room ← enter powerCost room
        let (defaults, rest) ← parameters n room {} rest
        let (body, rest) ← operand n room 0 rest
        .ok (.around (body :: defaults), rest)
      else refuse
    | none, _ => do
      let (t, rest) ← atom n room tokens
      attachments n room t rest

/-- The operators of a level and above that follow an operand. The operand may be a chain of a
level itself, or of none. -/
def operators : Nat → Nat → Nat → Nat → Tree → List Token → Except Refusal (Tree × List Token)
  | 0, _, _, _, _, _ => refuse
  | n + 1, room, level, chain, left, tokens =>
    match infix? tokens, tokens with
    | some i, _ =>
      if level ≤ i.level then do
        let rightRoom ← enter i.cost room
        let (right, rest) ← operand n rightRoom i.rightLevel i.rest
        operators n room level i.level (i.apply chain left right) rest
      else .ok (left, tokens)
    | none, .word "if" :: rest =>
      if level = 0 then do
        let (condition, rest) ← operand n room 1 rest
        let rest ← expectWord "else" rest
        let room ← enter 1 room
        let (otherwise, rest) ← operand n room 0 rest
        .ok (.around [left, condition, otherwise], rest)
      else .ok (left, tokens)
    | none, _ => .ok (left, tokens)

def attachments : Nat → Nat → Tree → List Token → Except Refusal (Tree × List Token)
  | 0, _, _, _ => refuse
  | n + 1, room, t, tokens =>
    match tokens with
    | .symbol "." :: .name _ :: rest => attachments n room (.place [t]) rest
    | .symbol "(" :: rest => do
      let inside ← enter callCost room
      let (args, rest) ← arguments n inside true 0 rest
      attachments n room (callTree t args) rest
    | .symbol "[" :: rest => do
      let inside ← enter callCost room
      let (parts, rest) ← subscripts n inside rest
      attachments n room (.place (t :: parts)) rest
    | .symbol "." :: _ => refuse
    | _ => .ok (t, tokens)

def atom : Nat → Nat → List Token → Except Refusal (Tree × List Token)
  | 0, _, _ => refuse
  | n + 1, room, tokens =>
    match tokens with
    | .natural k :: rest => .ok (.natural k, rest)
    | .decimal d :: rest => .ok (.decimal d, rest)
    | .imaginary :: rest => .ok (.around [], rest)
    | .name s :: rest => .ok (.name s, rest)
    | .word "True" :: rest => .ok (.natural 1, rest)
    | .word "False" :: rest => .ok (.natural 0, rest)
    | .word "None" :: rest => .ok (.around [], rest)
    | .symbol "..." :: rest => .ok (.around [], rest)
    | .text bytes fields :: rest => do
      let (more, rest) ← moreTexts bytes rest
      let parts ← (fields ++ more).mapM field
      .ok (.around (parts.map fun t => .around [t]), rest)
    | .symbol "(" :: rest => do parenthesised n (← enter bracketCost room) rest
    | .symbol "[" :: rest => do
      let ((parts, bindable), rest) ← display n (← enter bracketCost room) "]" rest
      .ok (if bindable then .place parts else .around parts, rest)
    | .symbol "\x7b" :: rest => do braced n (← enter bracketCost room) rest
    | _ => refuse

def named : Nat → Nat → List Token → Except Refusal (Tree × List Token)
  | 0, _, _ => refuse
  | n + 1, room, .name s :: .symbol ":=" :: rest => do
    let (t, rest) ← operand n room 0 rest
    .ok (.around [.name s, t], rest)
  | n + 1, room, tokens => operand n room 0 tokens

def element : Nat → Nat → List Token → Except Refusal ((Bool × Tree) × List Token)
  | 0, _, _ => refuse
  | n + 1, room, .symbol "*" :: rest => do
    let (t, rest) ← operand n room 5 rest
    .ok ((true, if t.bindable then .place [t] else .around [t]), rest)
  | n + 1, room, tokens => do
    let (t, rest) ← named n room tokens
    .ok ((false, t), rest)

def moreElements : Nat → Nat → String → List Token → Except Refusal (List Tree × List Token)
  | 0, _, _, _ => refuse
  | n + 1, room, closer, tokens =>
    match symbolAfter? closer tokens with
    | some rest => .ok ([], rest)
    | none => do
      let ((_, t), rest) ← element n room tokens
      match symbolAfter? "," rest with
      | some rest => do
        let (more, rest) ← moreElements n room closer rest
        .ok (t :: more, rest)
      | none => do
        let rest ← expect closer rest
        .ok ([t], rest)

def display : Nat → Nat → String → List Token → Except Refusal ((List Tree × Bool) × List Token)
  | 0, _, _, _ => refuse
  | n + 1, room, closer, tokens =>
    match symbolAfter? closer tokens with
    | some rest => .ok (([], true), rest)
    | none => do
      let ((starred, t), rest) ← element n room tokens
      afterElement n room closer starred t rest

def afterElement : Nat → Nat → String → Bool → Tree → List Token →
    Except Refusal ((List Tree × Bool) × List Token)
  | 0, _, _, _, _, _ => refuse
  | n + 1, room, closer, starred, t, tokens =>
    if startsLoop tokens then
      if starred then refuse
      else do
        let (parts, rest) ← loops n room tokens
        let rest ← expect closer rest
        .ok ((t :: parts, false), rest)
    else match symbolAfter? "," tokens with
    | some rest => do
      let (more, rest) ← moreElements n room closer rest
      .ok ((t :: more, (t :: more).all (·.bindable)), rest)
    | none => do
      let rest ← expect closer tokens
      .ok (([t], t.bindable), rest)

/-- What stands between parentheses: one expression, which is then the value, a tuple, a
comprehension, or a `yield`. -/
def parenthesised : Nat → Nat → List Token → Except Refusal (Tree × List Token)
  | 0, _, _ => refuse
  | n + 1, room, tokens =>
    match tokens with
    | .symbol ")" :: rest => .ok (.place [], rest)
    | .word "yield" :: .word "from" :: rest => do
      let (t, rest) ← operand n room 0 rest
      let rest ← expect ")" rest
      .ok (.around [t], rest)
    | .word "yield" :: rest => do
      match symbolAfter? ")" rest with
      | some rest => .ok (.around [], rest)
      | none =>
        let (parts, rest) ← yielded n room rest
        .ok (.around parts, rest)
    | _ => do
      let ((starred, t), rest) ← element n room tokens
      match symbolAfter? ")" rest with
      | some rest => if starred then refuse else .ok (t, rest)
      | none =>
        if startsLoop rest then
          if starred then refuse
          else do
            let (parts, rest) ← loops n room rest
            let rest ← expect ")" rest
            .ok (.around (t :: parts), rest)
        else do
          let rest ← expect "," rest
          let (more, rest) ← moreElements n room ")" rest
          let parts := t :: more
          .ok (if parts.all (·.bindable) then .place parts else .around parts, rest)

def yielded : Nat → Nat → List Token → Except Refusal (List Tree × List Token)
  | 0, _, _ => refuse
  | n + 1, room, tokens => do
    let (t, rest) ← match tokens with
      | .symbol "*" :: rest => operand n room 5 rest
      | _ => operand n room 0 tokens
    match symbolAfter? ")" rest with
    | some rest => .ok ([t], rest)
    | none => do
      let rest ← expect "," rest
      match symbolAfter? ")" rest with
      | some rest => .ok ([t], rest)
      | none => do
        let (more, rest) ← yielded n room rest
        .ok (t :: more, rest)

def braced : Nat → Nat → List Token → Except Refusal (Tree × List Token)
  | 0, _, _ => refuse
  | n + 1, room, tokens =>
    match tokens with
    | .symbol "\x7d" :: rest => .ok (.around [], rest)
    | .symbol "**" :: _ => entries n room tokens
    | _ => do
      let ((starred, t), rest) ← element n room tokens
      let namesValue := match tokens with
        | .name _ :: .symbol ":=" :: _ => true
        | _ => false
      match if starred || namesValue then none else symbolAfter? ":" rest with
      | none => do
        let ((parts, _), rest) ← afterElement n room "\x7d" starred t rest
        .ok (.around parts, rest)
      | some rest => do
        let (value, rest) ← operand n room 0 rest
        if startsLoop rest then
          let (parts, rest) ← loops n room rest
          let rest ← expect "\x7d" rest
          .ok (.around (t :: value :: parts), rest)
        else moreEntries n room (.around [t, value]) rest

def entries : Nat → Nat → List Token → Except Refusal (Tree × List Token)
  | 0, _, _ => refuse
  | n + 1, room, tokens =>
    match tokens with
    | .symbol "**" :: rest => do
      let (t, rest) ← operand n room 5 rest
      moreEntries n room t rest
    | _ => do
      let (key, rest) ← operand n room 0 tokens
      let rest ← expect ":" rest
      let (value, rest) ← operand n room 0 rest
      moreEntries n room (.around [key, value]) rest

def moreEntries : Nat → Nat → Tree → List Token → Except Refusal (Tree × List Token)
  | 0, _, _, _ => refuse
  | n + 1, room, t, tokens =>
    match symbolAfter? "\x7d" tokens with
    | some rest => .ok (.around [t], rest)
    | none => do
      let rest ← expect "," tokens
      match symbolAfter? "\x7d" rest with
      | some rest => .ok (.around [t], rest)
      | none => do
        let (more, rest) ← entries n room rest
        .ok (.other false (max (t.depth + 1) more.depth), rest)

/-- The arguments of a call up to the closing parenthesis. Plain ones come before named ones, and
starred ones before doubly starred ones; `phase` tells how far that has gone. A comprehension
without parentheses of its own stands alone. -/
def arguments : Nat → Nat → Bool → Nat → List Token → Except Refusal (List Argument × List Token)
  | 0, _, _, _, _ => refuse
  | n + 1, room, first, phase, tokens =>
    match tokens with
    | .symbol ")" :: rest => .ok ([], rest)
    | .symbol "**" :: rest => do
      let (t, rest) ← operand n room 0 rest
      moreArguments n room 2 ⟨false, .around [t]⟩ rest
    | .symbol "*" :: rest =>
      if phase ≤ 1 then do
        let (t, rest) ← operand n room 0 rest
        moreArguments n room phase ⟨false, .around [t]⟩ rest
      else refuse
    | .name _ :: .symbol "=" :: rest => do
      let (t, rest) ← operand n room 0 rest
      moreArguments n room (max phase 1) ⟨false, .around [t]⟩ rest
    | _ =>
      if phase ≠ 0 then refuse
      else do
        let (t, rest) ← named n room tokens
        if startsLoop rest then
          if first then
            let (parts, rest) ← loops n room rest
            let rest ← expect ")" rest
            .ok ([⟨true, .around (t :: parts)⟩], rest)
          else refuse
        else moreArguments n room 0 ⟨true, t⟩ rest

def moreArguments : Nat → Nat → Nat → Argument → List Token →
    Except Refusal (List Argument × List Token)
  | 0, _, _, _, _ => refuse
  | n + 1, room, phase, argument, tokens =>
    match symbolAfter? ")" tokens with
    | some rest => .ok ([argument], rest)
    | none => do
      let rest ← expect "," tokens
      let (more, rest) ← arguments n room false phase rest
      .ok (argument :: more, rest)

def subscripts : Nat → Nat → List Token → Except Refusal (List Tree × List Token)
  | 0, _, _ => refuse
  | n + 1, room, tokens => do
    let (t, rest) ← subscript n room tokens
    match symbolAfter? "]" rest with
    | some rest => .ok ([t], rest)
    | none => do
      let rest ← expect "," rest
      match symbolAfter? "]" rest with
      | some rest => .ok ([t], rest)
      | none => do
        let (more, rest) ← subscripts n room rest
        .ok (t :: more, rest)

def subscript : Nat → Nat → List Token → Except Refusal (Tree × List Token)
  | 0, _, _ => refuse
  | n + 1, room, tokens =>
    match tokens with
    | .symbol "*" :: rest => do
      let (t, rest) ← operand n room 0 rest
      .ok (.around [t], rest)
    | .name _ :: .symbol ":=" :: _ => named n room tokens
    | .symbol ":" :: rest => do
      let (parts, rest) ← bounds n room 1 rest
      .ok (.around parts, rest)
    | _ => do
      let (t, rest) ← operand n room 0 tokens
      match symbolAfter? ":" rest with
      | none => .ok (t, rest)
      | some rest => do
        let (parts, rest) ← bounds n room 1 rest
        .ok (.around (t :: parts), rest)

def bounds : Nat → Nat → Nat → List Token → Except Refusal (List Tree × List Token)
  | 0, _, _, _ => refuse
  | n + 1, room, colons, tokens => do
    let (parts, rest) ← match tokens with
      | .symbol ":" :: _ => .ok ([], tokens)
      | .symbol "," :: _ => .ok ([], tokens)
      | .symbol "]" :: _ => .ok ([], tokens)
      | _ => (operand n room 0 tokens).map fun (t, r) => ([t], r)
    match colons, symbolAfter? ":" rest with
    | colons + 1, some rest => do
      let (more, rest) ← bounds n room colons rest
      .ok (parts ++ more, rest)
    | _, _ => .ok (parts, rest)

def loops : Nat → Nat → List Token → Except Refusal (List Tree × List Token)
  | 0, _, _ => refuse
  | n + 1, room, tokens => do
    let rest := match tokens with
      | .word "async" :: rest => rest
      | _ => tokens
    let rest ← expectWord "for" rest
    let (bound, rest) ← targets n room rest
    let (source, rest) ← operand n room 1 rest
    let (tests, rest) ← conditions n room rest
    if startsLoop rest then
      let (more, rest) ← loops n room rest
      .ok (bound ++ source :: tests ++ more, rest)
    else .ok (bound ++ source :: tests, rest)

def targets : Nat → Nat → List Token → Except Refusal (List Tree × List Token)
  | 0, _, _ => refuse
  | n + 1, room, tokens => do
    let (t, rest) ← match tokens with
      | .symbol "*" :: rest => operand n room 14 rest
      | _ => operand n room 14 tokens
    if !t.bindable then refuse
    else match wordAfter? "in" rest with
    | some rest => .ok ([t], rest)
    | none => do
      let rest ← expect "," rest
      match wordAfter? "in" rest with
      | some rest => .ok ([t], rest)
      | none => do
        let (more, rest) ← targets n room rest
        .ok (t :: more, rest)

def conditions : Nat → Nat → List Token → Except Refusal (List Tree × List Token)
  | 0, _, _ => refuse
  | n + 1, room, tokens =>
    match wordAfter? "if" tokens with
    | none => .ok ([], tokens)
    | some rest => do
      let (t, rest) ← operand n room 1 rest
      let (more, rest) ← conditions n room rest
      .ok (t :: more, rest)

def parameters : Nat → Nat → ParameterState → List Token → Except Refusal (List Tree × List Token)
  | 0, _, _, _ => refuse
  | n + 1, room, state, tokens =>
    match tokens with
    | .symbol ":" :: rest => if state.bareStar then refuse else .ok ([], rest)
    | _ =>
      if state.closed then refuse
      else match tokens with
      | .symbol "**" :: .name _ :: rest =>
        if state.bareStar then refuse
        else do
          let rest ← afterParameter rest
          parameters n room { state with closed := true } rest
      | .symbol "*" :: .name _ :: rest =>
        if state.star then refuse
        else do
          let rest ← afterParameter rest
          parameters n room { state with star := true } rest
      | .symbol "*" :: .symbol "," :: rest =>
        if state.star then refuse
        else parameters n room { state with star := true, bareStar := true } rest
      | .symbol "/" :: rest =>
        if !state.any || state.slash || state.star then refuse
        else do
          let rest ← afterParameter rest
          parameters n room { state with slash := true } rest
      | .name _ :: .symbol "=" :: rest => do
        let (t, rest) ← operand n room 0 rest
        let rest ← afterParameter rest
        let state := { state with any := true, default := true, bareStar := false }
        let (more, rest) ← parameters n room state rest
        .ok (t :: more, rest)
      | .name _ :: rest =>
        if state.default && !state.star then refuse
        else do
          let rest ← afterParameter rest
          parameters n room { state with any := true, bareStar := false } rest
      | _ => refuse

end

def expressions : Nat → List Token → Except Refusal (List Tree)
  | 0, _ => refuse
  | n + 1, tokens => do
    let (t, rest) ← operand field n stackSize 0 tokens
    match rest with
    | [] => .ok [t]
    | _ => do
      let rest ← expect "," rest
      match rest with
      | [] => .ok [.around [t]]
      | _ => do
        let more ← expressions n rest
        .ok (t :: more)

def treeOf (tokens : List Token) : Except Refusal Tree := do
  match ← expressions field (8 * tokens.length + 8) tokens with
  | [t] => .ok t
  | trees => .ok (.around trees)

end

end CircuitConsole.Expression
