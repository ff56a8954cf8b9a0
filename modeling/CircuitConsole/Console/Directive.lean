import CircuitConsole.Console.Command
import CircuitConsole.Text.Blank

/-!
Directive lines. A line whose first word begins with a colon is cut into phrases, each from one
marked word to the next, and every phrase is read as a command. A line is read as a whole: one bad
phrase spoils it.
-/

namespace CircuitConsole.Console

open Text

structure Phrase where
  word : List Char
  arguments : List (List Char)
  deriving DecidableEq, Repr

inductive Kind where
  | count
  | name
  deriving DecidableEq, Repr

def Kind.word : Kind → String
  | .count => "count"
  | .name => "name"

inductive DirectiveFault where
  | unmarked
  | unknown (word : List Char)
  | needless (word : List Char)
  | noPath (word : List Char)
  | notOne (word : List Char) (kind : Kind) (actual : Nat)
  | badCount (text : List Char)
  | negativeCount (count : Int)
  deriving DecidableEq, Repr

namespace DirectiveFault

def label : DirectiveFault → String
  | .unmarked | .unknown _ => "UnknownCommand"
  | _ => "BadArgument"

def message : DirectiveFault → String
  | .unmarked => "Directive lines must start with ':'"
  | .unknown word => s!"Unknown command ':{String.ofList word}'"
  | .needless word => s!":{String.ofList word} takes no arguments"
  | .noPath word => s!":{String.ofList word} requires a file path"
  | .notOne word kind actual =>
    s!":{String.ofList word} takes exactly one {kind.word}, got {actual}"
  | .badCount text => s!"Loop count must be an integer, got '{String.ofList text}'"
  | .negativeCount count => s!"Loop count must be non-negative, got {count}"

end DirectiveFault

def isDirective (line : List Char) : Bool := (trimLeft line).head? = some ':'

/-- The words before the first marked one, and the phrases from there on. -/
def phrasesAfter : List (List Char) → List (List Char) × List Phrase
  | [] => ([], [])
  | word :: words =>
    let (arguments, rest) := phrasesAfter words
    match word with
    | ':' :: name => ([], ⟨name, arguments⟩ :: rest)
    | _ => (word :: arguments, rest)

def phrases (line : List Char) : Except DirectiveFault (List Phrase) :=
  match phrasesAfter (words line) with
  | ([], phrases) => .ok phrases
  | _ => .error .unmarked

namespace Phrase

def bare (p : Phrase) (c : Command) : Except DirectiveFault Command :=
  if p.arguments = [] then .ok c else .error (.needless p.word)

def named (p : Phrase) (f : List Char → Command) : Except DirectiveFault Command :=
  match p.arguments with
  | [name] => .ok (f name)
  | arguments => .error (.notOne p.word .name arguments.length)

def counted (p : Phrase) (f : Count → Command) : Except DirectiveFault Command :=
  match p.arguments with
  | [text] =>
    match h : readInt? text with
    | some (.ofNat n) => .ok (f ⟨text, n, h⟩)
    | some (.negSucc n) => .error (.negativeCount (.negSucc n))
    | none => .error (.badCount text)
  | arguments => .error (.notOne p.word .count arguments.length)

/-- A path may have spaces, every run of them read as one. -/
def located (p : Phrase) (f : List Char → Command) : Except DirectiveFault Command :=
  if p.arguments = [] then .error (.noPath p.word)
  else .ok (f ([' '].intercalate p.arguments))

def command (p : Phrase) : Except DirectiveFault Command :=
  match String.ofList p.word with
  | "loop" => p.counted .loop
  | "end" => p.bare .close
  | "tags" => p.named .tag
  | "goto" => p.named .goto
  | "untag" => p.named .untag
  | "list" => p.bare .list
  | "class" => p.bare (.display .classical)
  | "polar" => p.bare (.display .polar)
  | "prob" => p.bare (.display .probability)
  | "ops" => p.bare (.display .queue)
  | "names" => p.bare (.display .names)
  | "go" => p.bare .go
  | "reset" => p.bare .reset
  | "load" => p.located .load
  | "help" => p.bare .help
  | "quit" => p.bare .quit
  | _ => .error (.unknown p.word)

end Phrase

def commands (line : List Char) : Except DirectiveFault (List Command) := do
  (← phrases line).mapM Phrase.command

end CircuitConsole.Console
