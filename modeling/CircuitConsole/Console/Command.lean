import CircuitConsole.Text.Integer

/-!
Commands of the console: what a directive line asks for, with arguments that make sense. Each
command has a word; a directive line writes it after a colon, with the arguments behind it.
-/

namespace CircuitConsole.Console

open Text

inductive View where
  | classical
  | polar
  | probability
  | queue
  | names
  deriving DecidableEq, Repr

structure Count where
  spelling : List Char
  value : Nat
  reads : readInt? spelling = some (value : Int)
  deriving DecidableEq, Repr

inductive Command where
  | loop (count : Count)
  | close
  | tag (name : List Char)
  | goto (name : List Char)
  | untag (name : List Char)
  | list
  | display (view : View)
  | go
  | reset
  | load (path : List Char)
  | help
  | quit
  deriving DecidableEq, Repr

def View.word : View → String
  | .classical => "class"
  | .polar => "polar"
  | .probability => "prob"
  | .queue => "ops"
  | .names => "names"

namespace Command

def word : Command → String
  | .loop _ => "loop"
  | .close => "end"
  | .tag _ => "tags"
  | .goto _ => "goto"
  | .untag _ => "untag"
  | .list => "list"
  | .display view => view.word
  | .go => "go"
  | .reset => "reset"
  | .load _ => "load"
  | .help => "help"
  | .quit => "quit"

def argument? : Command → Option (List Char)
  | .loop count => some count.spelling
  | .tag name | .goto name | .untag name => some name
  | .load path => some path
  | _ => none

def text (c : Command) : List Char :=
  ':' :: c.word.toList ++ match c.argument? with
    | some argument => ' ' :: argument
    | none => []

end Command

def reference : String := "QASM REPL directives

USAGE:
    :DIRECTIVE [ARG] [:DIRECTIVE [ARG]...]
    Lines without the ':' marker are OpenQASM statements. They are queued,
    not executed, until :go.

DIRECTIVES:
    loop N      Repeat the following lines N times, up to the matching :end
                (or the rest of the line when more directives follow)
    end         Close the innermost :loop block
    tags TAG    Save the current state under TAG
    goto TAG    Replace the current state with a copy of TAG
    untag TAG   Forget TAG
    list        Show saved tags
    class       Show the classical registers
    polar       Show the quantum amplitudes in polar form
    prob        Show the quantum outcome probabilities
    ops         Show the queued operations (* marks pending ones)
    go          Run the queued operations
    reset       Clear the current state
    names       Show register aliases
    load FILE   Run the lines of FILE
    help        Show this reference
    quit        Exit the interpreter
"

end CircuitConsole.Console
