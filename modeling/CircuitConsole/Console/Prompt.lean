import CircuitConsole.Console.Level

/-!
The prompt: the user's reader and the console behind it. Lines are asked for until the console is
told to quit or there are no more. A failing line is reported and the next is asked for; an
interruption drops what was being captured.
-/

namespace CircuitConsole.Console

structure Prompt where
  reader : Reader
  console : Console
  deriving DecidableEq, Repr

inductive Input where
  | line (line : Line)
  | interruption
  deriving DecidableEq, Repr

namespace Prompt

def start : Prompt := ⟨.idle, .start⟩

def execute (s : Setting) (line : Line) (p : Prompt) : Prompt × Option Failure :=
  let progress := (top s).consume p.reader line p.console
  (⟨progress.reader, progress.console⟩, progress.failure)

def report (f : Failure) (p : Prompt) : Prompt :=
  { p with console := p.console.emit (.report none f) }

/-- Reports a failure; one that is not to be reported is handed on. -/
def settle (p : Prompt) : Option Failure → Prompt × Option Failure
  | none => (p, none)
  | some f => if f.isReported then (p.report f, none) else (p, some f)

def feed (s : Setting) (line : Line) (p : Prompt) : Prompt × Option Failure :=
  let (p, failure) := p.execute s line
  p.settle failure

def interrupt (p : Prompt) : Prompt := { p with reader := .idle }

def write (text : String) (p : Prompt) : Prompt :=
  { p with console := p.console.emit (.output text) }

/-- Asks for a line: an idle reader asks for something new, any other for more. -/
def ask (p : Prompt) : Prompt := p.write (if p.reader = .idle then "|Q> " else "... ")

def answer (s : Setting) (input : Input) (p : Prompt) : Prompt × Option Failure :=
  match input with
  | .line line => p.feed s line
  | .interruption => ((p.write "\n").interrupt, none)

/-- Where a conversation ends: the prompt, the input that is left, and the failure that ended it
before its time. -/
structure Farewell where
  prompt : Prompt
  left : List Input
  failure : Option Failure
  deriving DecidableEq, Repr

def converse (s : Setting) : List Input → Prompt → Farewell
  | [], p =>
    if p.console.running then ⟨p.ask.write "\n", [], none⟩ else ⟨p, [], none⟩
  | input :: rest, p =>
    if p.console.running then
      match p.ask.answer s input with
      | (p, none) => converse s rest p
      | (p, some f) => ⟨p, rest, some f⟩
    else ⟨p, input :: rest, none⟩

end Prompt

end CircuitConsole.Console
