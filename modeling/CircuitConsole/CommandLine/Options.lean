import CircuitConsole.Text.Blank
import CircuitConsole.Text.Quoted

/-!
The options of the command line. Every argument is first taken for what it looks like: an option,
perhaps cut short or with its value attached, or a plain word. Options are then carried out from
left to right; a request for help ends the reading, and plain words that no option takes are
refused at the end.
-/

namespace CircuitConsole.CommandLine

open Text

abbrev Argument := List Char

inductive Flag where
  | help
  | input
  | debug
  | history
  deriving DecidableEq, Repr

/-- What the program is asked to do. An empty script is none, and the history may have no path. -/
structure Options where
  script : Argument
  debug : Bool
  history : Option Argument
  deriving DecidableEq, Repr

def Options.default : Options := ⟨[], false, some "~/.qasm_repl_history".toList⟩

def divider : Argument := ['-', '-']

inductive Request where
  | help
  | launch (options : Options)
  deriving DecidableEq, Repr

namespace Flag

def spellings : Flag → List String
  | .help => ["-h", "--help"]
  | .input => ["-i", "--input"]
  | .debug => ["--dbg"]
  | .history => ["--history"]

def title (f : Flag) : String := "/".intercalate f.spellings

def set (value : Argument) (o : Options) : Flag → Options
  | .input => { o with script := if value = divider then [] else value }
  | .history => { o with history := if value = divider then none else some value }
  | _ => o

def table : List (Argument × Flag) :=
  [help, input, debug, history].flatMap fun f => f.spellings.map fun s => (s.toList, f)

def ofSpelling? (s : Argument) : Option Flag := table.lookup s

end Flag

inductive Fault where
  | ambiguous (argument : Argument) (matching : List Argument)
  | missingValue (flag : Flag)
  | needlessValue (flag : Flag) (value : Argument)
  | unrecognized (arguments : List Argument)
  deriving DecidableEq, Repr

def Fault.message : Fault → String
  | .ambiguous argument matching =>
    s!"ambiguous option: {String.ofList argument} could match " ++
      ", ".intercalate (matching.map String.ofList)
  | .missingValue flag => s!"argument {flag.title}: expected one argument"
  | .needlessValue flag value =>
    s!"argument {flag.title}: ignored explicit argument {String.ofList (quoted value)}"
  | .unrecognized arguments =>
    "unrecognized arguments: " ++ " ".intercalate (arguments.map String.ofList)

/-- What an argument looks like. A value may be attached to a flag, after an equals sign or, behind
a single dash and one letter, directly. Behind the letter that asks for help, what is attached is a
cluster of more letters. -/
inductive Sense where
  | plain
  | divider
  | unknown
  | flag (flag : Flag)
  | valued (flag : Flag) (value : Argument)
  | cluster (letters : Argument)
  deriving DecidableEq, Repr

def cutAtEquals (s : Argument) : Argument × Option Argument :=
  match s.span (· ≠ '=') with
  | (before, _ :: after) => (before, some after)
  | (before, []) => (before, none)

def attach (flag : Flag) : Option Argument → Sense
  | some value => .valued flag value
  | none => .flag flag

def attachShort (flag : Flag) (tail : Argument) : Sense :=
  if flag = .help then .cluster tail else .valued flag tail

def looksNegative (s : Argument) : Bool :=
  let s := if s.getLast? = some '\n' then s.dropLast else s
  match s with
  | '-' :: number =>
    match number.span isDigit with
    | (_ :: _, []) => true
    | (_, '.' :: fraction) => fraction ≠ [] && fraction.all isDigit
    | _ => false
  | _ => false

def senseOfOther (s : Argument) : Sense :=
  if looksNegative s || s.contains ' ' then .plain else .unknown

/-- What an argument looks like. The name of a flag may be cut short where only one fits. -/
def sense (s : Argument) : Except Fault Sense :=
  match s with
  | '-' :: second :: tail =>
    let (name, value) := cutAtEquals s
    match Flag.ofSpelling? s, Flag.ofSpelling? name with
    | some flag, _ => .ok (.flag flag)
    | none, some flag =>
      .ok (if second = '-' then attach flag value else attachShort flag (value.getD []))
    | none, none =>
      if second = '-' then
        match Flag.table.filter fun entry => name.isPrefixOf entry.1 with
        | [] => .ok (senseOfOther s)
        | [(_, flag)] => .ok (attach flag value)
        | entries => .error (.ambiguous s (entries.map (·.1)))
      else
        match Flag.ofSpelling? ['-', second] with
        | some flag => .ok (attachShort flag tail)
        | none => .ok (senseOfOther s)
  | _ => .ok .plain

/-- The arguments with what they look like. Behind a double dash all are plain words. -/
def senses : List Argument → Except Fault (List (Argument × Sense))
  | [] => .ok []
  | s :: rest =>
    if s = divider then .ok ((s, .divider) :: rest.map fun s => (s, .plain))
    else do
      let first ← sense s
      return (s, first) :: (← senses rest)

/-- Checks what is attached to the letter that asks for help: the same letter again, or the one
that takes a value, which may be attached in turn. Here `next` tells whether a plain word follows
the argument. -/
def checkCluster (next : Bool) : Argument → Except Fault Unit
  | ['h'] => .ok ()
  | 'h' :: letters => checkCluster next letters
  | ['i'] => if next then .ok () else .error (.missingValue .input)
  | 'i' :: _ => .ok ()
  | letters => .error (.needlessValue .help letters)

def startsPlain : List (Argument × Sense) → Bool
  | (_, .plain) :: _ => true
  | _ => false

/-- Carries options out. What is not recognised is kept, the last first. -/
def carryOut (options : Options) (refused : List Argument) :
    List (Argument × Sense) → Except Fault Request
  | [] => if refused = [] then .ok (.launch options) else .error (.unrecognized refused.reverse)
  | (_, .flag .help) :: _ => .ok .help
  | (_, .flag .debug) :: rest => carryOut { options with debug := true } refused rest
  | (_, .flag flag) :: (value, .plain) :: rest => carryOut (flag.set value options) refused rest
  | (_, .flag flag) :: _ => .error (.missingValue flag)
  | (_, .cluster letters) :: rest => do
    checkCluster (startsPlain rest) letters
    return .help
  | (_, .valued flag value) :: rest =>
    if flag = .help || flag = .debug then .error (.needlessValue flag value)
    else carryOut (flag.set value options) refused rest
  | (s, _) :: rest => carryOut options (s :: refused) rest

def request (arguments : List Argument) : Except Fault Request := do
  carryOut .default [] (← senses arguments)

def usage : String := "usage: qasm-repl [-h] [-i INPUT] [--dbg] [--history HISTORY]\n"

def help : String := usage ++ "
Interactive OpenQASM interpreter

options:
  -h, --help            show this help message and exit
  -i INPUT, --input INPUT
                        QASM script to run before the prompt opens
  --dbg                 print debug representations of errors
  --history HISTORY     history file for interpreter commands (default:
                        ~/.qasm_repl_history)
"

def Fault.text (f : Fault) : String := s!"{usage}qasm-repl: error: {f.message}\n"

end CircuitConsole.CommandLine
