import CircuitConsole.Circuit.Definition
import CircuitConsole.Console.Failure

/-!
What the console lets the world know: text for the user, reports of failures, and notes on the
course of the work. Text and reports are written as they stand; a note is written where notes of
its severity are wanted.
-/

namespace CircuitConsole.Console

open Text

inductive Severity where
  | debug
  | warning
  deriving DecidableEq, Repr

def Severity.rank : Severity → Nat
  | .debug => 10
  | .warning => 30

def Severity.word : Severity → String
  | .debug => "DEBUG"
  | .warning => "WARNING"

inductive Note where
  | defined (definition : Definition)
  | queued (operations : Nat) (text : List Char)
  | executed (operations qubits : Nat)
  | tagged (name : List Char)
  | restoring (name : List Char)
  | untagged (name : List Char)
  | loading (path : List Char)
  | capturing (rounds : Nat)
  | replaying (lines rounds : Nat)
  | historyMissing (path : List Char) (fault : Files.SystemFault)
  | historyUnsaved (path : List Char) (fault : Files.SystemFault)
  deriving DecidableEq, Repr

namespace Note

def severity : Note → Severity
  | .historyUnsaved .. => .warning
  | _ => .debug

def topic : Note → String
  | .defined .. | .queued .. | .executed .. => "qasm_engine"
  | .historyMissing .. | .historyUnsaved .. => "qasm_repl"
  | _ => "qasm_interpreter"

def message : Note → String
  | .defined d =>
    "Defined gate " ++ d.name ++ "(" ++ ", ".intercalate d.parameters ++ ") " ++
      ", ".intercalate d.qubits
  | .queued operations text =>
    s!"Queued {operations} operation(s) from {String.ofList (quoted text)}"
  | .executed operations qubits => s!"Executed {operations} operation(s) on {qubits} qubit(s)"
  | .tagged name => s!"Tag {String.ofList name} created"
  | .restoring name => s!"Restoring tag {String.ofList name}"
  | .untagged name => s!"Tag {String.ofList name} removed"
  | .loading path => s!"Loading {String.ofList path}"
  | .capturing rounds => s!"Capturing loop block x{rounds}"
  | .replaying lines rounds => s!"Replaying {lines} line(s) {rounds} time(s)"
  | .historyMissing path fault =>
    s!"No history loaded from {String.ofList path}: {fault.message}"
  | .historyUnsaved path fault =>
    s!"Could not save history to {String.ofList path}: {fault.message}"

def text (n : Note) : String := s!"{n.severity.word} {n.topic}: {n.message}\n"

end Note

structure Origin where
  path : List Char
  line : Nat
  deriving DecidableEq, Repr

inductive Event where
  | output (text : String)
  | report (origin : Option Origin) (failure : Failure)
  | note (note : Note)
  deriving DecidableEq, Repr

/-- How reports and notes are written: whether for debugging, and from which rank on notes are
wanted. -/
structure Manner where
  debug : Bool
  rank : Nat
  deriving DecidableEq, Repr

/-- A report. For debugging, the message is quoted and a line for the trace follows. -/
def reportText (debug : Bool) (origin : Option Origin) (f : Failure) : String :=
  let place := match origin with
    | some o => s!"{String.ofList o.path}:{o.line}: "
    | none => ""
  if debug then s!"{place}{f.label}({quotedString f.message})\n<traceback>\n"
  else s!"{place}{f.label}: {f.message}\n"

namespace Event

def outputText : Event → String
  | .output text => text
  | _ => ""

def errorText (m : Manner) : Event → String
  | .output _ => ""
  | .report origin failure => reportText m.debug origin failure
  | .note n => if m.rank ≤ n.severity.rank then n.text else ""

end Event

end CircuitConsole.Console
