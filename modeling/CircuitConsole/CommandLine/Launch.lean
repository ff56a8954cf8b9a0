import CircuitConsole.CommandLine.Options
import CircuitConsole.Console.Prompt
import CircuitConsole.Files.Replacement

/-!
A run of the program: a greeting, the script if one is given, then the prompt between the reading
and the writing of the history. The run ends early, and without the prompt, if the script cannot be
read or quits.
-/

namespace CircuitConsole.CommandLine

open Console

structure HistoryAccess where
  readFault? : List Char → Option Files.SystemFault
  writeFault? : List Char → Option Files.SystemFault

def HistoryAccess.ofTree (t : Files.Tree) : HistoryAccess := ⟨t.readFault?, t.writeFault?⟩

def greeting : String :=
  "QASM REPL - interactive OpenQASM interpreter (:help for directives)\n\n"

inductive Status where
  | prompting
  | ended (code : Nat)
  | broken (failure : Failure)
  deriving DecidableEq, Repr

structure Run where
  prompt : Prompt
  status : Status
  deriving DecidableEq, Repr

/-- What a failing script does to the run: one that cannot be read ends it. -/
def afterScript (p : Prompt) : Option Failure → Run
  | some f =>
    if f.isReported then
      match f with
      | .unreadable .. => ⟨p.report f, .ended 1⟩
      | f => ⟨p.report f, if p.console.running then .prompting else .ended 0⟩
    else ⟨p, .broken f⟩
  | none => ⟨p, if p.console.running then .prompting else .ended 0⟩

def launch (s : Setting) (o : Options) : Run :=
  let p := Prompt.start.write greeting
  if o.script = [] then ⟨p, .prompting⟩
  else
    let e := script (s.inside 1) o.script p.console
    afterScript { p with console := e.console } e.failure

def noteFault (note : Files.SystemFault → Note) (p : Prompt) :
    Option Files.SystemFault → Prompt
  | none => p
  | some fault => { p with console := p.console.note (note fault) }

/-- The path of the history, which needs one that the system can be asked about. -/
def historyPath (o : Options) : Except Failure (List Char) :=
  match o.history with
  | none => .error .noHistory
  | some path =>
    if path.contains '\x00' then .error (.unreadable path .nullCharacter) else .ok path

def openPrompt (h : HistoryAccess) (history : List Char) (p : Prompt) : Prompt :=
  noteFault (.historyMissing history) p (h.readFault? history)

def closePrompt (h : HistoryAccess) (history : List Char) (p : Prompt) : Prompt :=
  noteFault (.historyUnsaved history) p (h.writeFault? history)

/-- A whole run over what the user does at the prompt. Lines are read four calls further in. -/
def session (s : Setting) (h : HistoryAccess) (o : Options) (inputs : List Input) : Run :=
  let r := launch s o
  match r.status, historyPath o with
  | .prompting, .error f => ⟨r.prompt, .broken f⟩
  | .prompting, .ok history =>
    let farewell := (openPrompt h history r.prompt).converse (s.inside 4) inputs
    let p := closePrompt h history farewell.prompt
    match farewell.failure with
    | none => ⟨p, .ended 0⟩
    | some f => ⟨p, .broken f⟩
  | _, _ => r

def run (s : Setting) (h : HistoryAccess) (o : Options) (typed : List Line) : Run :=
  session s h o (typed.map .line)

def outputText (c : Console) : String :=
  c.events.reverse.foldl (fun text e => text ++ e.outputText) ""

def errorText (m : Manner) (c : Console) : String :=
  c.events.reverse.foldl (fun text e => text ++ e.errorText m) ""

/-- The lines of a text typed in; only a line feed ends a line. -/
def typedLines (s : List Char) : List Line :=
  match (Text.splitAt '\n' s).reverse with
  | [] :: lines => lines.reverse
  | lines => lines.reverse

end CircuitConsole.CommandLine
