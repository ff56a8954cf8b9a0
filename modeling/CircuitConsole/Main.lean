import CircuitConsole.CommandLine.Launch
import CircuitConsole.CommandLine.Log
import CircuitConsole.Console.Mention

/-!
The program. Arguments, files, typed lines and the clock come from outside; what to do with them
and what to write is decided elsewhere.
-/

namespace CircuitConsole.Program

open Console CommandLine

def systemFault : IO.Error → Files.SystemFault
  | .noFileOrDirectory .. => .missing
  | .inappropriateType _ 20 _ => .notDirectory
  | .inappropriateType _ 21 _ => .isDirectory
  | .permissionDenied _ number reason | .inappropriateType _ number reason
  | .otherError number reason | .hardwareFault number reason
  | .resourceExhausted _ number reason | .invalidArgument _ number reason =>
    .other number.toNat reason
  | error => .other 5 error.toString

def readFile (path : Files.Path) : IO (Except Files.SystemFault (List UInt8)) := do
  try
    return .ok (← IO.FS.readBinFile (String.ofList path.text)).toList
  catch error => return .error (systemFault error)

partial def gather (s : Snapshot) : List Files.Path → IO Snapshot
  | [] => return s
  | path :: rest => do
    if s.contains path then gather s rest
    else
      let result ← readFile path
      let more := match result with
        | .ok bytes => mentionsIn bytes
        | .error _ => []
      gather ((path, result) :: s) (more ++ rest)

def flush (m : Manner) (p : Prompt) : IO Prompt := do
  IO.print (outputText p.console)
  IO.eprint (errorText m p.console)
  (← IO.getStdout).flush
  return { p with console := { p.console with events := [] } }

def typedLine? : IO (Option Line) := do
  let line ← (← IO.getStdin).getLine
  if line.isEmpty then return none
  return some ((typedLines line.toList).headD [])

/-- Asks and answers until there is no more to ask. The lines typed are returned, the last first,
with the failure that ended the talk before its time. -/
partial def talk (m : Manner) (draws : Simulation.Draws Float) (known : List Files.Path)
    (typed : List Line) (p : Prompt) : IO (Prompt × List Line × Option Failure) := do
  if !p.console.running then return (p, typed, none)
  let p ← flush m p.ask
  match ← typedLine? with
  | none => return (← flush m (p.write "\n"), typed, none)
  | some line =>
    let known := known ++ (mentions line).filter fun path => !known.contains path
    let (p, failure) := p.answer ⟨(← gather [] known).reading, draws⟩ (.line line)
    let p ← flush m p
    match failure with
    | none => talk m draws known (line :: typed) p
    | some f => return (p, line :: typed, some f)

def historySize : Nat := 1000

def readHistory (path : String) : IO (Option Files.SystemFault × List Line) := do
  try return (none, typedLines (← IO.FS.readFile path).toList)
  catch error => return (some (systemFault error), [])

def writeHistory (path : String) (lines : List Line) : IO (Option Files.SystemFault) := do
  let kept := lines.drop (lines.length - historySize)
  try
    IO.FS.writeFile path (String.join (kept.map fun line => String.ofList line ++ "\n"))
    return none
  catch error => return some (systemFault error)

def expandHome (path : Argument) : IO Argument := do
  match path, ← IO.getEnv "HOME" with
  | ['~'], some home => return home.toList
  | '~' :: '/' :: rest, some home => return home.toList ++ '/' :: rest
  | _, _ => return path

def stop (label message : String) : IO UInt32 := do
  IO.eprintln s!"{label}: {message}"
  return 1

def start (rank : Nat) (o : Options) : IO UInt32 := do
  let o := { o with history := ← o.history.mapM expandHome }
  let m : Manner := ⟨o.debug, rank⟩
  let draws := Simulation.seededDraws (← IO.monoNanosNow).toUInt64
  let scripts := if o.script = [] then [] else [Files.Path.ofText o.script]
  let r := launch ⟨(← gather [] scripts).reading, draws⟩ o
  let p ← flush m r.prompt
  match r.status, historyPath o with
  | .ended code, _ => return code.toUInt32
  | .broken f, _ | .prompting, .error f => stop f.label f.message
  | .prompting, .ok history =>
    let path := String.ofList history
    let (fault, old) ← readHistory path
    let p := openPrompt ⟨fun _ => fault, fun _ => none⟩ history p
    let (p, typed, failure) ← talk m draws scripts [] p
    let new := if ← (← IO.getStdin).isTty then typed.reverse else []
    let fault ← writeHistory path (old ++ new)
    let _ ← flush m (closePrompt ⟨fun _ => none, fun _ => fault⟩ history p)
    match failure with
    | none => return 0
    | some f => stop f.label f.message

end CircuitConsole.Program

def main (arguments : List String) : IO UInt32 := do
  match CircuitConsole.CommandLine.request (arguments.map String.toList) with
  | .ok (.launch options) =>
    match CircuitConsole.CommandLine.logRank ((← IO.getEnv "QASM_REPL_LOG").getD "") with
    | .ok rank => CircuitConsole.Program.start rank options
    | .error fault => CircuitConsole.Program.stop fault.label fault.message
  | .ok .help =>
    IO.print CircuitConsole.CommandLine.help
    return 0
  | .error fault =>
    IO.eprint fault.text
    return 2
