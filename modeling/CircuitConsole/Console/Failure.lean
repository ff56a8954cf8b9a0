import CircuitConsole.Console.Directive
import CircuitConsole.Files.Fault
import CircuitConsole.Simulation.Execution
import CircuitConsole.Statement.Fault

/-!
Why a line fails. Nearly every failure is reported and leaves the console going; the few that are
not stop it.
-/

namespace CircuitConsole.Console

inductive Nesting where
  | load
  | loop
  deriving DecidableEq, Repr

def Nesting.title : Nesting → String
  | .load => "Loads"
  | .loop => "Loop blocks"

def maxNesting : Nat := 64

inductive Failure where
  | directive (fault : DirectiveFault)
  | closing (fault : DirectiveFault)
  | unknownTag (name : List Char)
  | unopened
  | tooDeep (nesting : Nesting)
  | openInRound
  | openInline
  | openAtEnd (path : List Char)
  | notExecuted (view : View)
  | unreadable (path : List Char) (fault : Files.Fault)
  | statement (fault : Statement.Fault)
  | execution (fault : ExecutionFault)
  | overload (overload : Overload)
  | noHistory
  deriving DecidableEq, Repr

namespace Failure

/-- A reported failure is told to the user; any other ends the console. -/
def isReported : Failure → Bool
  | .unreadable _ .nullCharacter => false
  | .statement fault => fault.isReported
  | .execution fault => fault.isReported
  | .overload _ | .noHistory => false
  | _ => true

def label : Failure → String
  | .directive fault | .closing fault => fault.label
  | .unknownTag _ => "UnknownTag"
  | .unopened | .tooDeep _ | .openInRound | .openInline | .openAtEnd _ => "LoopError"
  | .notExecuted _ => "NotExecuted"
  | .unreadable _ .nullCharacter => "ValueError"
  | .unreadable _ _ => "LoadError"
  | .statement fault => fault.label
  | .execution fault => fault.label
  | .overload o => o.label
  | .noHistory => "TypeError"

def message : Failure → String
  | .directive fault => fault.message
  | .closing fault => s!"{fault.message}; the :loop block is still open"
  | .unknownTag name => s!"No tag named '{String.ofList name}'"
  | .unopened => ":end without a matching :loop"
  | .tooDeep nesting => s!"{nesting.title} nested deeper than {maxNesting} levels"
  | .openInRound => "Unterminated block inside loop"
  | .openInline => "Inline :loop cannot open a block"
  | .openAtEnd path => s!"Unterminated block at end of '{String.ofList path}'"
  | .notExecuted view => s!"Pending operations not executed; run :go before :{view.word}"
  | .unreadable _ .nullCharacter => Files.Fault.nullCharacter.message
  | .unreadable path fault => s!"Cannot read '{String.ofList path}': {fault.message}"
  | .statement fault => fault.message
  | .execution fault => fault.message
  | .overload o => o.message
  | .noHistory => "expected str, bytes or os.PathLike object, not list"

end Failure

end CircuitConsole.Console
