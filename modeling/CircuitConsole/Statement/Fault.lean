import CircuitConsole.Capacity
import CircuitConsole.Circuit.Register
import CircuitConsole.Expression.Evaluation

/-!
Why a circuit text is not accepted.
-/

namespace CircuitConsole.Statement

inductive Fault where
  | unbalancedBrace
  | unterminatedBlock
  | unknownRegister (kind : RegisterKind) (name : String)
  | alreadyDeclared (name : String)
  | emptyRegister (name : String)
  | alreadyDefined (gate : String)
  | badIdentifier (identifier gate : String)
  | noQubits (gate : String)
  | badBodyStatement (text gate : String)
  | unknownQubit (name gate : String)
  | measureSizes
  | unreadable (text : String)
  | repeatedQubit (gate : String)
  | unknownGate (gate : String)
  | parameterCount (gate : String) (expected actual : Nat)
  | qubitCount (gate : String) (expected actual : Nat)
  | badReference (kind : RegisterKind) (text : String)
  | indexOutOfRange (index : Nat) (register : String) (size : Nat)
  | gateSizes
  | expression (fault : Expression.Fault)
  | overload (overload : Overload)
  deriving DecidableEq, Repr

def Fault.message : Fault → String
  | .unbalancedBrace => "Unbalanced '\x7d'"
  | .unterminatedBlock => "Unterminated '\x7b' block"
  | .unknownRegister kind name => s!"Unknown {kind.word} register '{name}'"
  | .alreadyDeclared name => s!"Register '{name}' already declared"
  | .emptyRegister name => s!"Register '{name}' must have at least one bit"
  | .alreadyDefined gate => s!"Gate '{gate}' already defined"
  | .badIdentifier identifier gate => s!"Bad identifier '{identifier}' in gate '{gate}'"
  | .noQubits gate => s!"Gate '{gate}' needs at least one qubit argument"
  | .badBodyStatement text gate => s!"Bad statement '{text}' in gate '{gate}'"
  | .unknownQubit name gate => s!"Unknown qubit '{name}' in gate '{gate}'"
  | .measureSizes => "Register size mismatch in measure"
  | .unreadable text => s!"Cannot parse statement '{text}'"
  | .repeatedQubit gate => s!"Duplicate qubit arguments for '{gate}'"
  | .unknownGate gate => s!"Unknown gate '{gate}'"
  | .parameterCount gate expected actual =>
    s!"Gate '{gate}' takes {expected} parameter(s), got {actual}"
  | .qubitCount gate expected actual => s!"Gate '{gate}' takes {expected} qubit(s), got {actual}"
  | .badReference kind text => s!"Bad {kind.word} argument '{text}'"
  | .indexOutOfRange index register size =>
    s!"Index {index} out of range for {register}[{size}]"
  | .gateSizes => "Register size mismatch in gate arguments"
  | .expression fault => fault.message
  | .overload o => o.message

/-- Every fault belongs to the circuit text, except an overload. -/
def Fault.isReported : Fault → Bool
  | .overload _ => false
  | _ => true

def Fault.label : Fault → String
  | .overload o => o.label
  | _ => "ParseError"

end CircuitConsole.Statement
