/-!
Gates defined by the user. A definition names its parameters and qubits; its body calls other
gates on them. The parameters of a call are kept as text and evaluated whenever the gate is used.
-/

namespace CircuitConsole

structure Call where
  gate : String
  expressions : List String
  qubits : List String
  deriving DecidableEq, Repr

structure Definition where
  name : String
  parameters : List String
  qubits : List String
  body : List Call
  deriving DecidableEq, Repr

end CircuitConsole
