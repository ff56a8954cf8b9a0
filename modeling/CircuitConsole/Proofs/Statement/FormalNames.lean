import CircuitConsole.Proofs.Expression.Names
import CircuitConsole.Proofs.Statement.Changes

/-!
Formal names. A definition takes any identifiers for its parameters and qubits. While its body is
expanded, a parameter that is an expression by itself and is read as its name stands for the value
given to the last parameter of that name, and any other is not even looked for. A qubit denotes the
place given to the last qubit of its name.
-/

namespace CircuitConsole.Statement

open Expression Text

section Bindings

variable {α : Type}

end Bindings

end CircuitConsole.Statement
