/-!
Registers and tables of them. A register names a row of consecutive bits of the whole circuit.
A table keeps its registers in the order of their declaration; each begins where the one before
it ends.
-/

namespace CircuitConsole

structure Register where
  name : String
  offset : Nat
  size : Nat
  deriving DecidableEq, Repr

def Register.covers (r : Register) (index : Nat) : Bool :=
  r.offset ≤ index && index < r.offset + r.size

inductive RegisterKind where
  | quantum | classical
  deriving DecidableEq, Repr

def RegisterKind.word : RegisterKind → String
  | .quantum => "quantum"
  | .classical => "classical"

abbrev RegisterTable := List Register

namespace RegisterTable

def width : RegisterTable → Nat
  | [] => 0
  | r :: table => r.size + width table

def find? (table : RegisterTable) (name : String) : Option Register :=
  List.find? (fun r => r.name = name) table

def contains (table : RegisterTable) (name : String) : Bool := (table.find? name).isSome

def declare (table : RegisterTable) (name : String) (size : Nat) : RegisterTable :=
  table ++ [⟨name, table.width, size⟩]

def bitName (table : RegisterTable) (index : Nat) : String :=
  match List.find? (fun r => r.covers index) table with
  | some r => s!"{r.name}[{index - r.offset}]"
  | none => s!"#{index}"

end RegisterTable

end CircuitConsole
