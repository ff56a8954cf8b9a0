import CircuitConsole.Text.Integer

/-!
What is too much for the machine that the console runs on: rows that do not fit into memory or
cannot be counted, numbers of too many digits, and calls nested too deep. No text is to blame for an
overload, so it is not reported: it stops the console.
-/

namespace CircuitConsole

open Text

inductive Overload where
  | memory
  | places
  | count
  | digitsRead (digits : Nat)
  | digitsWritten
  | nesting
  deriving DecidableEq, Repr

namespace Overload

def label : Overload → String
  | .memory => "MemoryError"
  | .places | .count => "OverflowError"
  | .digitsRead _ | .digitsWritten => "ValueError"
  | .nesting => "RecursionError"

def message : Overload → String
  | .memory => ""
  | .places => "Python int too large to convert to C ssize_t"
  | .count => "cannot fit 'int' into an index-sized integer"
  | .digitsRead digits =>
    s!"Exceeds the limit ({digitLimit} digits) for integer string conversion: value has " ++
      s!"{digits} digits; use sys.set_int_max_str_digits() to increase the limit"
  | .digitsWritten =>
    s!"Exceeds the limit ({digitLimit} digits) for integer string conversion; " ++
      "use sys.set_int_max_str_digits() to increase the limit"
  | .nesting => "maximum recursion depth exceeded while calling a Python object"

end Overload

def countLimit : Nat := Nat.pow 2 63 - 1

/-- What a call finds room for: how long a row fits into memory, and how many calls can be opened
one inside the other. A row takes eight bytes for each place. Of the calls only those matter that
may be nested to any depth: the room is never so small that all others do not fit. -/
class Capacity where
  row : Nat
  calls : Nat
  row_lt : row < Nat.pow 2 60
  deriving DecidableEq, Repr

namespace Capacity

/-- The program begins with room for 998 calls. Where no machine is named, a row of 2 ^ 26 places is
taken to fit; what is proved of all runs is proved for every room. -/
instance usual : Capacity := ⟨Nat.pow 2 26, 998, by decide⟩

/-- A row that fits into memory can be counted. -/
theorem row_le (room : Capacity) : room.row ≤ countLimit :=
  Nat.le_trans (Nat.le_of_lt room.row_lt) (by decide)

@[reducible]
def inside (room : Capacity) (calls : Nat) : Capacity := { room with calls := room.calls - calls }

end Capacity

def writeNat (n : Nat) : Except Overload String :=
  if n < Nat.pow 10 digitLimit then .ok (toString n) else .error .digitsWritten

end CircuitConsole
