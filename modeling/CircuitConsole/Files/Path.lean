import CircuitConsole.Text.Blank

/-!
Paths of files. A path is kept in its normal form: no empty component and no single dot, while a
component of two dots stays, because what it leads to depends on the directory before it. Two
leading slashes are kept apart from one; three or more count as one.
-/

namespace CircuitConsole.Files

/-- The number of leading slashes, which is zero for a relative path, and the components. -/
structure Path where
  slashes : Nat
  components : List (List Char)
  deriving DecidableEq, Repr

namespace Path

def leadingSlashes (s : List Char) : Nat :=
  match (s.takeWhile (· = '/')).length with
  | 0 => 0
  | 2 => 2
  | _ => 1

def ofText (s : List Char) : Path :=
  ⟨leadingSlashes s, (Text.splitAt '/' s).filter fun c => c ≠ [] && c ≠ ['.']⟩

def text (p : Path) : List Char :=
  if p.slashes = 0 && p.components = [] then ['.']
  else List.replicate p.slashes '/' ++ ['/'].intercalate p.components

end Path

end CircuitConsole.Files
