import CircuitConsole.Files.Fault

/-!
A tree of files below the current directory, and what the system answers for a path into it. A path
is followed component by component; a dot stays where it is and two dots lead back to the directory
above. Of what lies outside the tree, only the directories that every system has below its root are
known, and the device that is always empty.
-/

namespace CircuitConsole.Files

structure Tree where
  files : List (List (List Char) × List UInt8)
  directories : List (List (List Char))
  deriving DecidableEq, Repr

/-- Where a path has led so far: below the current directory, below the root, or to a directory of
which nothing is known. -/
inductive Place where
  | inside (components : List (List Char))
  | system (components : List (List Char))
  | elsewhere
  deriving DecidableEq, Repr

def Place.above : Place → Place
  | .inside [] => .elsewhere
  | .inside components => .inside components.dropLast
  | .system components => .system components.dropLast
  | .elsewhere => .elsewhere

def Place.start (absolute : Bool) : Place := if absolute then .system [] else .inside []

inductive Entry where
  | directory
  | file (bytes : List UInt8)
  | device
  deriving DecidableEq, Repr

def systemDirectories : List (List Char) :=
  ["bin", "boot", "dev", "etc", "home", "lib", "media", "mnt", "opt", "proc", "root", "run",
    "sbin", "srv", "sys", "tmp", "usr", "var"].map String.toList

/-- The device that is always empty and takes whatever is written to it. -/
def nullDevice : List (List Char) := ["dev".toList, "null".toList]

namespace Tree

/-- The greatest length in bytes of a component, and one more than that of a path. -/
def nameLimit : Nat := 255

def pathLimit : Nat := 4096

def contents? (t : Tree) (components : List (List Char)) : Option (List UInt8) :=
  (t.files.find? fun f => f.1 = components).map (·.2)

/-- A directory is declared as one, or holds something. -/
def isDirectory (t : Tree) (components : List (List Char)) : Bool :=
  components = [] || (t.directories ++ t.files.map (fun f => f.1.dropLast)).any
    components.isPrefixOf

def entry (t : Tree) : Place → Entry
  | .inside components =>
    match t.contents? components with
    | some bytes => .file bytes
    | none => .directory
  | .system components => if components = nullDevice then .device else .directory
  | .elsewhere => .directory

def contains (t : Tree) : Place → Bool
  | .inside components => (t.contents? components).isSome || t.isDirectory components
  | .system [] => true
  | .system [component] => systemDirectories.contains component
  | .system components => components = nullDevice
  | .elsewhere => false

def below (component : List Char) : Place → Place
  | .inside components => .inside (components ++ [component])
  | .system components => .system (components ++ [component])
  | .elsewhere => .elsewhere

def follow (t : Tree) (place : Place) (component : List Char) : Except SystemFault Place :=
  if t.entry place ≠ .directory then .error .notDirectory
  else if nameLimit < (String.ofList component).utf8ByteSize then .error .nameTooLong
  else if component = ['.'] then .ok place
  else if component = ['.', '.'] then .ok place.above
  else if place ≠ .elsewhere && t.contains (below component place) then .ok (below component place)
  else .error .missing

def walk (t : Tree) (start : Place) (components : List (List Char)) : Except SystemFault Place :=
  components.foldlM t.follow start

def read (t : Tree) : Reading := fun path =>
  if pathLimit ≤ (String.ofList path.text).utf8ByteSize then .error .nameTooLong
  else do
    match t.entry (← t.walk (.start (path.slashes ≠ 0)) path.components) with
    | .directory => .error .isDirectory
    | .file bytes => .ok bytes
    | .device => .ok []

end Tree

end CircuitConsole.Files
