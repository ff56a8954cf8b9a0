import CircuitConsole.Files.Tree

/-!
A file that is read when the program starts and replaced when it ends, by its path as typed. Behind
a slash at the end of a path there must be a directory. A file that exists is replaced by way of
another one beside it, whose longer name must be allowed too.
-/

namespace CircuitConsole.Files

def typedComponents (path : List Char) : List (List Char) :=
  (Text.splitAt '/' path).filter (· ≠ [])

def isAbsolute (path : List Char) : Bool := path.head? = some '/'

def endsWithSlash (path : List Char) : Bool := path.getLast? = some '/'

/-- How many bytes longer the name is under which a file is written before it replaces another. -/
def replacementGrowth : Nat := 10

namespace Tree

def lengthFault? (path : List Char) : Option SystemFault :=
  if path = [] then some .missing
  else if pathLimit ≤ (String.ofList path).utf8ByteSize then some .nameTooLong
  else none

def readFault? (t : Tree) (path : List Char) : Option SystemFault :=
  (lengthFault? path).or <|
    let components := typedComponents path ++ if endsWithSlash path then [['.']] else []
    match t.walk (.start (isAbsolute path)) components with
    | .error fault => some fault
    | .ok place =>
      match t.entry place with
      | .file _ => none
      | _ => some (.other 22 "Invalid argument")

def replacementFault? (path name : List Char) : Option SystemFault :=
  if nameLimit < (String.ofList name).utf8ByteSize + replacementGrowth ||
      pathLimit ≤ (String.ofList path).utf8ByteSize + replacementGrowth then some .nameTooLong
  else none

def writeFault? (t : Tree) (path : List Char) : Option SystemFault :=
  (lengthFault? path).or <|
    let components := typedComponents path
    match t.walk (.start (isAbsolute path)) components.dropLast, components.getLast? with
    | .error fault, _ => some fault
    | .ok _, none => some .isDirectory
    | .ok place, some name =>
      if t.entry place ≠ .directory then some .notDirectory
      else if name = ['.'] || name = ['.', '.'] || endsWithSlash path then some .isDirectory
      else match t.follow place name with
      | .error .missing => none
      | .error fault => some fault
      | .ok place =>
        match t.entry place with
        | .directory => some .isDirectory
        | .file _ => replacementFault? path name
        | .device => none

end Tree

end CircuitConsole.Files
