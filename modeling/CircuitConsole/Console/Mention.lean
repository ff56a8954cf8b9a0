import CircuitConsole.Console.Reader
import CircuitConsole.Files.Fault

/-!
Files that lines may load, told from the lines alone, and a snapshot of files to be loaded from.
A snapshot is taken before a line is carried out, and holds every file that the line can reach.
-/

namespace CircuitConsole.Console

def mentions (line : Line) : List Files.Path :=
  let phrases := (phrasesAfter (Text.words line)).2
  (phrases.filter fun p => p.word = "load".toList).map fun p =>
    Files.Path.ofText ([' '].intercalate p.arguments)

def mentionsIn (bytes : List UInt8) : List Files.Path :=
  match Text.decodeUtf8 bytes with
  | .ok text => (Text.lines (Text.unifyLineEnds text)).flatMap mentions
  | .error _ => []

abbrev Snapshot := List (Files.Path × Except Files.SystemFault (List UInt8))

def Snapshot.contains (s : Snapshot) (path : Files.Path) : Bool := s.any (·.1 = path)

def Snapshot.reading (s : Snapshot) : Files.Reading := fun path =>
  match s.find? (·.1 = path) with
  | some (_, result) => result
  | none => .error .missing

end CircuitConsole.Console
