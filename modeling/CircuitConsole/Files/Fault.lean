import CircuitConsole.Files.Path
import CircuitConsole.Text.Lines
import CircuitConsole.Text.Quoted
import CircuitConsole.Text.Utf8

/-!
Reading a file as text, and why a file is not read: the system refuses, the path holds a null
character, or the bytes are no text.
-/

namespace CircuitConsole.Files

open Text

inductive SystemFault where
  | missing
  | notDirectory
  | isDirectory
  | nameTooLong
  | other (number : Nat) (reason : String)
  deriving DecidableEq, Repr

namespace SystemFault

def number : SystemFault → Nat
  | .missing => 2
  | .notDirectory => 20
  | .isDirectory => 21
  | .nameTooLong => 36
  | .other number _ => number

def reason : SystemFault → String
  | .missing => "No such file or directory"
  | .notDirectory => "Not a directory"
  | .isDirectory => "Is a directory"
  | .nameTooLong => "File name too long"
  | .other _ reason => reason

def message (f : SystemFault) : String := s!"[Errno {f.number}] {f.reason}"

end SystemFault

inductive Fault where
  | nullCharacter
  | system (fault : SystemFault) (path : Path)
  | encoding (fault : Utf8Fault)
  deriving DecidableEq, Repr

/-- The place of bytes that are no text; the leading byte is named if it stands alone. -/
def bytesPlace (byte first last : Nat) : String :=
  if first = last then s!"byte 0x{String.ofList (hexDigits 2 byte)} in position {first}"
  else s!"bytes in position {first}-{last}"

def encodingMessage : Utf8Fault → String
  | .invalidStart byte position =>
    s!"'utf-8' codec can't decode {bytesPlace byte position position}: invalid start byte"
  | .invalidContinuation byte first last =>
    s!"'utf-8' codec can't decode {bytesPlace byte first last}: invalid continuation byte"
  | .unexpectedEnd byte first last =>
    s!"'utf-8' codec can't decode {bytesPlace byte first last}: unexpected end of data"

def Fault.message : Fault → String
  | .nullCharacter => "embedded null byte"
  | .system fault path => s!"{fault.message}: {String.ofList (quoted path.text)}"
  | .encoding fault => encodingMessage fault

abbrev Reading := Path → Except SystemFault (List UInt8)

def readLines (reading : Reading) (path : List Char) : Except Fault (List (List Char)) :=
  if path.contains '\x00' then .error .nullCharacter
  else
    let normal := Path.ofText path
    match reading normal with
    | .error fault => .error (.system fault normal)
    | .ok bytes =>
      match decodeUtf8 bytes with
      | .error fault => .error (.encoding fault)
      | .ok text => .ok (lines (unifyLineEnds text))

end CircuitConsole.Files
