import CircuitConsole.Text.Quoted

/-!
The log's rank, which is given by the name of a severity in any case. A name that says nothing to
the log stands for warnings. Two names stand for settings of the log that are no ranks: the form
of its lines, and the styles that such forms are written in.
-/

namespace CircuitConsole.CommandLine

open Text

def basicForm : String := "%(levelname)s:%(name)s:%(message)s"

def styles : String :=
  "\x7b'%': (<class 'logging.PercentStyle'>, '%(levelname)s:%(name)s:%(message)s'), " ++
    "'\x7b': (<class 'logging.StrFormatStyle'>, " ++
    "'\x7blevelname\x7d:\x7bname\x7d:\x7bmessage\x7d'), " ++
    "'$': (<class 'logging.StringTemplateStyle'>, " ++
    "'$\x7blevelname\x7d:$\x7bname\x7d:$\x7bmessage\x7d')\x7d"

inductive LogFault where
  | form
  | styles
  deriving DecidableEq, Repr

def LogFault.label : LogFault → String
  | .form => "ValueError"
  | .styles => "TypeError"

def LogFault.message : LogFault → String
  | .form => s!"Unknown level: {quotedString basicForm}"
  | .styles => s!"Level not an integer or a valid string: {CommandLine.styles}"

/-- The capitals of a letter, as far as names of severities can be made of them. -/
def capitals (c : Char) : List Char :=
  if c = 'ı' then ['I']
  else if c = 'ſ' then ['S']
  else if c = 'ﬅ' || c = 'ﬆ' then ['S', 'T']
  else [c.toUpper]

def logRank (name : String) : Except LogFault Nat :=
  match String.ofList (name.toList.flatMap capitals) with
  | "NOTSET" => .ok 0
  | "DEBUG" => .ok 10
  | "INFO" => .ok 20
  | "ERROR" => .ok 40
  | "CRITICAL" | "FATAL" => .ok 50
  | "BASIC_FORMAT" => .error .form
  | "_STYLES" => .error .styles
  | _ => .ok 30

end CircuitConsole.CommandLine
