import CircuitConsole.Console.Reader
import CircuitConsole.Console.State

/-!
Carrying out lines and commands. Loads and loops open a level inside the one they are in, and only
so many levels are there: a level is built over the one below it, the last over none. So every line
comes to an end, whatever the files say. Each definition is carried out by a call of its own, in the
setting that it is given; a call that it opens finds that much less room.
-/

namespace CircuitConsole.Console

structure Progress where
  reader : Reader
  console : Console
  failure : Option Failure
  deriving DecidableEq, Repr

def Effect.idle (e : Effect) : Progress := ⟨.idle, e.console, e.failure⟩

/-- A level: what lines do at a reader, and what commands do at an idle one. -/
structure Level where
  consume : Reader → Line → Console → Progress
  run : List Command → Console → Progress

def rounds (body : Console → Effect) : Nat → Console → Effect
  | 0, c => c.done
  | n + 1, c =>
    if c.running then
      let e := body c
      match e.failure with
      | none => rounds body n e.console
      | some _ => e
    else c.done

namespace Level

/-- Reads lines one after the other while the console runs. A failure is met by `recover`, which is
given the number of the line; it ends the reading unless it is recovered from. -/
def readAll (level : Level) (recover : Nat → Failure → Console → Effect) :
    Nat → Reader → List Line → Console → Progress
  | _, reader, [], c => ⟨reader, c, none⟩
  | number, reader, line :: lines, c =>
    if c.running then
      let p := level.consume reader line c
      let e := match p.failure with
        | none => p.console.done
        | some f => recover number f p.console
      match e.failure with
      | none => readAll level recover (number + 1) p.reader lines e.console
      | some _ => ⟨p.reader, e.console, e.failure⟩
    else ⟨reader, c, none⟩

end Level

/-- Ends a source of lines: a running console does not leave anything open. -/
def Progress.finish (p : Progress) (f : Failure) : Effect :=
  match p.failure with
  | some _ => ⟨p.console, p.failure⟩
  | none =>
    if p.console.running && p.reader ≠ .idle then p.console.fail f else p.console.done

/-- Opens a level, if there is one below. A level is given the setting in which its calls begin. -/
def nested (s : Setting) (nesting : Nesting) (below : Option (Setting → Level))
    (body : Level → Console → Effect) (c : Console) : Effect :=
  match below with
  | none => c.fail (.tooDeep nesting)
  | some level => body (level (s.inside 1)) c

def replay (s : Setting) (below : Option (Setting → Level)) (b : Block) (c : Console) : Effect :=
  nested s .loop below (fun level =>
    rounds (fun c => (level.readAll (fun _ f c => c.fail f) 1 .idle b.lines c).finish .openInRound)
      b.rounds) (c.note (.replaying b.lines.length b.rounds))

def repeatInline (s : Setting) (below : Option (Setting → Level)) (count : Nat)
    (commands : List Command) (c : Console) : Effect :=
  nested s .loop below (fun level =>
    rounds (fun c => (level.run commands c).finish .openInline) count) c

def reportAt (path : List Char) (number : Nat) (f : Failure) (c : Console) : Effect :=
  if f.isReported then (c.emit (.report (some ⟨path, number⟩) f)).done else c.fail f

/-- Reads the lines of a file. Each failing line is reported, and the next is read. -/
def load (s : Setting) (below : Option (Setting → Level)) (path : List Char) (c : Console) :
    Effect :=
  match Files.readLines s.reading path with
  | .error fault => c.fail (.unreadable path fault)
  | .ok lines =>
    nested s .load below (fun level c =>
      (level.readAll (reportAt path) 1 .idle lines c).finish (.openAtEnd path))
      (c.note (.loading path))

def perform (s : Setting) (below : Option (Setting → Level)) (c : Console) : Command → Effect
  | .loop _ => c.done
  | .close => c.fail .unopened
  | .tag name => c.tag name
  | .goto name => c.goto name
  | .untag name => c.untag name
  | .list => (c.say c.tags.text).done
  | .display view => c.display s view
  | .go => c.go s
  | .reset => { c with workspace := .empty }.done
  | .load path => load (s.inside 2) below path c
  | .help => (c.say reference).done
  | .quit => { c with running := false }.done

/-- Carries out commands in order while the console runs. A loop command takes all that follow it
on its line, or else opens a block. -/
def runCommands (s : Setting) (below : Option (Setting → Level)) : List Command → Console → Progress
  | [], c => c.done.idle
  | command :: rest, c =>
    if c.running then
      match command, rest with
      | .loop count, [] =>
        ⟨.capturing ⟨count.value, [], 0⟩, c.note (.capturing count.value), none⟩
      | .loop count, rest => (repeatInline s below count.value rest c).idle
      | command, rest =>
        let e := perform s below c command
        match e.failure with
        | none => runCommands s below rest e.console
        | some _ => e.idle
    else c.done.idle

/-- Closes a block: repeats it, then carries out what follows on the closing line. A closing line
that is not read leaves the block open. -/
def closeBlock (s : Setting) (below : Option (Setting → Level)) (b : Block) (line : Line)
    (c : Console) : Progress :=
  match commands line with
  | .error fault => ⟨.capturing b, c, some (.closing fault)⟩
  | .ok commands =>
    let e := replay (s.inside 1) below b c
    match e.failure with
    | none => runCommands (s.inside 1) below (commands.drop 1) e.console
    | some _ => e.idle

/-- Takes the lines of a statement: hands its text on, by one call and another, once it is
complete. -/
def takeStatement (s : Setting) (lines : List Line) (c : Console) : Progress :=
  if goesOn lines then ⟨.unfinished lines, c, none⟩
  else (c.accept (s.room.inside 2) (joined lines)).idle

def takeFirst (s : Setting) (below : Option (Setting → Level)) (line : Line) (c : Console) :
    Progress :=
  if Text.trim line = [] then c.done.idle
  else if isDirective line then
    match commands line with
    | .error fault => (c.fail (.directive fault)).idle
    | .ok commands => runCommands (s.inside 1) below commands c
  else takeStatement s [line] c

def consumeLine (s : Setting) (below : Option (Setting → Level)) (reader : Reader) (line : Line)
    (c : Console) : Progress :=
  match reader with
  | .idle => takeFirst s below line c
  | .unfinished lines => takeStatement s (lines ++ [line]) c
  | .capturing b =>
    match b.capture? line with
    | some b => ⟨.capturing b, c, none⟩
    | none => closeBlock (s.inside 1) below b line c

def levelOver (s : Setting) (below : Option (Setting → Level)) : Level :=
  ⟨consumeLine s below, runCommands s below⟩

def level : Setting → Nat → Level
  | s, 0 => levelOver s none
  | s, n + 1 => levelOver s (some fun s => level s n)

def top (s : Setting) : Level := level s maxNesting

def script (s : Setting) (path : List Char) (c : Console) : Effect :=
  load s (some fun s => level s (maxNesting - 1)) path c

end CircuitConsole.Console
