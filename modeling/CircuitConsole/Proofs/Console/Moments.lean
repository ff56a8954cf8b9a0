import CircuitConsole.Proofs.Console.Steps

/-!
The course of a line, moment by moment. What is open is kept in a row, the innermost first, with
what is left of each file, block and inline loop, and a counter says how deep the nesting is: it
goes up when something is opened, goes down when it is left, for whatever reason, and is compared
with the cap before anything is opened. The counter is always right, and it never passes the cap.
Nothing here makes sure that a line ever comes to an end.
-/

namespace CircuitConsole.Console

/-- What is open, and what is left of it: of a file its lines, of a block the lines of the round and
the rounds, of an inline loop the rounds. Commands may follow a load, and the end of a block. The
room is what the commands found among which it was opened. -/
inductive Opened where
  | file (room : Capacity) (path : List Char) (read : Nat) (left : List Line)
      (after : List Command)
  | block (room : Capacity) (block : Block) (rounds : Nat) (left : List Line)
      (after : List Command)
  | inline (room : Capacity) (rounds : Nat) (commands : List Command)
  deriving DecidableEq, Repr

/-- What happens next where the innermost thing is open: a line is read, commands are carried out,
something is opened, or a line or round is over, with the reader it leaves and its failure. -/
inductive Activity where
  | line (room : Capacity) (reader : Reader) (line : Line)
  | commands (room : Capacity) (commands : List Command)
  | opening (nesting : Nesting) (opened : Opened)
  | between (reader : Reader) (failure : Option Failure)
  deriving DecidableEq, Repr

structure Moment where
  activity : Activity
  opened : List Opened
  depth : Nat
  console : Console
  deriving DecidableEq, Repr

namespace Moment

def pause (m : Moment) (p : Progress) : Moment :=
  { m with activity := .between p.reader p.failure, console := p.console }

def proceed (m : Moment) (room : Capacity) (commands : List Command) (e : Effect) : Moment :=
  match e.failure with
  | none => { m with activity := .commands room commands, console := e.console }
  | some _ => m.pause e.idle

def read (s : Setting) (m : Moment) (room : Capacity) (reader : Reader) (line : Line) : Moment :=
  match reader with
  | .idle =>
    if Text.trim line = [] then m.pause m.console.done.idle
    else if isDirective line then
      match commands line with
      | .error fault => m.pause (m.console.fail (.directive fault)).idle
      | .ok commands => { m with activity := .commands (room.inside 1) commands }
    else m.pause (takeStatement (s.within room) [line] m.console)
  | .unfinished lines => m.pause (takeStatement (s.within room) (lines ++ [line]) m.console)
  | .capturing b =>
    match b.capture? line with
    | some b => m.pause ⟨.capturing b, m.console, none⟩
    | none =>
      match commands line with
      | .error fault => m.pause ⟨.capturing b, m.console, some (.closing fault)⟩
      | .ok commands =>
        { m with
          activity := .opening .loop (.block (room.inside 2) b b.rounds [] (commands.drop 1))
          console := m.console.note (.replaying b.lines.length b.rounds) }

def carryOut (s : Setting) (m : Moment) (room : Capacity) : List Command → Moment
  | [] => m.pause m.console.done.idle
  | command :: rest =>
    if m.console.running then
      match command, rest with
      | .loop count, [] =>
        m.pause ⟨.capturing ⟨count.value, [], 0⟩, m.console.note (.capturing count.value), none⟩
      | .loop count, rest => { m with activity := .opening .loop (.inline room count.value rest) }
      | .load path, rest =>
        match Files.readLines s.reading path with
        | .error fault => m.pause (m.console.fail (.unreadable path fault)).idle
        | .ok lines =>
          { m with
            activity := .opening .load (.file room path 0 lines rest)
            console := m.console.note (.loading path) }
      | command, rest => m.proceed room rest (perform (s.within room) none m.console command)
    else m.pause m.console.done.idle

def enter (m : Moment) (nesting : Nesting) (o : Opened) : Moment :=
  if maxNesting ≤ m.depth then m.pause (m.console.fail (.tooDeep nesting)).idle
  else
    { m with activity := .between .idle none, opened := o :: m.opened, depth := m.depth + 1 }

def leave (m : Moment) (outer : List Opened) (room : Capacity) (after : List Command)
    (e : Effect) : Moment :=
  { m with opened := outer, depth := m.depth - 1 }.proceed room after e

def again (m : Moment) (outer : List Opened) (room : Capacity) (after : List Command)
    (e : Effect) (round : Nat → Activity × Opened) : Nat → Moment
  | 0 => m.leave outer room after e
  | n + 1 =>
    if e.failure = none ∧ m.console.running then
      { m with activity := (round n).1, opened := (round n).2 :: outer }
    else m.leave outer room after e

def goOn (m : Moment) (outer : List Opened) (reader : Reader) : Opened → Moment
  | .file room path read (line :: left) after =>
    if m.console.running then
      { m with
        activity := .line (room.inside 3) reader line
        opened := .file room path (read + 1) left after :: outer }
    else m.leave outer room after m.console.done
  | .file room path _ [] after =>
    m.leave outer room after (Progress.finish ⟨reader, m.console, none⟩ (.openAtEnd path))
  | .block room b rounds (line :: left) after =>
    if m.console.running then
      { m with
        activity := .line (room.inside 1) reader line
        opened := .block room b rounds left after :: outer }
    else m.leave outer room after m.console.done
  | .block room b rounds [] after =>
    m.again outer room after (Progress.finish ⟨reader, m.console, none⟩ .openInRound)
      (fun n => (.between .idle none, .block room b n b.lines after)) rounds
  | .inline room rounds commands =>
    m.again outer room [] (Progress.finish ⟨reader, m.console, none⟩ .openInline)
      (fun n => (.commands (room.inside 1) commands, .inline room n commands)) rounds

def meet (m : Moment) (outer : List Opened) (reader : Reader) (f : Failure) : Opened → Moment
  | .file room path read _ _ =>
    if f.isReported then
      m.pause ⟨reader, m.console.emit (.report (some ⟨path, read⟩) f), none⟩
    else m.leave outer room [] (m.console.fail f)
  | .block room .. | .inline room .. => m.leave outer room [] (m.console.fail f)

/-- The moment after another. There is none once the line is over and nothing is open. -/
def next (s : Setting) (m : Moment) : Option Moment :=
  match m.activity, m.opened with
  | .line room reader line, _ => some (m.read s room reader line)
  | .commands room commands, _ => some (m.carryOut s room commands)
  | .opening nesting o, _ => some (m.enter nesting o)
  | .between _ _, [] => none
  | .between reader none, o :: outer => some (m.goOn outer reader o)
  | .between reader (some f), o :: outer => some (m.meet outer reader f o)

inductive Next (s : Setting) (m : Moment) : Moment → Prop
  | line (room : Capacity) (reader : Reader) (line : Line)
      (hactivity : m.activity = .line room reader line) : Next s m (m.read s room reader line)
  | commands (room : Capacity) (commands : List Command)
      (hactivity : m.activity = .commands room commands) : Next s m (m.carryOut s room commands)
  | opening (nesting : Nesting) (o : Opened) (hactivity : m.activity = .opening nesting o) :
      Next s m (m.enter nesting o)
  | goOn (reader : Reader) (o : Opened) (outer : List Opened)
      (hactivity : m.activity = .between reader none) (hopened : m.opened = o :: outer) :
      Next s m (m.goOn outer reader o)
  | meet (reader : Reader) (f : Failure) (o : Opened) (outer : List Opened)
      (hactivity : m.activity = .between reader (some f)) (hopened : m.opened = o :: outer) :
      Next s m (m.meet outer reader f o)

theorem next_eq_some {s : Setting} {m m' : Moment} (h : m.next s = some m') : m.Next s m' := by
  unfold next at h
  split at h
  case h_4 => cases h
  all_goals obtain rfl := Option.some.inj h
  case h_1 _ room reader line hactivity => exact .line room reader line hactivity
  case h_2 _ room commands hactivity => exact .commands room commands hactivity
  case h_3 _ nesting o hactivity => exact .opening nesting o hactivity
  case h_5 reader o outer hactivity hopened => exact .goOn reader o outer hactivity hopened
  case h_6 reader f o outer hactivity hopened => exact .meet reader f o outer hactivity hopened

def Leads (s : Setting) : Moment → Moment → Prop :=
  Relation.ReflTransGen fun m m' => m.next s = some m'

end Moment

end CircuitConsole.Console
