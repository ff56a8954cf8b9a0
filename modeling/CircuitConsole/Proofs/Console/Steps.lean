import CircuitConsole.Console.Prompt
import CircuitConsole.Proofs.Statement.Room
import Mathlib.Logic.Relation

/-!
Every line takes the console through single actions: a command that opens no level, a circuit text
that is accepted or not, an event. Loops, blocks and loaded files only put such actions in a row,
at every level, and end the row where one fails. A failure that a level adds of its own is one that
is reported, and where loading goes on after a failure, it has been reported. What each action
keeps is therefore kept by every line, and it holds in the middle of a line as well as after it.
The texts that are read are made up of lines that were typed, held by the reader, or in files.
-/

namespace CircuitConsole.Console

open Simulation

/-- One action of a console. A load has no level to open here, so that it does nothing. -/
inductive Step (draws : Draws Float) : Console → Console → Prop
  | command (s : Setting) (hs : s.draws = draws) (k : Command) (c : Console) :
      Step draws c (perform s none c k).console
  | accept (room : Capacity) (text : List Char) (c : Console) :
      Step draws c (c.accept room text).console
  | emit (e : Event) (c : Console) : Step draws c (c.emit e)

abbrev Steps (draws : Draws Float) : Console → Console → Prop := Relation.ReflTransGen (Step draws)

def Reachable (draws : Draws Float) (c : Console) : Prop := Steps draws .start c

/-- What the start has and every action keeps, all reachable consoles have. -/
theorem Reachable.induct {draws : Draws Float} {P : Console → Prop} (hstart : P .start)
    (hstep : ∀ c c', Step draws c c' → P c → P c') {c : Console} (h : c.Reachable draws) :
    P c := by
  induction h with
  | refl => exact hstart
  | tail _ hlast ih => exact hstep _ _ hlast ih

theorem steps_emit (draws : Draws Float) (e : Event) (c : Console) :
    Steps draws c (c.emit e) := .single (.emit e c)

def Reader.lines : Reader → List Line
  | .idle => []
  | .capturing b => b.lines
  | .unfinished lines => lines

def Reader.Holds (known : Line → Prop) (reader : Reader) : Prop :=
  ∀ line ∈ reader.lines, known line

def FilesHold (known : Line → Prop) (reading : Files.Reading) : Prop :=
  ∀ path lines, Files.readLines reading path = .ok lines → ∀ line ∈ lines, known line

theorem Reader.holds_idle (known : Line → Prop) : Reader.idle.Holds known :=
  fun _ h => by simp [Reader.lines] at h

abbrev anyLine : Line → Prop := fun _ => True

theorem Reader.holds_any (reader : Reader) : reader.Holds anyLine := fun _ _ => trivial

theorem filesHold_any (reading : Files.Reading) : FilesHold anyLine reading :=
  fun _ _ _ _ _ => trivial

@[simp]
theorem Setting.inside_inside (s : Setting) (j k : Nat) :
    (s.inside j).inside k = s.inside (j + k) :=
  congrArg s.within (s.room.inside_inside j k)

/-- What every action of a line at the prompt finds at least. -/
@[reducible]
def Setting.least (s : Setting) : Capacity := s.room.inside (5 * maxNesting + 5)

/-- The course of a line: actions in a row up to the first that fails, or a failure that is no
action's and is reported. A failure that is reported may be followed by its report, and nothing
has failed then. The texts that are read are made up of known lines, and every action finds some
least room. -/
inductive Course (draws : Draws Float) (least : Capacity) (known : Line → Prop) :
    Console → Effect → Prop
  | done (c : Console) : Course draws least known c c.done
  | fail {f : Failure} (hf : f.isReported = true) (c : Console) :
      Course draws least known c (c.fail f)
  | command (s : Setting) (hs : s.draws = draws) (hroom : least ≤ s.room) (k : Command)
      (c : Console) : Course draws least known c (perform s none c k)
  | accept (room : Capacity) (hroom : least ≤ room) {lines : List Line}
      (hlines : ∀ line ∈ lines, known line) (c : Console) :
      Course draws least known c (c.accept room (joined lines))
  | emit (e : Event) (c : Console) : Course draws least known c (c.emit e).done
  | andThen {c : Console} {e e' : Effect} (h : Course draws least known c e)
      (hok : e.failure = none) (h' : Course draws least known e.console e') :
      Course draws least known c e'
  | report {c : Console} {e : Effect} {f : Failure} (h : Course draws least known c e)
      (hf : e.failure = some f) (hreported : f.isReported = true) (origin : Option Origin) :
      Course draws least known c (e.console.emit (.report origin f)).done

def Progress.effect (p : Progress) : Effect := ⟨p.console, p.failure⟩

/-- A level whose lines and commands take such a course, and which holds known lines only. -/
structure Level.Orderly (draws : Draws Float) (least : Capacity) (known : Line → Prop)
    (l : Level) : Prop where
  consume : ∀ {reader line} c, reader.Holds known → known line →
    Course draws least known c (l.consume reader line c).effect
  reader : ∀ {reader line} c, reader.Holds known → known line →
    (l.consume reader line c).reader.Holds known
  run : ∀ commands c, Course draws least known c (l.run commands c).effect

def OrderlyBelow (s : Setting) (calls : Nat) (least : Capacity) (known : Line → Prop)
    (below : Option (Setting → Level)) : Prop :=
  ∀ l, below = some l → ∀ room, least ≤ room.inside calls →
    (l (s.within room)).Orderly s.draws least known

def Progress.meet (recover : Nat → Failure → Console → Effect) (number : Nat) (p : Progress) :
    Effect :=
  match p.failure with
  | none => p.console.done
  | some f => recover number f p.console

theorem readAll_cons {l : Level} {recover : Nat → Failure → Console → Effect} {number : Nat}
    {reader : Reader} {line : Line} {lines : List Line} {c : Console} :
    l.readAll recover number reader (line :: lines) c =
      if c.running then
        match ((l.consume reader line c).meet recover number).failure with
        | none =>
          l.readAll recover (number + 1) (l.consume reader line c).reader lines
            ((l.consume reader line c).meet recover number).console
        | some f =>
          ⟨(l.consume reader line c).reader,
            ((l.consume reader line c).meet recover number).console, some f⟩
      else ⟨reader, c, none⟩ := by
  rw [Level.readAll]
  by_cases hrun : c.running
  · cases hp : (l.consume reader line c).failure with
    | none => simp only [hrun, if_true, hp, Progress.meet, done]
    | some f =>
      simp only [hrun, if_true, hp, Progress.meet]
      cases hf : (recover number f (l.consume reader line c).console).failure <;> rfl
  · simp only [hrun]
    rfl

section Commands

variable {s : Setting} {below : Option (Setting → Level)} {command : Command}
  {rest commands : List Command} {c : Console}

/-- A command that is not a loop is carried out, and the others after it. -/
theorem runCommands_plain (hplain : ∀ count, command ≠ .loop count) :
    runCommands s below (command :: rest) c =
      if c.running then
        match (perform s below c command).failure with
        | none => runCommands s below rest (perform s below c command).console
        | some _ => (perform s below c command).idle
      else c.done.idle := by
  cases command with
  | loop count => exact absurd rfl (hplain count)
  | close | tag _ | goto _ | untag _ | list | display _ | go | reset | load _ | help | quit => rfl

theorem runCommands_ok (hplain : ∀ count, command ≠ .loop count) (hrun : c.running = true)
    (hok : (perform s below c command).failure = none) :
    runCommands s below (command :: rest) c =
      runCommands s below rest (perform s below c command).console := by
  rw [runCommands_plain hplain, if_pos hrun, hok]

theorem runCommands_failed {f : Failure} (hplain : ∀ count, command ≠ .loop count)
    (hrun : c.running = true) (hfailed : (perform s below c command).failure = some f) :
    runCommands s below (command :: rest) c = (perform s below c command).idle := by
  rw [runCommands_plain hplain, if_pos hrun, hfailed]

theorem runCommands_single (hplain : ∀ count, command ≠ .loop count) (hrun : c.running = true) :
    runCommands s below [command] c = (perform s below c command).idle := by
  cases hf : (perform s below c command).failure with
  | none => rw [runCommands_ok hplain hrun hf, runCommands, Effect.idle, Effect.idle, hf, done]
  | some f => exact runCommands_failed hplain hrun hf

/-- A console that has stopped carries out nothing. -/
theorem runCommands_stopped (hrun : ¬ c.running = true) :
    runCommands s below commands c = c.done.idle := by
  cases commands with
  | nil => rfl
  | cons command rest =>
    unfold runCommands
    rw [if_neg hrun]

/-- A loop behind which nothing stands opens a block. -/
theorem runCommands_opening (hrun : c.running = true) (count : Count) :
    runCommands s below [.loop count] c =
      ⟨.capturing ⟨count.value, [], 0⟩, c.note (.capturing count.value), none⟩ := by
  simp only [runCommands, if_pos hrun]

theorem runCommands_inline (hrun : c.running = true) (hne : rest ≠ []) (count : Count) :
    runCommands s below (.loop count :: rest) c =
      (repeatInline s below count.value rest c).idle := by
  cases rest with
  | nil => exact absurd rfl hne
  | cons command rest => simp only [runCommands, if_pos hrun]

/-- A file that can be read is read line by line. -/
theorem load_of_lines {l : Setting → Level} {path : List Char} {lines : List Line}
    (hlines : Files.readLines s.reading path = .ok lines) (c : Console) :
    load s (some l) path c = ((l (s.inside 1)).readAll (reportAt path) 1 .idle lines
      (c.note (.loading path))).finish (.openAtEnd path) := by
  simp only [load, hlines, nested]

/-- A console that still runs after commands was running before them. -/
theorem running_of_runCommands (h : (runCommands s below commands c).console.running = true) :
    c.running = true := by
  by_cases hrun : c.running = true
  · exact hrun
  · rw [runCommands_stopped hrun] at h
    exact h

/-- An end that no loop block waits for fails. -/
theorem runCommands_close (hrun : c.running = true) :
    (runCommands s below (.close :: rest) c).failure = some .unopened := by
  have hplain : ∀ count, Command.close ≠ .loop count := fun count h => by cases h
  rw [runCommands_plain hplain, if_pos hrun]
  rfl

end Commands

section Readers

variable {s : Setting} {below : Option (Setting → Level)} {known : Line → Prop}

/-- A block that commands open has no lines yet. -/
theorem runCommands_reader (commands : List Command) (c : Console) :
    (runCommands s below commands c).reader.Holds known := by
  fun_induction runCommands s below commands c
  case case2 => exact fun _ h => by simp [Reader.lines] at h
  case case4 ih => exact ih
  all_goals exact Reader.holds_idle known

theorem closeBlock_reader {b : Block} (hb : ∀ line ∈ b.lines, known line) (line : Line)
    (c : Console) : (closeBlock s below b line c).reader.Holds known := by
  unfold closeBlock
  cases commands line with
  | error fault => exact hb
  | ok commands =>
    dsimp only
    split
    · exact runCommands_reader _ _
    · exact Reader.holds_idle known

theorem takeStatement_reader {lines : List Line} (hlines : ∀ line ∈ lines, known line)
    (c : Console) : (takeStatement s lines c).reader.Holds known := by
  unfold takeStatement
  split
  · exact hlines
  · exact Reader.holds_idle known

theorem takeFirst_reader {line : Line} (hline : known line) (c : Console) :
    (takeFirst s below line c).reader.Holds known := by
  unfold takeFirst
  split
  · exact Reader.holds_idle known
  · split
    · cases commands line with
      | error fault => exact Reader.holds_idle known
      | ok commands => exact runCommands_reader _ _
    · exact takeStatement_reader (by simpa using hline) c

theorem capture?_lines {b b' : Block} {line : Line} (h : b.capture? line = some b') :
    b'.lines = b.lines ++ [line] := by
  unfold Block.capture? at h
  split at h
  · cases h
  all_goals
    obtain rfl := Option.some.inj h
    rfl

theorem forall_append_line {lines : List Line} {line : Line}
    (hlines : ∀ line ∈ lines, known line) (hline : known line) :
    ∀ x ∈ lines ++ [line], known x := by
  intro x hx
  rcases List.mem_append.mp hx with hx | hx
  · exact hlines x hx
  · rwa [List.mem_singleton.mp hx]

/-- A line that is read leaves known lines, if it is known and those held before are. -/
theorem consumeLine_reader {reader : Reader} {line : Line} (hreader : reader.Holds known)
    (hline : known line) (c : Console) : (consumeLine s below reader line c).reader.Holds known := by
  cases reader with
  | idle => exact takeFirst_reader hline c
  | unfinished lines => exact takeStatement_reader (forall_append_line hreader hline) c
  | capturing b =>
    unfold consumeLine
    dsimp only
    cases hcapture : b.capture? line with
    | none => exact closeBlock_reader hreader line c
    | some b' =>
      change ∀ x ∈ b'.lines, known x
      rw [capture?_lines hcapture]
      exact forall_append_line hreader hline

end Readers

section Courses

variable {draws : Draws Float} {least : Capacity} {known : Line → Prop}

theorem Course.steps {c : Console} {e : Effect} (h : Course draws least known c e) :
    Steps draws c e.console := by
  induction h with
  | done c => exact .refl
  | fail _ c => exact .refl
  | command s hs _ k c => exact .single (.command s hs k c)
  | accept room _ _ c => exact .single (.accept room _ c)
  | emit e c => exact steps_emit draws e c
  | andThen _ _ _ ih ih' => exact ih.trans ih'
  | report _ _ _ origin ih => exact ih.trans (steps_emit draws _ _)

theorem rounds_course {body : Console → Effect} (hbody : ∀ c, Course draws least known c (body c))
    (n : Nat) (c : Console) : Course draws least known c (rounds body n c) := by
  induction n generalizing c with
  | zero => exact .done c
  | succ n ih =>
    unfold rounds
    by_cases hrun : c.running
    · simp only [hrun, if_true]
      cases hf : (body c).failure with
      | none => exact (hbody c).andThen hf (ih _)
      | some f => exact hbody c
    · simp only [hrun]
      exact .done c

theorem meet_course {recover : Nat → Failure → Console → Effect}
    (hrecover : ∀ n {c e f}, Course draws least known c e → e.failure = some f →
      Course draws least known c (recover n f e.console))
    (number : Nat) {c : Console} {p : Progress} (hp : Course draws least known c p.effect) :
    Course draws least known c (p.meet recover number) := by
  unfold Progress.meet
  cases hf : p.failure with
  | none => exact hp.andThen hf (.done _)
  | some f => exact hrecover number hp hf

theorem readAll_course {l : Level} (hl : l.Orderly draws least known)
    {recover : Nat → Failure → Console → Effect}
    (hrecover : ∀ n {c e f}, Course draws least known c e → e.failure = some f →
      Course draws least known c (recover n f e.console))
    (number : Nat) {reader : Reader} (hreader : reader.Holds known) {lines : List Line}
    (hlines : ∀ line ∈ lines, known line) (c : Console) :
    Course draws least known c (l.readAll recover number reader lines c).effect := by
  induction lines generalizing number reader c with
  | nil => exact .done c
  | cons line lines ih =>
    have hline := hlines line (List.mem_cons_self ..)
    rw [readAll_cons]
    by_cases hrun : c.running
    · simp only [hrun, if_true]
      have hmet := meet_course hrecover number (hl.consume c hreader hline)
      cases hf : ((l.consume reader line c).meet recover number).failure with
      | none =>
        have hrest := ih (number + 1) (hl.reader c hreader hline)
          fun x hx => hlines x (List.mem_cons_of_mem _ hx)
        exact hmet.andThen hf (hrest _)
      | some f =>
        simp only [Progress.effect]
        rwa [← hf]
    · simp only [hrun]
      exact .done c

/-- A failure may be handed on as it is. -/
theorem handOn_course {c : Console} {e : Effect} {f : Failure} (h : Course draws least known c e)
    (hf : e.failure = some f) : Course draws least known c (e.console.fail f) := by
  have heq : e.console.fail f = e := by rw [fail, ← hf]
  rwa [heq]

/-- The lines of a block are read up to the first that fails. -/
theorem readBlock_course {l : Level} (hl : l.Orderly draws least known) {lines : List Line}
    (hlines : ∀ line ∈ lines, known line) (c : Console) :
    Course draws least known c (l.readAll (fun _ f c => c.fail f) 1 .idle lines c).effect :=
  readAll_course hl (fun _ _ _ _ => handOn_course) 1 (Reader.holds_idle known) hlines c

/-- What leaves an idle reader is finished as it is. -/
theorem finish_of_idle {p : Progress} (h : p.reader = .idle) (f : Failure) :
    p.finish f = p.effect := by
  obtain ⟨reader, c, failure⟩ := p
  obtain rfl : reader = .idle := h
  cases failure <;> simp [Progress.finish, Progress.effect, done]

theorem finish_idle (c : Console) (f : Failure) : Progress.finish ⟨.idle, c, none⟩ f = c.done :=
  finish_of_idle rfl f

theorem finish_console (p : Progress) (f : Failure) : (p.finish f).console = p.console := by
  unfold Progress.finish
  split
  · rfl
  · split <;> rfl

theorem finish_course {c : Console} {p : Progress} (hp : Course draws least known c p.effect)
    {f : Failure} (hf : f.isReported = true) : Course draws least known c (p.finish f) := by
  unfold Progress.finish
  cases hfailure : p.failure with
  | some g =>
    dsimp only
    rwa [← hfailure]
  | none =>
    dsimp only
    split
    · exact hp.andThen hfailure (.fail hf _)
    · exact hp.andThen hfailure (.done _)

theorem nested_course {s : Setting} {nesting : Nesting} {below : Option (Setting → Level)}
    {body : Level → Console → Effect} {calls : Nat}
    (hbelow : OrderlyBelow s calls least known below) (hroom : least ≤ s.room.inside (calls + 1))
    (hbody : ∀ l c, l.Orderly s.draws least known → Course s.draws least known c (body l c))
    (c : Console) : Course s.draws least known c (nested s nesting below body c) := by
  cases below with
  | none => exact .fail rfl c
  | some l => exact hbody _ c (hbelow l rfl _ (Capacity.le_inside 1 hroom))

/-- A failure in a file is reported at its place, or it is handed on as it is. -/
theorem reportAt_course (path : List Char) (number : Nat) {c : Console} {e : Effect} {f : Failure}
    (he : Course draws least known c e) (hf : e.failure = some f) :
    Course draws least known c (reportAt path number f e.console) := by
  unfold reportAt
  split
  · rename_i hreported
    exact he.report hf hreported _
  · exact handOn_course he hf

variable {s : Setting} {below : Option (Setting → Level)} {calls : Nat}
  (hbelow : OrderlyBelow s calls least known below)

include hbelow

theorem replay_course (hroom : least ≤ s.room.inside (calls + 1)) {b : Block}
    (hb : ∀ line ∈ b.lines, known line) (c : Console) :
    Course s.draws least known c (replay s below b c) := by
  refine (Course.emit _ c).andThen rfl (nested_course hbelow hroom ?_ _)
  intro l c hl
  exact rounds_course (fun c => finish_course (readBlock_course hl hb c) rfl) _ c

theorem repeatInline_course (hroom : least ≤ s.room.inside (calls + 1)) (count : Nat)
    (commands : List Command) (c : Console) :
    Course s.draws least known c (repeatInline s below count commands c) := by
  refine nested_course hbelow hroom ?_ c
  intro l c hl
  exact rounds_course (fun c => finish_course (hl.run commands c) rfl) _ c

omit hbelow in
theorem takeStatement_course (hroom : least ≤ s.room.inside 2) {lines : List Line}
    (hlines : ∀ line ∈ lines, known line) (c : Console) :
    Course s.draws least known c (takeStatement s lines c).effect := by
  unfold takeStatement
  split
  · exact .done c
  · exact .accept _ hroom hlines c

variable (hfiles : FilesHold known s.reading)

include hfiles

theorem load_course (hroom : least ≤ s.room.inside (calls + 1)) (path : List Char) (c : Console) :
    Course s.draws least known c (load s below path c) := by
  cases hlines : Files.readLines s.reading path with
  | error fault =>
    -- no level is needed to find that the file cannot be read
    have hunread (below : Option (Setting → Level)) :
        load s below path c = c.fail (.unreadable path fault) := by
      simp only [load, hlines]
    rw [hunread below, ← hunread none]
    exact .command s rfl (hroom.trans (Capacity.inside_le _ _)) (.load path) c
  | ok lines =>
    simp only [load, hlines]
    refine (Course.emit _ c).andThen rfl (nested_course hbelow hroom ?_ _)
    intro l c hl
    have hread := readAll_course hl (fun n _ _ _ => reportAt_course path n) 1
      (Reader.holds_idle known) (hfiles path lines hlines) c
    exact finish_course hread rfl

/-- Only a load needs the level below. -/
theorem perform_course (hroom : least ≤ s.room.inside (calls + 3)) (c : Console) (k : Command) :
    Course s.draws least known c (perform s below c k) := by
  have hnow : least ≤ s.room := hroom.trans (Capacity.inside_le _ _)
  cases k with
  | load path =>
    exact load_course (s := s.inside 2) hbelow hfiles (Capacity.le_inside 2 hroom) path c
  | loop count => exact .command s rfl hnow (.loop count) c
  | close => exact .command s rfl hnow .close c
  | tag name => exact .command s rfl hnow (.tag name) c
  | goto name => exact .command s rfl hnow (.goto name) c
  | untag name => exact .command s rfl hnow (.untag name) c
  | list => exact .command s rfl hnow .list c
  | display view => exact .command s rfl hnow (.display view) c
  | go => exact .command s rfl hnow .go c
  | reset => exact .command s rfl hnow .reset c
  | help => exact .command s rfl hnow .help c
  | quit => exact .command s rfl hnow .quit c

theorem runCommands_course (hroom : least ≤ s.room.inside (calls + 3)) (commands : List Command)
    (c : Console) : Course s.draws least known c (runCommands s below commands c).effect := by
  have hless : least ≤ s.room.inside (calls + 1) := Capacity.le_of_le_inside hroom (by omega)
  fun_induction runCommands s below commands c
  case case1 c => exact .done c
  case case2 c hrun count => exact .emit _ c
  case case3 => exact repeatInline_course hbelow hless _ _ _
  case case4 hf ih => exact (perform_course hbelow hfiles hroom _ _).andThen hf ih
  case case5 => exact perform_course hbelow hfiles hroom _ _
  case case6 => exact .done _

theorem closeBlock_course (hroom : least ≤ s.room.inside (calls + 4)) {b : Block}
    (hb : ∀ line ∈ b.lines, known line) (line : Line) (c : Console) :
    Course s.draws least known c (closeBlock s below b line c).effect := by
  unfold closeBlock
  cases commands line with
  | error fault => exact .fail rfl c
  | ok commands =>
    have hless : least ≤ s.room.inside (calls + 1 + 1) := Capacity.le_of_le_inside hroom (by omega)
    have hreplay : Course s.draws least known c (replay (s.inside 1) below b c) :=
      replay_course (s := s.inside 1) hbelow (Capacity.le_inside 1 hless) hb c
    cases hf : (replay (s.inside 1) below b c).failure with
    | none =>
      have hrest (commands : List Command) (c : Console) : Course s.draws least known c
          (runCommands (s.inside 1) below commands c).effect :=
        runCommands_course (s := s.inside 1) hbelow hfiles (Capacity.le_inside 1 hroom) commands c
      simpa only [hf] using hreplay.andThen hf (hrest _ _)
    | some f =>
      simp only [hf]
      exact hreplay

theorem takeFirst_course (hroom : least ≤ s.room.inside (calls + 4)) {line : Line}
    (hline : known line) (c : Console) :
    Course s.draws least known c (takeFirst s below line c).effect := by
  unfold takeFirst
  split
  · exact .done c
  · split
    · cases commands line with
      | error fault => exact .fail rfl c
      | ok commands =>
        exact runCommands_course (s := s.inside 1) hbelow hfiles (Capacity.le_inside 1 hroom) _ _
    · exact takeStatement_course (Capacity.le_of_le_inside hroom (by omega)) (by simpa using hline) _

theorem consumeLine_course (hroom : least ≤ s.room.inside (calls + 5)) {reader : Reader}
    {line : Line} (hreader : reader.Holds known) (hline : known line) (c : Console) :
    Course s.draws least known c (consumeLine s below reader line c).effect := by
  cases reader with
  | idle =>
    exact takeFirst_course hbelow hfiles (Capacity.le_of_le_inside hroom (by omega)) hline c
  | unfinished lines =>
    exact takeStatement_course (Capacity.le_of_le_inside hroom (by omega))
      (forall_append_line hreader hline) c
  | capturing b =>
    unfold consumeLine
    dsimp only
    cases b.capture? line with
    | some b => exact .done c
    | none =>
      exact closeBlock_course (s := s.inside 1) hbelow hfiles (Capacity.le_inside 1 hroom) hreader
        line c

theorem levelOver_orderly (hroom : least ≤ s.room.inside (calls + 5)) :
    (levelOver s below).Orderly s.draws least known where
  consume c hreader hline := consumeLine_course hbelow hfiles hroom hreader hline c
  reader c hreader hline := consumeLine_reader hreader hline c
  run commands c :=
    runCommands_course hbelow hfiles (Capacity.le_of_le_inside hroom (by omega)) commands c

omit hbelow in
/-- A level leads through at most five calls to the one below it. -/
theorem level_orderly (n : Nat) (hroom : least ≤ s.room.inside (5 * n + 5)) :
    (level s n).Orderly s.draws least known := by
  induction n generalizing s with
  | zero => exact levelOver_orderly (fun l h => by simp at h) hfiles hroom
  | succ n ih =>
    refine levelOver_orderly (fun l h room hleft => ?_) hfiles hroom
    obtain rfl := Option.some.inj h
    exact ih (s := s.within room) hfiles hleft

omit hbelow in
theorem script_course (hroom : least ≤ s.room.inside (5 * maxNesting + 1)) (path : List Char)
    (c : Console) : Course s.draws least known c (script s path c) := by
  refine load_course (fun l h room hleft => ?_) hfiles hroom path c
  obtain rfl := Option.some.inj h
  exact level_orderly (s := s.within room) hfiles _ hleft

end Courses

namespace Prompt

/-- Prompts that a user reaches by lines, interruptions and scripts, with files that may differ
from one line to the next. Asking only writes. -/
inductive Reachable (draws : Draws Float) : Prompt → Prop
  | start : Reachable draws .start
  | feed (s : Setting) (hs : s.draws = draws) (line : Line) {p : Prompt} (h : Reachable draws p) :
      Reachable draws (p.feed s line).1
  | interrupt {p : Prompt} (h : Reachable draws p) : Reachable draws p.interrupt
  | write (text : String) {p : Prompt} (h : Reachable draws p) : Reachable draws (p.write text)
  | script (s : Setting) (hs : s.draws = draws) (path : List Char) {p : Prompt}
      (h : Reachable draws p) :
      Reachable draws { p with console := (script s path p.console).console }

variable {draws : Draws Float} {least : Capacity} {known : Line → Prop}

theorem settle_course {p p' : Prompt} {f : Option Failure}
    (h : Course draws least known p.console ⟨p'.console, f⟩) :
    Course draws least known p.console ⟨(p'.settle f).1.console, (p'.settle f).2⟩ := by
  cases f with
  | none => exact h
  | some f =>
    unfold settle
    dsimp only
    split
    · rename_i hreported
      exact h.report rfl hreported none
    · exact h

theorem feed_course {s : Setting} (hfiles : FilesHold known s.reading) {p : Prompt}
    (hreader : p.reader.Holds known) {line : Line} (hline : known line) :
    Course s.draws s.least known p.console
      ⟨(p.feed s line).1.console, (p.feed s line).2⟩ :=
  settle_course ((level_orderly hfiles maxNesting (le_refl _)).consume
    p.console hreader hline)

theorem feed_steps (s : Setting) (line : Line) (p : Prompt) :
    Steps s.draws p.console (p.feed s line).1.console :=
  (feed_course (filesHold_any s.reading) p.reader.holds_any trivial).steps

/-- Lines and interruptions, one after the other, are actions in a row. -/
theorem answers_steps (s : Setting) (inputs : List Input) (p : Prompt) :
    Steps s.draws p.console (inputs.foldl (fun p input => (p.answer s input).1) p).console := by
  induction inputs generalizing p with
  | nil => exact .refl
  | cons input inputs ih =>
    refine .trans ?_ (ih _)
    cases input with
    | line line => exact feed_steps s line p
    | interruption => exact steps_emit s.draws _ p.console

theorem Reachable.console {p : Prompt} (h : p.Reachable draws) : p.console.Reachable draws := by
  induction h with
  | start => exact .refl
  | feed s hs line _ ih => exact ih.trans (hs ▸ feed_steps s line _)
  | interrupt _ ih => exact ih
  | write text _ ih => exact ih.trans (steps_emit draws _ _)
  | script s hs path _ ih =>
    exact ih.trans (hs ▸ (script_course (filesHold_any s.reading) (le_refl _) path _).steps)

end Prompt

end CircuitConsole.Console
