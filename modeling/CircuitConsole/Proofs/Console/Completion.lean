import CircuitConsole.Proofs.Console.Moments
import CircuitConsole.Proofs.Console.Tallies

/-!
Every line comes to an end. A level of the console does to a moment what happens there from one
moment to the next: it leads to the end of the line, with open what was open before, because what is
opened is given to the level below and left again, however it ends. By induction on the levels that
are left to the cap this holds of a line at the prompt, whatever is in the files. The counter of
what is open is right at the start and kept right by every step, so that it never passes the cap.
-/

namespace CircuitConsole.Console

namespace Moment

variable {s : Setting}

structure Counted (m : Moment) : Prop where
  depth : m.depth = m.opened.length
  capped : m.depth ≤ maxNesting

section Counting

variable {m : Moment}

theorem Counted.pause (hm : m.Counted) (p : Progress) : (m.pause p).Counted :=
  ⟨hm.depth, hm.capped⟩

theorem Counted.proceed (hm : m.Counted) (room : Capacity) (commands : List Command)
    (e : Effect) : (m.proceed room commands e).Counted := by
  unfold Moment.proceed
  split
  · exact ⟨hm.depth, hm.capped⟩
  · exact hm.pause _

theorem Counted.read (hm : m.Counted) (room : Capacity) (reader : Reader) (line : Line) :
    (m.read s room reader line).Counted := by
  unfold Moment.read
  repeat' split
  all_goals exact ⟨hm.depth, hm.capped⟩

theorem Counted.carryOut (hm : m.Counted) (room : Capacity) (commands : List Command) :
    (m.carryOut s room commands).Counted := by
  unfold Moment.carryOut
  repeat' split
  all_goals first
    | exact hm.proceed _ _ _
    | exact ⟨hm.depth, hm.capped⟩

theorem Counted.enter (hm : m.Counted) (nesting : Nesting) (o : Opened) :
    (m.enter nesting o).Counted := by
  unfold Moment.enter
  split
  · exact hm.pause _
  · refine ⟨congrArg (· + 1) hm.depth, ?_⟩
    change m.depth + 1 ≤ maxNesting
    omega

variable {o : Opened} {outer : List Opened}

theorem Counted.leave (hm : m.Counted) (hopened : m.opened = o :: outer) (room : Capacity)
    (after : List Command) (e : Effect) : (m.leave outer room after e).Counted := by
  refine Counted.proceed ⟨?_, ?_⟩ _ _ _
  · change m.depth - 1 = outer.length
    rw [hm.depth, hopened, List.length_cons, Nat.add_sub_cancel]
  · change m.depth - 1 ≤ maxNesting
    have := hm.capped
    omega

/-- One thing that is open may take the place of another. -/
theorem Counted.replace (hm : m.Counted) (hopened : m.opened = o :: outer) (o' : Opened)
    (a : Activity) : { m with activity := a, opened := o' :: outer }.Counted := by
  refine ⟨?_, hm.capped⟩
  rw [hm.depth, hopened]
  rfl

theorem Counted.again (hm : m.Counted) (hopened : m.opened = o :: outer) (room : Capacity)
    (after : List Command) (e : Effect) (round : Nat → Activity × Opened) (n : Nat) :
    (m.again outer room after e round n).Counted := by
  cases n with
  | zero => exact hm.leave hopened room after e
  | succ n =>
    rw [Moment.again]
    split
    · exact hm.replace hopened _ _
    · exact hm.leave hopened room after e

theorem Counted.goOn (hm : m.Counted) (hopened : m.opened = o :: outer) (reader : Reader)
    (o' : Opened) : (m.goOn outer reader o').Counted := by
  unfold Moment.goOn
  repeat' split
  all_goals first
    | exact hm.replace hopened _ _
    | exact hm.leave hopened _ _ _
    | exact hm.again hopened _ _ _ _ _

theorem Counted.meet (hm : m.Counted) (hopened : m.opened = o :: outer) (reader : Reader)
    (f : Failure) (o' : Opened) : (m.meet outer reader f o').Counted := by
  cases o' with
  | file room path read left after =>
    rw [Moment.meet]
    split
    · exact hm.pause _
    · exact hm.leave hopened _ _ _
  | block | inline => exact hm.leave hopened _ _ _

theorem Counted.next {m' : Moment} (hm : m.Counted) (h : m.next s = some m') : m'.Counted := by
  cases next_eq_some h with
  | line room reader line hactivity => exact hm.read room reader line
  | commands room commands hactivity => exact hm.carryOut room commands
  | opening nesting o hactivity => exact hm.enter nesting o
  | goOn reader o outer hactivity hopened => exact hm.goOn hopened _ _
  | meet reader f o outer hactivity hopened => exact hm.meet hopened _ _ _

theorem Counted.leads {m' : Moment} (hm : m.Counted) (h : m.Leads s m') : m'.Counted := by
  induction h with
  | refl => exact hm
  | tail _ hlast ih => exact ih.next hlast

end Counting

def inside (m : Moment) (o : Opened) (a : Activity) (c : Console) : Moment :=
  ⟨a, o :: m.opened, m.depth + 1, c⟩

/-- What was opened is left as if nothing had been opened. -/
theorem leave_inside (m : Moment) (o : Opened) (a : Activity) (c : Console)
    (room : Capacity) (after : List Command) (e : Effect) :
    (m.inside o a c).leave m.opened room after e = m.proceed room after e := by
  unfold leave proceed
  split <;> rfl

theorem proceed_failing {m : Moment} {e : Effect} {f : Failure} (hf : e.failure = some f)
    (room : Capacity) (commands : List Command) : m.proceed room commands e = m.pause e.idle := by
  simp only [proceed, hf]

theorem proceed_ok {m : Moment} {e : Effect} (hok : e.failure = none) (room : Capacity)
    (commands : List Command) : m.proceed room commands e =
      { m with activity := .commands room commands, console := e.console } := by
  simp only [proceed, hok]

end Moment

/-- A level that does to a moment so deep what happens there from one moment to the next: it comes
to the end of the line or of the commands, and what was open before is open again. -/
structure Level.Traced (s : Setting) (depth : Nat) (room : Capacity) (l : Level) : Prop where
  consume : ∀ (m : Moment) (reader : Reader) (line : Line), m.depth = depth →
    m.activity = .line room reader line → m.Leads s (m.pause (l.consume reader line m.console))
  run : ∀ (m : Moment) (commands : List Command), m.depth = depth →
    m.activity = .commands room commands → m.Leads s (m.pause (l.run commands m.console))

def TracedBelow (s : Setting) (depth : Nat) : Option (Setting → Level) → Prop
  | none => maxNesting ≤ depth
  | some l => depth < maxNesting ∧ ∀ room, (l (s.within room)).Traced s (depth + 1) room

namespace Moment

section Sources

variable {s : Setting} {m : Moment} {l : Level} {room : Capacity}

def restOfRounds (body : Console → Effect) (n : Nat) (e : Effect) : Effect :=
  match e.failure with
  | none => rounds body n e.console
  | some _ => e

theorem rounds_succ (body : Console → Effect) (n : Nat) {c : Console} (hrun : c.running = true) :
    rounds body (n + 1) c = restOfRounds body n (body c) := by
  rw [rounds, if_pos hrun]
  rfl

theorem rounds_stopped (body : Console → Effect) (n : Nat) {c : Console}
    (hrun : c.running = false) :
    rounds body n c = c.done := by
  cases n with
  | zero => rfl
  | succ n => simp [rounds, hrun]

def blockRound (l : Level) (b : Block) (c : Console) : Effect :=
  (l.readAll (fun _ f c => c.fail f) 1 .idle b.lines c).finish .openInRound

theorem again_leads {after : List Command} {body : Console → Effect} {e : Effect} {n : Nat}
    {o : Opened} {a : Activity} {c : Console} {round : Nat → Activity × Opened}
    (hconsole : e.console = c)
    (hround : ∀ k, n = k + 1 → c.running = true →
      (m.inside (round k).2 (round k).1 c).Leads s
        (m.proceed room after (rounds body (k + 1) c))) :
    ((m.inside o a c).again m.opened room after e round n).Leads s
      (m.proceed room after (restOfRounds body n e)) := by
  cases hf : e.failure with
  | some f =>
    have hleave : (m.inside o a c).again m.opened room after e round n =
        m.proceed room after e := by
      cases n with
      | zero => exact leave_inside m o a c room after e
      | succ n => simp [again, hf, leave_inside]
    rw [hleave, restOfRounds, hf]
    exact .refl
  | none =>
    obtain rfl : e = c.done := by
      obtain ⟨_, _⟩ := e
      cases hconsole
      cases hf
      rfl
    change Leads s _ (m.proceed room after (rounds body n c))
    cases n with
    | zero =>
      rw [again, leave_inside]
      exact .refl
    | succ n =>
      by_cases hrun : c.running = true
      · have hagain : (m.inside o a c).again m.opened room after c.done round (n + 1) =
            m.inside (round n).2 (round n).1 c := if_pos ⟨rfl, hrun⟩
        rw [hagain]
        exact hround n rfl hrun
      · have hagain : (m.inside o a c).again m.opened room after c.done round (n + 1) =
            m.proceed room after c.done := by
          rw [again, if_neg (fun h => hrun h.2), leave_inside]
        rw [hagain, rounds_stopped body _ (by simpa using hrun)]
        exact .refl

/-- A source of lines, open with so many lines read and such lines left, where failures are met by
`recover`: it reads its lines while the console runs, and a failure that is not recovered from makes
it close. -/
structure Reads (s : Setting) (m : Moment) (within room : Capacity)
    (source : Nat → List Line → Opened) (recover : Nat → Failure → Console → Effect)
    (after : List Command) : Prop where
  line : ∀ read reader line left c, c.running = true →
    (m.inside (source read (line :: left)) (.between reader none) c).next s =
      some (m.inside (source (read + 1) left) (.line within reader line) c)
  stopped : ∀ read reader line left c, c.running = false →
    (m.inside (source read (line :: left)) (.between reader none) c).next s =
      some (m.proceed room after c.done)
  recovers : ∀ read reader left c f, (recover read f c).failure = none →
    (m.inside (source read left) (.between reader (some f)) c).next s =
      some (m.inside (source read left) (.between reader none) (recover read f c).console)
  fails : ∀ read reader left c f f', (recover read f c).failure = some f' →
    (m.inside (source read left) (.between reader (some f)) c).next s =
      some (m.proceed room after (recover read f c))

/-- A source of lines is read to its end. -/
theorem Reads.leads {source : Nat → List Line → Opened} {after : List Command}
    {recover : Nat → Failure → Console → Effect} {within : Capacity}
    (h : Reads s m within room source recover after)
    (hl : l.Traced s (m.depth + 1) within) (rest : Progress → Effect)
    (hend : ∀ read reader c,
      (m.inside (source read []) (.between reader none) c).Leads s
        (m.proceed room after (rest ⟨reader, c, none⟩)))
    (hstopped : ∀ reader c, c.running = false → rest ⟨reader, c, none⟩ = c.done)
    (hfailing : ∀ p f, p.failure = some f → rest p = p.effect)
    (read : Nat) (reader : Reader) (left : List Line) (c : Console) :
    (m.inside (source read left) (.between reader none) c).Leads s
      (m.proceed room after (rest (l.readAll recover (read + 1) reader left c))) := by
  induction left generalizing read reader c with
  | nil => exact hend read reader c
  | cons line left ih =>
    rw [readAll_cons]
    cases hrun : c.running with
    | false =>
      simp only [Bool.false_eq_true, if_false, hstopped reader c hrun]
      exact .single (h.stopped read reader line left c hrun)
    | true =>
      simp only [if_true]
      have hread : (m.inside (source (read + 1) left) (.line within reader line) c).Leads s
          (m.inside (source (read + 1) left) (.between reader none) c |>.pause
            (l.consume reader line c)) := hl.consume _ reader line rfl rfl
      refine .head (h.line read reader line left c hrun) (hread.trans ?_)
      obtain ⟨reader', c', failure⟩ := l.consume reader line c
      cases failure with
      | none => exact ih (read + 1) reader' c'
      | some f =>
        dsimp only [Progress.meet]
        cases hmet : (recover (read + 1) f c').failure with
        | none => exact .head (h.recovers _ reader' left c' f hmet) (ih _ reader' _)
        | some f' =>
          have heffect : Progress.effect ⟨reader', (recover (read + 1) f c').console, some f'⟩ =
              recover (read + 1) f c' := by
            rw [Progress.effect, ← hmet]
          rw [hfailing _ f' rfl, heffect]
          exact .single (h.fails _ reader' left c' f f' hmet)

theorem block_reads (s : Setting) (m : Moment) (room : Capacity) (b : Block) (n : Nat)
    (after : List Command) :
    Reads s m (room.inside 1) room (fun _ left => .block room b n left after)
      (fun _ f c => c.fail f) after where
  line _ _ _ _ _ hrun := congrArg some (if_pos hrun)
  stopped _ _ _ _ c hrun := by
    rw [← leave_inside m (.block room b n _ after) (.between _ none) c]
    exact congrArg some (if_neg (Bool.eq_false_iff.mp hrun))
  recovers _ _ _ _ _ h := by cases h
  fails _ _ _ c f _ _ := congrArg some (leave_inside m _ _ c room [] (c.fail f))

theorem file_reads (s : Setting) (m : Moment) (room : Capacity) (path : List Char)
    (after : List Command) :
    Reads s m (room.inside 3) room (fun read left => .file room path read left after)
      (reportAt path) after where
  line _ _ _ _ _ hrun := congrArg some (if_pos hrun)
  stopped read _ _ _ c hrun := by
    rw [← leave_inside m (.file room path read _ after) (.between _ none) c]
    exact congrArg some (if_neg (Bool.eq_false_iff.mp hrun))
  recovers read reader left c f h := by
    unfold reportAt at h ⊢
    cases hf : f.isReported with
    | false => simp [hf, Console.fail] at h
    | true => exact congrArg some (if_pos hf)
  fails read reader left c f f' h := by
    unfold reportAt at h ⊢
    cases hf : f.isReported with
    | true => simp [hf, Console.done] at h
    | false =>
      have hmeet := leave_inside m (.file room path read left after) (.between reader (some f)) c
        room [] (c.fail f)
      exact congrArg some ((if_neg (by simp [hf])).trans hmeet)

/-- The lines of a round of a block are read to their end, and the rounds that are left follow. -/
theorem round_leads (hl : l.Traced s (m.depth + 1) (room.inside 1)) {b : Block}
    {after : List Command} {n : Nat}
    (hround : ∀ k c, n = k + 1 → c.running = true →
      (m.inside (.block room b k b.lines after) (.between .idle none) c).Leads s
        (m.proceed room after (rounds (blockRound l b) (k + 1) c)))
    (reader : Reader) (left : List Line) (c : Console) :
    (m.inside (.block room b n left after) (.between reader none) c).Leads s
      (m.proceed room after (restOfRounds (blockRound l b) n
        ((l.readAll (fun _ f c => c.fail f) 1 reader left c).finish .openInRound))) := by
  refine (block_reads s m room b n after).leads hl
    (fun p => restOfRounds (blockRound l b) n (p.finish .openInRound)) ?_ ?_ ?_ 0 reader left c
  · intro _ reader c
    exact .head rfl (again_leads (finish_console _ _) fun k hk hrun => hround k c hk hrun)
  · intro reader c hrun
    simp [Progress.finish, hrun, restOfRounds, done, rounds_stopped]
  · intro p f hf
    simp [Progress.finish, hf, restOfRounds, Progress.effect]

/-- A block is gone through to the end of its rounds. -/
theorem block_leads (hl : l.Traced s (m.depth + 1) (room.inside 1)) (b : Block)
    (after : List Command) (n : Nat) (c : Console) (hrun : c.running = true) :
    (m.inside (.block room b n b.lines after) (.between .idle none) c).Leads s
      (m.proceed room after (rounds (blockRound l b) (n + 1) c)) := by
  rw [rounds_succ _ _ hrun]
  induction n generalizing c with
  | zero => exact round_leads hl (fun k c hk => by omega) _ _ _
  | succ n ih =>
    refine round_leads hl (fun k c hk hrun => ?_) _ _ _
    obtain rfl := Nat.succ.inj hk
    rw [rounds_succ _ _ hrun]
    exact ih c hrun

/-- A file is read to its end. -/
theorem file_leads (hl : l.Traced s (m.depth + 1) (room.inside 3)) (path : List Char)
    (after : List Command) (lines : List Line) (c : Console) :
    (m.inside (.file room path 0 lines after) (.between .idle none) c).Leads s (m.proceed room after
      ((l.readAll (reportAt path) 1 .idle lines c).finish (.openAtEnd path))) := by
  refine (file_reads s m room path after).leads hl (fun p => p.finish (.openAtEnd path))
    ?_ ?_ ?_ 0 .idle lines c
  · intro read reader c
    exact .single (congrArg some (leave_inside m _ _ c room after _))
  · intro reader c hrun
    simp [Progress.finish, hrun]
  · intro p f hf
    simp [Progress.finish, hf, Progress.effect]

def inlineRound (l : Level) (commands : List Command) (c : Console) : Effect :=
  (l.run commands c).finish .openInline

/-- The commands of an inline loop are carried out to the end of their round, and the rounds that
are left follow. -/
theorem inlineRound_leads (hl : l.Traced s (m.depth + 1) (room.inside 1))
    {commands : List Command} {n : Nat}
    (hround : ∀ k c, n = k + 1 → c.running = true →
      (m.inside (.inline room k commands) (.commands (room.inside 1) commands) c).Leads s
        (m.proceed room [] (rounds (inlineRound l commands) (k + 1) c)))
    (c : Console) :
    (m.inside (.inline room n commands) (.commands (room.inside 1) commands) c).Leads s
      (m.proceed room [] (restOfRounds (inlineRound l commands) n (inlineRound l commands c))) := by
  have hrun : (m.inside (.inline room n commands) (.commands (room.inside 1) commands) c).Leads s
      ((m.inside (.inline room n commands) (.between .idle none) c).pause (l.run commands c)) :=
    hl.run _ commands rfl rfl
  refine hrun.trans ?_
  unfold inlineRound
  obtain ⟨reader, c', failure⟩ := l.run commands c
  cases failure with
  | none => exact .head rfl (again_leads (finish_console _ _) fun k hk => hround k c' hk)
  | some f => exact .single (congrArg some (leave_inside m _ _ c' room [] (c'.fail f)))

/-- An inline loop is gone through to the end of its rounds. -/
theorem inline_leads (hl : l.Traced s (m.depth + 1) (room.inside 1)) (commands : List Command)
    (n : Nat) (c : Console) (hrun : c.running = true) :
    (m.inside (.inline room n commands) (.commands (room.inside 1) commands) c).Leads s
      (m.proceed room [] (rounds (inlineRound l commands) (n + 1) c)) := by
  rw [rounds_succ _ _ hrun]
  induction n generalizing c with
  | zero => exact inlineRound_leads hl (fun k c hk => by omega) c
  | succ n ih =>
    refine inlineRound_leads hl (fun k c hk hrun => ?_) c
    obtain rfl := Nat.succ.inj hk
    rw [rounds_succ _ _ hrun]
    exact ih c hrun

end Sources

section Levels

variable {s : Setting} {below : Option (Setting → Level)} {room : Capacity}

/-- What is about to be opened is opened if there is a level below, and fails if there is none. -/
theorem opening_leads {m : Moment} (hbelow : TracedBelow s m.depth below) {nesting : Nesting}
    {o : Opened} {within : Capacity} {after : List Command} (body : Level → Console → Effect)
    {c : Console} (hbody : ∀ l : Level, l.Traced s (m.depth + 1) (within.inside 1) →
      (m.inside o (.between .idle none) c).Leads s (m.proceed room after (body l c))) :
    { m with activity := .opening nesting o, console := c }.Leads s
      (m.proceed room after (nested (s.within within) nesting below body c)) := by
  cases below with
  | none => exact .single (congrArg some (if_pos hbelow))
  | some l =>
    exact .head (congrArg some (if_neg (Nat.not_le.mpr hbelow.1))) (hbody _ (hbelow.2 _))

theorem replay_leads {m : Moment} (hbelow : TracedBelow s m.depth below) (b : Block)
    (after : List Command) (c : Console) :
    { m with
      activity := .opening .loop (.block room b b.rounds [] after)
      console := c.note (.replaying b.lines.length b.rounds) }.Leads s
        (m.proceed room after (replay (s.within room) below b c)) := by
  refine opening_leads hbelow (fun l => rounds (blockRound l b) b.rounds) fun l hl => ?_
  have hrounds := round_leads hl (n := b.rounds)
    (fun k c _ hrun => block_leads hl b after k c hrun)
    .idle [] (c.note (.replaying b.lines.length b.rounds))
  rwa [Level.readAll, finish_idle] at hrounds

theorem repeatInline_leads {m : Moment} (hbelow : TracedBelow s m.depth below) (count : Nat)
    (commands : List Command) (c : Console) :
    { m with activity := .opening .loop (.inline room count commands), console := c }.Leads s
      (m.proceed room [] (repeatInline (s.within room) below count commands c)) := by
  refine opening_leads hbelow (fun l => rounds (inlineRound l commands) count) fun l hl => ?_
  have hrounds : ((m.inside (.inline room count commands) (.between .idle none) c).again m.opened
      room [] c.done (fun n => (.commands (room.inside 1) commands, .inline room n commands))
        count).Leads s
        (m.proceed room [] (rounds (inlineRound l commands) count c)) :=
    again_leads rfl fun k _ hrun => inline_leads hl commands k c hrun
  refine .head (congrArg some ?_) hrounds
  rw [goOn, ← finish_idle c .openInline]
  rfl

theorem load_leads {m : Moment} (hbelow : TracedBelow s m.depth below) {path : List Char}
    {lines : List Line} (hlines : Files.readLines s.reading path = .ok lines)
    (after : List Command) (c : Console) :
    { m with
      activity := .opening .load (.file room path 0 lines after)
      console := c.note (.loading path) }.Leads s
        (m.proceed room after (load (s.within (room.inside 2)) below path c)) := by
  unfold load
  have hlines' : Files.readLines (s.within (room.inside 2)).reading path = .ok lines := hlines
  simp only [hlines']
  exact opening_leads hbelow _ fun l hl => file_leads hl path after lines _

/-- Where commands come to their end, so does what they follow. -/
theorem proceed_leads {m : Moment} {commands : List Command}
    (hcommands : ∀ m' : Moment, m'.depth = m.depth → m'.activity = .commands room commands →
      m'.Leads s (m'.pause (runCommands (s.within room) below commands m'.console))) (e : Effect) :
    (m.proceed room commands e).Leads s
      (m.pause (match e.failure with
        | none => runCommands (s.within room) below commands e.console
        | some _ => e.idle)) := by
  cases hf : e.failure with
  | none =>
    rw [proceed_ok hf]
    exact hcommands { m with activity := .commands room commands, console := e.console } rfl rfl
  | some f =>
    rw [proceed_failing hf]
    exact .refl

/-- Commands of an inline loop are the last ones of their line. -/
theorem proceed_nil_leads (m : Moment) (e : Effect) :
    (m.proceed room [] e).Leads s (m.pause e.idle) := by
  cases hf : e.failure with
  | none =>
    rw [proceed_ok hf, Effect.idle, hf]
    exact .single rfl
  | some f =>
    rw [proceed_failing hf]
    exact .refl

/-- A command that is not a loop is carried out before those behind it. -/
theorem perform_leads {m : Moment} (hbelow : TracedBelow s m.depth below) {command : Command}
    (hplain : ∀ count, command ≠ .loop count) (rest : List Command)
    (hactivity : m.activity = .commands room (command :: rest))
    (hrun : m.console.running = true) :
    m.Leads s (m.proceed room rest (perform (s.within room) below m.console command)) := by
  have hnext : m.next s = some (m.carryOut s room (command :: rest)) := by
    simp only [next, hactivity]
  cases command with
  | loop count => exact absurd rfl (hplain count)
  | load path =>
    simp only [carryOut, if_pos hrun] at hnext
    change m.Leads s (m.proceed room rest (load (s.within (room.inside 2)) below path m.console))
    cases hlines : Files.readLines s.reading path with
    | error fault =>
      have hlines' : Files.readLines (s.within (room.inside 2)).reading path = .error fault :=
        hlines
      simp only [hlines] at hnext
      simp only [load, hlines']
      exact .single hnext
    | ok lines =>
      simp only [hlines] at hnext
      exact .head hnext (load_leads hbelow hlines rest m.console)
  | close | tag _ | goto _ | untag _ | list | display _ | go | reset | help | quit =>
    simp only [carryOut, if_pos hrun] at hnext
    exact .single hnext

/-- Commands are carried out to the end of their line. -/
theorem runCommands_leads (commands : List Command) (m : Moment)
    (hbelow : TracedBelow s m.depth below) (hactivity : m.activity = .commands room commands) :
    m.Leads s (m.pause (runCommands (s.within room) below commands m.console)) := by
  have hnext : m.next s = some (m.carryOut s room commands) := by
    simp only [next, hactivity]
  generalize hconsole : m.console = c
  fun_induction runCommands (s.within room) below commands c generalizing m with
  | case1 c =>
    rw [carryOut, hconsole] at hnext
    exact .single hnext
  | case2 c hrun count =>
    simp only [carryOut, hconsole, if_pos hrun] at hnext
    exact .single hnext
  | case3 c hrun count rest hne =>
    subst hconsole
    cases rest with
    | nil => exact absurd rfl hne
    | cons command rest =>
      simp only [carryOut, if_pos hrun] at hnext
      exact .head hnext ((repeatInline_leads hbelow _ _ _).trans (proceed_nil_leads m _))
  | case4 c hrun command rest _ hplain e hok ih =>
    subst hconsole
    refine (perform_leads hbelow hplain rest hactivity hrun).trans ?_
    rw [proceed_ok hok]
    exact ih { m with activity := .commands room rest, console := e.console } hbelow rfl rfl rfl
  | case5 c hrun command rest _ hplain e f hfailed =>
    subst hconsole
    refine (perform_leads hbelow hplain rest hactivity hrun).trans ?_
    rw [proceed_failing hfailed]
  | case6 command rest c hrun =>
    simp only [carryOut, hconsole, if_neg hrun] at hnext
    exact .single hnext

theorem takeFirst_leads {m : Moment} (hbelow : TracedBelow s m.depth below) {line : Line}
    (hactivity : m.activity = .line room .idle line) :
    m.Leads s (m.pause (takeFirst (s.within room) below line m.console)) := by
  have hnext : m.next s = some (m.read s room .idle line) := by
    simp only [next, hactivity]
  unfold read at hnext
  unfold takeFirst
  by_cases hblank : Text.trim line = []
  · simp only [if_pos hblank] at hnext ⊢
    exact .single hnext
  · by_cases hdirective : isDirective line = true
    · simp only [if_neg hblank, if_pos hdirective] at hnext ⊢
      cases hread : Console.commands line with
      | error fault =>
        simp only [hread] at hnext ⊢
        exact .single hnext
      | ok commands =>
        simp only [hread] at hnext ⊢
        exact .head hnext
          (runCommands_leads commands { m with activity := .commands (room.inside 1) commands }
            hbelow rfl)
    · simp only [if_neg hblank, if_neg hdirective] at hnext ⊢
      exact .single hnext

theorem closeBlock_leads {m : Moment} (hbelow : TracedBelow s m.depth below) {b : Block}
    {line : Line} (hactivity : m.activity = .line room (.capturing b) line)
    (hcapture : b.capture? line = none) :
    m.Leads s (m.pause (closeBlock (s.within (room.inside 1)) below b line m.console)) := by
  have hnext : m.next s = some (m.read s room (.capturing b) line) := by
    simp only [next, hactivity]
  unfold read at hnext
  unfold closeBlock
  simp only [hcapture] at hnext
  cases hread : Console.commands line with
  | error fault =>
    simp only [hread] at hnext ⊢
    exact .single hnext
  | ok commands =>
    simp only [hread] at hnext ⊢
    refine .head hnext ((replay_leads hbelow b _ m.console).trans ?_)
    exact proceed_leads (fun m' hdepth hactivity' =>
      runCommands_leads _ m' (hdepth ▸ hbelow) hactivity') _

/-- A line is read to its end. -/
theorem consumeLine_leads (m : Moment) (hbelow : TracedBelow s m.depth below) (reader : Reader)
    (line : Line) (hactivity : m.activity = .line room reader line) :
    m.Leads s (m.pause (consumeLine (s.within room) below reader line m.console)) := by
  have hnext : m.next s = some (m.read s room reader line) := by
    simp only [next, hactivity]
  cases reader with
  | idle => exact takeFirst_leads hbelow hactivity
  | unfinished lines => exact .single hnext
  | capturing b =>
    unfold read at hnext
    unfold consumeLine
    dsimp only at hnext ⊢
    cases hcapture : b.capture? line with
    | some b =>
      simp only [hcapture] at hnext ⊢
      exact .single hnext
    | none => exact closeBlock_leads hbelow hactivity hcapture

end Levels

end Moment

/-- A level with so many below it comes to the end of lines and commands as deep as the levels that
are missing to the cap. -/
theorem level_traced (s : Setting) (n depth : Nat) (h : depth + n = maxNesting)
    (room : Capacity) : (level (s.within room) n).Traced s depth room := by
  have hover (depth : Nat) (below : Option (Setting → Level)) (hbelow : TracedBelow s depth below)
      (room : Capacity) : (levelOver (s.within room) below).Traced s depth room :=
    ⟨fun m reader line hdepth => Moment.consumeLine_leads m (hdepth ▸ hbelow) reader line,
      fun m commands hdepth => Moment.runCommands_leads commands m (hdepth ▸ hbelow)⟩
  induction n generalizing depth room with
  | zero => exact hover depth none (Nat.le_of_eq h.symm) room
  | succ n ih => exact hover depth (some _) ⟨by omega, ih (depth + 1) (by omega)⟩ room

namespace Moment

variable {s : Setting}

/-- There is only one way to go on, so that all moments on the way lead to the last one. -/
theorem leads_last {m m' last : Moment} (hlast : last.next s = none) (h : m.Leads s last)
    (h' : m.Leads s m') : m'.Leads s last := by
  have hunique : Relator.RightUnique fun m m' : Moment => m.next s = some m' :=
    fun _ _ _ h h' => Option.some.inj (h.symm.trans h')
  rcases h.total_of_right_unique hunique h' with hback | hforth
  · rcases hback.cases_head with rfl | ⟨m'', hnext, _⟩
    · exact .refl
    · rw [hlast] at hnext
      cases hnext
  · exact hforth

def beginning (s : Setting) (line : Line) (p : Prompt) : Moment :=
  ⟨.line s.room p.reader line, [], 0, p.console⟩

def ending (p : Prompt × Option Failure) : Moment :=
  ⟨.between p.1.reader p.2, [], 0, p.1.console⟩

theorem beginning_leads (s : Setting) (p : Prompt) (line : Line) :
    (beginning s line p).Leads s (ending (p.execute s line)) :=
  (level_traced s maxNesting 0 (Nat.zero_add _) s.room).consume (beginning s line p) p.reader line
    rfl rfl

end Moment

/-- Whatever is in the files, a line at the prompt comes to an end: from one moment to the next it
leads to what the prompt makes of it, with nothing open, and there it stops. At every moment on the
way the counter is the number of what is open, which is at most the cap; what is to be opened beyond
the cap fails at once; and a line inside, however it ends, leaves open what was open before. -/
theorem line_ends (s : Setting) (p : Prompt) (line : Line) :
    (Moment.beginning s line p).Leads s (Moment.ending (p.execute s line)) ∧
    (Moment.ending (p.execute s line)).next s = none ∧
    ∀ m, (Moment.beginning s line p).Leads s m →
      m.Leads s (Moment.ending (p.execute s line)) ∧
      m.depth = m.opened.length ∧ m.opened.length ≤ maxNesting ∧
      (∀ nesting o, m.activity = .opening nesting o → m.opened.length = maxNesting →
        m.next s = some (m.pause ⟨.idle, m.console, some (.tooDeep nesting)⟩) ∧
        (Failure.tooDeep nesting).label = "LoopError") ∧
      ∀ room reader line, m.activity = .line room reader line →
        m.Leads s (m.pause
          ((level (s.within room) (maxNesting - m.depth)).consume reader line m.console)) := by
  have hends := Moment.beginning_leads s p line
  have hlast : (Moment.ending (p.execute s line)).next s = none := rfl
  refine ⟨hends, hlast, fun m hm => ?_⟩
  have hbegins : (Moment.beginning s line p).Counted := ⟨rfl, Nat.zero_le _⟩
  have hcounted := hbegins.leads hm
  refine ⟨Moment.leads_last hlast hends hm, hcounted.depth, hcounted.depth ▸ hcounted.capped,
    fun nesting o hactivity hfull => ⟨?_, rfl⟩, fun room reader line hactivity => ?_⟩
  · have henter : m.enter nesting o = m.pause ⟨.idle, m.console, some (.tooDeep nesting)⟩ :=
      if_pos (Nat.le_of_eq (hfull.symm.trans hcounted.depth.symm))
    simp only [Moment.next, hactivity, henter]
  · have hlevel := level_traced s (maxNesting - m.depth) m.depth
      (Nat.add_sub_of_le hcounted.capped) room
    exact hlevel.consume m reader line rfl hactivity

/-- A file that loads itself: the last load that the cap admits reports the one beyond it, and all
of them are left again. -/
theorem self_loading_file_ends :
    let s : Setting := ⟨fun _ => .ok (":load f".toList.map fun ch => ch.toNat.toUInt8), fun _ => 0⟩
    let p := Prompt.start.execute s ":load f".toList
    p.2 = none ∧ p.1.reader = .idle ∧ p.1.console.tally Event.isCapped = 1 ∧
      (Moment.beginning s ":load f".toList .start).Leads s (Moment.ending p) := by
  intro s p
  have hends := (line_ends s .start ":load f".toList).1
  exact ⟨by decide +kernel, by decide +kernel, by decide +kernel, hends⟩

end CircuitConsole.Console
