import CircuitConsole.Proofs.Console.Feeding
import CircuitConsole.Proofs.Console.Limits
import CircuitConsole.Proofs.Console.SignedLines

/-!
Loading a file is typing its lines, if there is enough room. The lines of a file are read one level
further down, by a reader of their own, and their failures are reported with their place. Otherwise
they do what they do at the prompt, up to the line that stops the console. There is less room for
them than at the prompt, so that an expression may be nested too deep for a file alone.
-/

namespace CircuitConsole.Console

/-- What a line does to the world: its events, the latest first, and the failure it ends with. -/
structure Written where
  events : List Event
  failure : Option Failure
  deriving DecidableEq, Repr

def Written.all (origin : Option Origin) (w : Written) : List Event :=
  match w.failure with
  | none => w.events
  | some f => .report origin f :: w.events

def transcript (origin : Nat → Option Origin) : Nat → List Written → List Event
  | _, [] => []
  | number, w :: ws => transcript origin (number + 1) ws ++ w.all (origin number)

def Event.output? : Event → Option String
  | .output text => some text
  | _ => none

def outputs (c : Console) : List String := c.events.filterMap Event.output?

/-- Lines typed one after the other, up to the one that stops the console. Each of them returns to
the prompt, its failure being reported if it has one. -/
inductive Typed (s : Setting) : List Line → Prompt → List Written → Prompt → Prop
  | nil (p : Prompt) : Typed s [] p [] p
  | stopped (lines : List Line) {p : Prompt} (hstop : p.console.running = false) :
      Typed s lines p [] p
  | line {line : Line} {lines : List Line} {p q r : Prompt} {w : Written} {ws : List Written}
      (hrun : p.console.running = true) (hfeed : p.feed s line = (q, none))
      (hfailure : (p.execute s line).2 = w.failure)
      (hevents : q.console.events = w.all none ++ p.console.events)
      (hrest : Typed s lines q ws r) : Typed s (line :: lines) p (w :: ws) r

/-- A report with a place begins with it and goes on like one without. -/
theorem reportText_located (path : List Char) (number : Nat) (f : Failure) :
    reportText false (some ⟨path, number⟩) f =
      s!"{String.ofList path}:{number}: " ++ reportText false none f := by
  simp [reportText, ToString.toString, String.append_assoc]

section Typing

variable {s : Setting} {lines : List Line} {p q : Prompt} {ws : List Written}

theorem Typed.events (h : Typed s lines p ws q) (number : Nat) :
    q.console.events = transcript (fun _ => none) number ws ++ p.console.events := by
  induction h generalizing number with
  | nil p => rfl
  | stopped => rfl
  | line _ _ _ hevents _ ih =>
    rw [ih (number + 1), hevents, ← List.append_assoc]
    rfl

/-- Lines that leave something open have not stopped the console. -/
theorem Typed.running_of_open (h : Typed s lines p ws q)
    (hp : p.reader ≠ .idle → p.console.running = true) (hq : q.reader ≠ .idle) :
    q.console.running = true := by
  induction h with
  | nil p => exact hp hq
  | stopped => exact hp hq
  | line hrun hfeed _ _ _ ih =>
    refine ih (fun hopen => ?_) hq
    have hafter := Prompt.running_of_feed_open (s := s) hrun (by rwa [hfeed])
    rwa [hfeed] at hafter

/-- The places of reports do not show in the output. -/
theorem transcript_outputs (origin origin' : Nat → Option Origin) (number : Nat)
    (ws : List Written) :
    (transcript origin number ws).filterMap Event.output? =
      (transcript origin' number ws).filterMap Event.output? := by
  induction ws generalizing number with
  | nil => rfl
  | cons w ws ih =>
    have hall : (w.all (origin number)).filterMap Event.output? =
        (w.all (origin' number)).filterMap Event.output? := by
      unfold Written.all
      cases w.failure <;> rfl
    rw [transcript, transcript, List.filterMap_append, List.filterMap_append, ih, hall]

end Typing

section Located

variable {s : Setting} {path : List Char} {room : Capacity}

/-- A line of a file, one level down, and the same line at the prompt do the same to the world,
apart from what was written before. -/
theorem consume_shared (hroom : room ≤ s.room) {reader : Reader} {line : Line} {c : Console}
    {earlier : List Event}
    (hwithin : Within true { c with events := earlier }
      ((level (s.within room) (maxNesting - 1)).consume reader line
        { c with events := earlier }).effect) :
    ∃ n : Progress, (level (s.within room) (maxNesting - 1)).consume reader line
        { c with events := earlier } = n.after earlier ∧
      (top s).consume reader line c = n.after c.events := by
  obtain ⟨n, hn⟩ : ∃ n, (level (s.within room) (maxNesting - 1)).consume reader line c.silent = n :=
    ⟨_, rfl⟩
  have hafter (others : List Event) : (level (s.within room) (maxNesting - 1)).consume reader line
      { c with events := others } = n.after others := by
    rw [← hn]
    exact (level_forgetful _ _).consume others reader line c.silent
  refine ⟨n, hafter earlier, ?_⟩
  rw [hafter earlier] at hwithin
  have hsilent : Within true (c.silent.after earlier) (n.effect.after earlier) := hwithin
  have hlater : Within true c (n.after c.events).effect := hsilent.after c.events
  rw [← hafter c.events] at hlater ⊢
  exact (level_extends s hroom (.inr ⟨by decide, rfl⟩)).consume reader line c hlater

theorem file_orderly (s : Setting) (room : Capacity) :
    (level (s.within room) (maxNesting - 1)).Orderly s.draws room.noCalls anyLine :=
  level_orderly (s := s.within room) (filesHold_any s.reading) _ (room.noCalls_le _)

/-- A line of a file does what it does at the prompt, but for the place of its report. -/
theorem typed_line (hroom : room ≤ s.room) {number : Nat} {reader : Reader} {line : Line}
    {c : Console} {earlier : List Event} {m : Progress}
    (hm : (level (s.within room) (maxNesting - 1)).consume reader line
      { c with events := earlier } = m)
    (hreturn : (m.meet (reportAt path) number).failure = none)
    (hwithin : Within true { c with events := earlier } (m.meet (reportAt path) number)) :
    ∃ (w : Written) (q : Prompt), (Prompt.mk reader c).feed s line = (q, none) ∧
      ((Prompt.mk reader c).execute s line).2 = w.failure ∧
      q.console.events = w.all none ++ c.events ∧ m.reader = q.reader ∧
      (m.meet (reportAt path) number).console =
        { q.console with events := w.all (some ⟨path, number⟩) ++ earlier } := by
  have hcourse := consume_course (file_orderly s room) reader line { c with events := earlier }
  rw [hm] at hcourse
  have hline := meet_within (reportAt_recoversWithin path) hcourse hwithin
  obtain ⟨n, hn, htop⟩ := consume_shared hroom (hm ▸ hline)
  obtain rfl : m = n.after earlier := hm.symm.trans hn
  have hexecute : (Prompt.mk reader c).execute s line =
      (⟨n.reader, n.console.after c.events⟩, n.failure) := by
    simp only [Prompt.execute, htop, Progress.after]
  refine ⟨⟨n.console.events, n.failure⟩, ?_⟩
  cases hf : n.failure with
  | none =>
    refine ⟨⟨n.reader, n.console.after c.events⟩, ?_, ?_, rfl, rfl, ?_⟩
    · simp only [Prompt.feed, hexecute, hf, Prompt.settle]
    · rw [hexecute, hf]
    · simp only [Progress.meet, Progress.after, hf]
      rfl
  | some f =>
    have hmeet : (n.after earlier).meet (reportAt path) number =
        reportAt path number f (n.console.after earlier) := by
      simp only [Progress.meet, Progress.after, hf]
    have hreported : f.isReported = true := by
      by_contra hforeign
      rw [hmeet, reportAt, if_neg hforeign] at hreturn
      cases hreturn
    refine ⟨⟨n.reader, (n.console.after c.events).emit (.report none f)⟩, ?_, ?_, rfl, rfl, ?_⟩
    · simp only [Prompt.feed, hexecute, hf, Prompt.settle, if_pos hreported, Prompt.report]
    · rw [hexecute, hf]
    · rw [hmeet, reportAt, if_pos hreported]
      rfl

theorem foreign_of_meet {number : Nat} {m : Progress} {f : Failure}
    (h : (m.meet (reportAt path) number).failure = some f) : f.isReported = false := by
  unfold Progress.meet at h
  cases hfailed : m.failure with
  | none => simp [hfailed, done] at h
  | some g =>
    simp only [hfailed, reportAt] at h
    by_cases hg : g.isReported = true
    · rw [if_pos hg] at h
      cases h
    · rw [if_neg hg] at h
      obtain rfl := Option.some.inj h
      simpa using hg

/-- Only a failure that is not reported ends the reading of a file. -/
theorem foreign_of_readAll {l : Level} {number : Nat} {reader : Reader} {lines : List Line}
    {c : Console} {f : Failure}
    (h : (l.readAll (reportAt path) number reader lines c).failure = some f) :
    f.isReported = false := by
  induction lines generalizing number reader c with
  | nil => cases h
  | cons line lines ih =>
    rw [readAll_cons] at h
    by_cases hrun : c.running
    · simp only [hrun, if_true] at h
      cases hf : ((l.consume reader line c).meet (reportAt path) number).failure with
      | none =>
        simp only [hf] at h
        exact ih h
      | some g =>
        simp only [hf, Option.some.injEq] at h
        subst h
        exact foreign_of_meet hf
    · simp only [hrun] at h
      cases h

/-- The lines of a file do what they do at the prompt, but for the places of their reports. -/
theorem typed_of_readAll (hroom : room ≤ s.room) {number : Nat} {reader : Reader}
    {lines : List Line} {c : Console} {earlier : List Event} {m : Progress}
    (hm : (level (s.within room) (maxNesting - 1)).readAll (reportAt path) number reader lines
      { c with events := earlier } = m)
    (hreturn : m.failure = none) (hwithin : Within true { c with events := earlier } m.effect) :
    ∃ ws q, Typed s lines ⟨reader, c⟩ ws q ∧ m.reader = q.reader ∧
      m.console = { q.console with
        events := transcript (fun n => some ⟨path, n⟩) number ws ++ earlier } := by
  induction lines generalizing number reader c earlier with
  | nil =>
    subst hm
    exact ⟨[], ⟨reader, c⟩, .nil _, rfl, rfl⟩
  | cons line lines ih =>
    rw [readAll_cons] at hm
    by_cases hrun : c.running = true
    · have horderly := file_orderly s room
      obtain ⟨k, hk⟩ : ∃ k, (level (s.within room) (maxNesting - 1)).consume reader line
        { c with events := earlier } = k := ⟨_, rfl⟩
      have hline := consume_course horderly reader line { c with events := earlier }
      rw [if_pos hrun, hk] at hm
      rw [hk] at hline
      have hrecover : RecoversWithin s.draws room.noCalls true (reportAt path) :=
        reportAt_recoversWithin path
      have hmet := meet_course hrecover.course number hline
      cases hf : (k.meet (reportAt path) number).failure with
      | some f =>
        simp only [hf] at hm
        rw [← hm] at hreturn
        cases hreturn
      | none =>
        simp only [hf] at hm
        rw [← hm] at hwithin
        obtain ⟨hfirst, hlater⟩ := hwithin.parts hmet hf (readLines_course horderly hrecover)
        rw [hm] at hlater
        obtain ⟨w, q, hfeed, hfailure, hevents, hreader, hconsole⟩ :=
          typed_line hroom hk hf hfirst
        rw [hreader, hconsole] at hm
        rw [hconsole] at hlater
        obtain ⟨ws, r, htyped, hopen, hleft⟩ := ih hm hlater
        refine ⟨w :: ws, r, .line hrun hfeed hfailure hevents htyped, hopen, ?_⟩
        rw [hleft, transcript, List.append_assoc]
    · rw [if_neg hrun] at hm
      subst hm
      exact ⟨[], ⟨reader, c⟩, .stopped _ (by simpa using hrun), rfl, rfl⟩

/-- What a load leaves once it returns: the console that its lines led to, with a report if the
load failed in the end. -/
theorem feed_load_eq {p : Prompt} {line : Line} {lines : List Line} {m : Progress}
    (hidle : p.reader = .idle) (hrun : p.console.running = true)
    (hdirective : isDirective line = true) (hread : commands line = .ok [.load path])
    (hlines : Files.readLines s.reading path = .ok lines) (hreturn : (p.feed s line).2 = none)
    (hm : (level (s.inside 4) (maxNesting - 1)).readAll (reportAt path) 1 .idle lines
      (p.console.note (.loading path)) = m) :
    m.failure = none ∧ p.feed s line =
      (⟨.idle, if m.console.running && m.reader ≠ .idle
        then m.console.emit (.report none (.openAtEnd path)) else m.console⟩, none) := by
  have hplain : ∀ count, Command.load path ≠ .loop count := fun count h => by cases h
  have hload : perform (s.inside 1) (some fun s => level s (maxNesting - 1)) p.console
      (.load path) = m.finish (.openAtEnd path) := by
    rw [← hm]
    exact load_of_lines (s := (s.inside 1).inside 2) hlines p.console
  rw [Prompt.feed_command hidle hrun hdirective hread hplain, hload] at hreturn ⊢
  cases hf : m.failure with
  | some f =>
    have hforeign : f.isReported = false := foreign_of_readAll (hm ▸ hf)
    simp [Progress.finish, hf, Prompt.settle, hforeign] at hreturn
  | none =>
    refine ⟨rfl, ?_⟩
    simp only [Progress.finish, hf]
    split
    · rfl
    · rfl

end Located

/-- Loading a file does what typing its lines does, up to the line that stops the console: if the
load returns without having met a limit on nesting, be it the cap of loads and loops or the room for
an expression, then so does each of the typed lines, and the consoles differ in their events only.
These are the same, except that the lines' own reports say the place, and one report is added if
something is left open. -/
theorem load_eq_typing {s : Setting} {p : Prompt} {line : Line} {path : List Char}
    {lines : List Line} (hidle : p.reader = .idle) (hrun : p.console.running = true)
    (hdirective : isDirective line = true) (hread : commands line = .ok [.load path])
    (hlines : Files.readLines s.reading path = .ok lines) (hreturn : (p.feed s line).2 = none)
    (hdeep : (p.feed s line).1.console.tally (Event.isDeep true) =
      p.console.tally (Event.isDeep true)) :
    (∃ ws q, Typed s lines p ws q ∧
      q.console.events = transcript (fun _ => none) 1 ws ++ p.console.events ∧
      (p.feed s line).1 = ⟨.idle, { q.console with
        events := (if q.reader = .idle then [] else [.report none (.openAtEnd path)]) ++
          (transcript (fun n => some ⟨path, n⟩) 1 ws ++
            .note (.loading path) :: p.console.events) }⟩ ∧
      (p.feed s line).1.console.outputs = q.console.outputs) ∧
    (Failure.openAtEnd path).label = "LoopError" ∧
    ∀ n f, reportText false (some ⟨path, n⟩) f =
      s!"{String.ofList path}:{n}: " ++ reportText false none f := by
  obtain ⟨m, hm⟩ : ∃ m, (level (s.inside 4) (maxNesting - 1)).readAll (reportAt path) 1 .idle lines
    (p.console.note (.loading path)) = m := ⟨_, rfl⟩
  obtain ⟨hreturned, hfeed⟩ := feed_load_eq hidle hrun hdirective hread hlines hreturn hm
  rw [hfeed] at hdeep ⊢
  have htally : m.console.tally (Event.isDeep true) = p.console.tally (Event.isDeep true) := by
    rw [← hdeep]
    split
    · rfl
    · rfl
  have hwithin : Within true (p.console.note (.loading path)) m.effect :=
    ⟨fun f h => (by rw [Progress.effect, hreturned] at h; cases h), htally⟩
  obtain ⟨ws, q, htyped, hreader, hconsole⟩ :=
    typed_of_readAll (s.room.inside_le 4) hm hreturned hwithin
  have hp : Prompt.mk .idle p.console = p := by rw [← hidle]
  rw [hp] at htyped
  have hopen : q.reader ≠ .idle → q.console.running = true :=
    htyped.running_of_open (fun _ => hrun)
  have hleft : (if m.console.running && m.reader ≠ .idle
      then m.console.emit (.report none (.openAtEnd path)) else m.console) =
      { q.console with
        events := (if q.reader = .idle then [] else [.report none (.openAtEnd path)]) ++
          (transcript (fun n => some ⟨path, n⟩) 1 ws ++
            .note (.loading path) :: p.console.events) } := by
    rw [hreader, hconsole]
    by_cases hq : q.reader = .idle
    · simp [hq]
    · simp [hq, hopen hq, emit]
  refine ⟨⟨ws, q, htyped, htyped.events 1, by rw [hleft], ?_⟩, rfl, fun n f => ?_⟩
  · rw [hleft, outputs, outputs, htyped.events 1]
    simp only [List.filterMap_append, transcript_outputs (fun n => some ⟨path, n⟩) (fun _ => none)]
    split
    · rfl
    · rfl
  · exact reportText_located path n f

/-- A file declares a qubit, fails in its second line, and leaves a block open. Its lines are typed
with the same end, and the load reports the open block in addition. -/
theorem open_block_loaded :
    let text := "qreg q[1];\nx r;\n:loop 2\nx q;"
    let s : Setting := ⟨fun _ => .ok (text.toList.map fun ch => ch.toNat.toUInt8), fun _ => 0⟩
    let p : Prompt := (Prompt.start.feed s ":load f".toList).1
    p.console.events.head? = some (.report none (.openAtEnd ['f'])) ∧
      p.console.workspace.quantum.width = 1 ∧
      ∃ ws q, Typed s ["qreg q[1];".toList, "x r;".toList, ":loop 2".toList, "x q;".toList]
        .start ws q ∧ p.console.workspace = q.console.workspace := by
  intro text s p
  have hlines : Files.readLines s.reading ['f'] =
      .ok ["qreg q[1];".toList, "x r;".toList, ":loop 2".toList, "x q;".toList] := by
    decide +kernel
  obtain ⟨⟨ws, q, htyped, _, hfeed, _⟩, _⟩ := load_eq_typing
    (p := .start) rfl rfl (by decide +kernel : isDirective ":load f".toList = true)
    (by decide +kernel) hlines (by decide +kernel) (by decide +kernel)
  refine ⟨by decide +kernel, by decide +kernel, ws, q, htyped, ?_⟩
  exact congrArg (·.console.workspace) hfeed

/-- A call with 990 signs in its parameter is queued when it is typed. From a file it is read four
calls further in, and refused, though no load is nested too deep and the load returns. -/
theorem deep_call_refused_in_file :
    let line := signedLine 990
    let s : Setting := ⟨fun _ => .ok (line.map fun ch => ch.toNat.toUInt8), fun _ => 0⟩
    let p := (Prompt.start.feed s "qreg q[1];".toList).1
    let loaded := p.feed s ":load f".toList
    let typed := p.feed s line
    p.reader = .idle ∧ p.console.running = true ∧
      commands ":load f".toList = .ok [.load ['f']] ∧
      Files.readLines s.reading ['f'] = .ok [line] ∧ loaded.2 = none ∧ typed.2 = none ∧
      loaded.1.console.tally Event.isCapped = p.console.tally Event.isCapped ∧
      loaded.1.console.workspace.queue.length = 0 ∧ typed.1.console.workspace.queue.length = 1 := by
  intro line s p loaded typed
  have hidle : p.reader = .idle := by decide +kernel
  have hrun : p.console.running = true := by decide +kernel
  have hread : commands ":load f".toList = .ok [.load ['f']] := by decide +kernel
  have hlines : Files.readLines s.reading ['f'] = .ok [line] := by decide +kernel
  have hqubit : p.console.workspace.quantum = [⟨"q", 0, 1⟩] := by decide +kernel
  have hempty : p.console.workspace.queue = [] := by decide +kernel
  have hloaded : loaded = (⟨.idle, (p.console.note (.loading ['f'])).emit
      (.report (some ⟨['f'], 1⟩) (.statement (.expression .tooDeep)))⟩, none) := by
    have hload := load_signedLine_refused (s := (s.inside 1).inside 2)
      (l := fun s => level s (maxNesting - 1)) rfl hrun hqubit (by decide) (by decide) hlines
      (by decide) (by decide)
    refine (Prompt.feed_command hidle hrun (by decide) hread fun count h => by cases h).trans ?_
    simp only [perform, hload]
    rfl
  obtain ⟨c, haccept, -, hqueue⟩ := @accept_signedLine 990 p.console (s.room.inside 2) hqubit
    (by decide) (by decide) (by decide)
  have htyped : typed = (⟨.idle, c⟩, none) := by
    have hstatement := @consume_statement s (some fun s => level s (maxNesting - 1)) _
      (signedLine_statement 990) p.console
    rw [haccept] at hstatement
    exact Prompt.feed_eq (e := ⟨.idle, c, none⟩) (by rw [hidle, top_eq]; exact hstatement)
  rw [hloaded, htyped]
  refine ⟨hidle, hrun, hread, hlines, rfl, rfl, rfl, ?_, ?_⟩
  · exact congrArg List.length hempty
  · rw [hqueue, hempty]
    rfl

end CircuitConsole.Console
