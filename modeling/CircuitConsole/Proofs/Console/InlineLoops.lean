import CircuitConsole.Proofs.Console.ClosedBlocks
import CircuitConsole.Proofs.Console.FailingLines
import CircuitConsole.Proofs.Console.Limits
import CircuitConsole.Proofs.Console.SignedLines
import CircuitConsole.Proofs.Console.StraightLines

/-!
Inline loops. A line of commands behind a loop command on the same line does what it does as the
only line of a loop block: the block reads the line again in each round, but with the same commands,
at a level just as deep, and neither leaves anything open. What is read in the block is two calls
further in, so that an expression may be nested too deep for the block alone.
-/

namespace CircuitConsole.Console

open Moment

section Reading

variable {line : Line} {ks : List Command}

theorem isDirective_of_ne_nil (hread : commands line = .ok ks) (hne : ks ≠ []) :
    isDirective line = true := by
  refine isDirective_of_commands hread fun hblank => hne ?_
  obtain ⟨ps, hps, hks⟩ := commands_eq_ok.mp hread
  rw [words_of_blank hblank] at hps
  obtain ⟨-, rfl⟩ := Prod.mk.inj hps
  exact (Except.ok.inj hks).symm

/-- A line whose commands do not begin with an end and do not end with a loop is no bracket. -/
theorem bracket_of_commands (hread : commands line = .ok ks) (hne : ks ≠ [])
    (hfirst : ks.head? ≠ some .close) (hlast : ∀ count, ks.getLast? ≠ some (.loop count)) :
    bracket line = .neither := by
  have hend : (phraseWords line).head? ≠ some "end".toList := by
    rw [words_of_commands hread, List.head?_map]
    intro h
    obtain ⟨k, hk, hword⟩ := Option.map_eq_some_iff.mp h
    exact hfirst (hk.trans (congrArg some (Command.word_eq_end.mp hword)))
  have hloop : (phraseWords line).getLast? ≠ some "loop".toList := by
    rw [words_of_commands hread, List.getLast?_map]
    intro h
    obtain ⟨k, hk, hword⟩ := Option.map_eq_some_iff.mp h
    obtain ⟨count, rfl⟩ := Command.word_eq_loop.mp hword
    exact hlast count hk
  rw [bracket_eq, if_pos (isDirective_of_ne_nil hread hne), if_neg hend, if_neg hloop]

end Reading

section Rounds

variable {s : Setting} {below : Option (Setting → Level)} {line : Line} {ks : List Command}

/-- Rounds that do the same on a running console are the same loop. -/
theorem rounds_congr {body body' : Console → Effect}
    (h : ∀ c : Console, c.running = true → body c = body' c) (n : Nat) (c : Console) :
    rounds body n c = rounds body' n c := by
  induction n generalizing c with
  | zero => rfl
  | succ n ih =>
    by_cases hrun : c.running = true
    · rw [rounds_succ _ _ hrun, rounds_succ _ _ hrun, h c hrun]
      simp only [restOfRounds, ih]
    · have hstopped : c.running = false := by simpa using hrun
      rw [rounds_stopped _ _ hstopped, rounds_stopped _ _ hstopped]

/-- The commands of a line are carried out one call further in. -/
theorem consume_commands (hdirective : isDirective line = true) (hread : commands line = .ok ks)
    (c : Console) :
    (levelOver s below).consume .idle line c = (levelOver (s.inside 1) below).run ks c := by
  simp only [levelOver, consumeLine, takeFirst, trim_of_isDirective hdirective, hdirective, hread,
    if_true, if_false]

/-- In a round of a block a line of commands does what the commands do in a round of an inline loop
for which there is room for one call less. -/
theorem blockRound_commands (hdirective : isDirective line = true) (hread : commands line = .ok ks)
    (hlast : ∀ count, ks.getLast? ≠ some (.loop count)) (n depth : Nat) {c : Console}
    (hrun : c.running = true) :
    blockRound (levelOver s below) ⟨n, [line], depth⟩ c =
      inlineRound (levelOver (s.inside 1) below) ks c := by
  have hidle := @reader_of_runCommands (s.inside 1) below ks hlast c
  have hread' := @consume_commands s below _ _ hdirective hread c
  unfold blockRound inlineRound
  dsimp only
  rw [readAll_singleton _ _ _ _ hrun, hread', levelOver, finish_of_idle hidle]
  exact (finish_of_idle hidle .openInline).symm

theorem replay_commands (hdirective : isDirective line = true) (hread : commands line = .ok ks)
    (hlast : ∀ count, ks.getLast? ≠ some (.loop count)) (m n depth : Nat) (c : Console) :
    replay s (some fun s => level s m) ⟨n, [line], depth⟩ c =
      rounds (inlineRound (level (s.inside 2) m) ks) n (c.note (.replaying 1 n)) := by
  obtain ⟨below, hlevel⟩ := level_eq_levelOver m
  have hround : ∀ c : Console, c.running = true →
      blockRound (level (s.inside 1) m) ⟨n, [line], depth⟩ c =
        inlineRound (level (s.inside 2) m) ks c := by
    intro c hrun
    rw [hlevel, hlevel]
    exact blockRound_commands hdirective hread hlast n depth hrun
  exact rounds_congr hround n _

theorem inlineRound_course (s : Setting) (room : Capacity) (m : Nat) (ks : List Command)
    (c : Console) :
    Course s.draws room.noCalls anyLine c (inlineRound (level (s.within room) m) ks c) :=
  have horderly := level_orderly (s := s.within room) (filesHold_any s.reading) m
    (room.noCalls_le _)
  finish_course (horderly.run ks c) rfl

/-- Rounds that meet no limit on nesting are the same where there is more room. -/
theorem inlineRounds_more {room room' : Capacity} (hroom : room ≤ room') {m n : Nat}
    {c : Console}
    (h : Within false c (rounds (inlineRound (level (s.within room) m) ks) n c)) :
    rounds (inlineRound (level (s.within room') m) ks) n c =
      rounds (inlineRound (level (s.within room) m) ks) n c := by
  refine rounds_extends (inlineRound_course s room m ks) (fun c hround => ?_) h
  unfold inlineRound
  rw [(level_extends s hroom (.inl rfl)).run ks c (finish_within hround)]

end Rounds

variable {s : Setting} {p : Prompt} {count : Count} {line : Line} {ks : List Command}

/-- A loop command with commands behind it repeats them at an idle prompt. -/
theorem feed_inline (hread : commands line = .ok ks) (hne : ks ≠ []) {c : Console}
    (hrun : c.running = true) {e : Effect}
    (he : rounds (inlineRound (level (s.inside 2) (maxNesting - 1)) ks) count.value c = e) :
    Prompt.feed s (Command.text (.loop count) ++ ' ' :: line) ⟨.idle, c⟩ =
      Prompt.settle ⟨.idle, e.console⟩ e.failure := by
  have hcommands : commands (Command.text (.loop count) ++ ' ' :: line) = .ok (.loop count :: ks) :=
    commands_append (Command.commands_loop count) hread (by decide)
  have hconsumed := @consume_commands s (some fun s => level s (maxNesting - 1)) _ _
    (isDirective_marked _) hcommands c
  refine @Prompt.feed_eq s ⟨_, _⟩ _ e.idle (hconsumed.trans ?_)
  rw [← he]
  exact runCommands_inline hrun hne count

/-- A block of one line of commands repeats them with less room. -/
theorem answers_single_line (hread : commands line = .ok ks) (hne : ks ≠ [])
    (hfirst : ks.head? ≠ some .close) (hlast : ∀ count, ks.getLast? ≠ some (.loop count))
    {c : Console} (hrun : c.running = true) {e : Effect}
    (he : rounds (inlineRound (level (s.inside 4) (maxNesting - 1)) ks) count.value
      ((c.note (.capturing count.value)).note (.replaying 1 count.value)) = e) :
    Prompt.answers s ((loopBlock count [line]).map .line) ⟨.idle, c⟩ =
      ((Prompt.settle ⟨.idle, e.console⟩ e.failure).1,
        [none, none, (Prompt.settle ⟨.idle, e.console⟩ e.failure).2]) := by
  have hbalanced : Balanced [line] := by
    rw [Balanced, nesting_cons, bracket_of_commands hread hne hfirst hlast]
    rfl
  have hreplay := @replay_commands (s.inside 2) line ks (isDirective_of_ne_nil hread hne) hread
    hlast (maxNesting - 1) count.value 0 (c.note (.capturing count.value))
  rw [Setting.inside_inside, he] at hreplay
  exact Prompt.answers_loopBlock hbalanced hrun hreplay

/-- Commands behind a loop command on its line are carried out as on a line of their own in a loop
block, if there is enough room for these: where the block has no limit on nesting to report or to
hand on but the cap of loads and loops, both leave the same prompt, but for the two notes of the
block, and hand on the same failure. -/
theorem inline_loop_as_block {q : Prompt} {failures : List (Option Failure)}
    (hidle : p.reader = .idle) (hrun : p.console.running = true)
    (hread : commands line = .ok ks) (hne : ks ≠ [])
    (hfirst : ks.head? ≠ some .close) (hlast : ∀ count, ks.getLast? ≠ some (.loop count))
    (hblock : p.answers s ((loopBlock count [line]).map .line) = (q, failures))
    (hdeep : q.console.tally (Event.isDeep false) = p.console.tally (Event.isDeep false))
    (hescape : ∀ f, some f ∈ failures → f.isDeep false = false) :
    q.reader = .idle ∧ ∃ failure events, failures = [none, none, failure] ∧
      q.console.events = events ++ .note (.replaying 1 count.value) ::
        .note (.capturing count.value) :: p.console.events ∧
      p.feed s (Command.text (.loop count) ++ ' ' :: line) =
        (⟨.idle, { q.console with events := events ++ p.console.events }⟩, failure) := by
  obtain ⟨reader, c⟩ := p
  obtain rfl : reader = .idle := hidle
  let noted := (c.note (.capturing count.value)).note (.replaying 1 count.value)
  obtain ⟨e, he⟩ :
      ∃ e, rounds (inlineRound (level (s.inside 4) (maxNesting - 1)) ks) count.value noted = e :=
    ⟨_, rfl⟩
  obtain ⟨rfl, rfl⟩ := Prod.mk.inj
    (hblock.symm.trans (answers_single_line hread hne hfirst hlast hrun he))
  have hsteps : Steps s.draws noted e.console :=
    he ▸ (rounds_course (inlineRound_course s (s.room.inside 4) _ ks) _ _).steps
  have hwithin : Within false noted e :=
    settle_within hsteps hdeep fun f hf => hescape f (by simp [hf])
  have hinline := inlineRounds_more (s.room.inside_le_inside (by decide : 2 ≤ 4)) (he ▸ hwithin)
  have hfed := @feed_inline s count line ks hread hne noted hrun e (hinline.trans he)
  obtain ⟨events, hevents, hexchange⟩ := Prompt.exists_events_of_after
    (f := Prompt.feed s (Command.text (.loop count) ++ ' ' :: line))
    (fun earlier p => Prompt.feed_after earlier _ p) ⟨.idle, noted⟩
  have hreader : (Prompt.settle ⟨.idle, e.console⟩ e.failure).1.reader = .idle :=
    Prompt.settle_reader _ _
  rw [hfed] at hevents hexchange
  have hafter := hexchange c.events
  rw [hreader] at hafter
  exact ⟨hreader, _, events, rfl, hevents, hafter⟩

/-- In the first of three rounds an inner loop fails: its second round does not find the tag that
its first round has taken away. -/
theorem failing_round_as_block :
    let s : Setting := ⟨fun _ => .error .missing, fun _ => 0⟩
    let p := (Prompt.start.feed s "qreg q[1]; x q[0];".toList).1
    let three : Count := ⟨"3".toList, 3, by decide⟩
    let line := ":tags a :tags b :loop 2 :untag a :list".toList
    ∃ q, p.answers s ((loopBlock three [line]).map .line) = (q, [none, none, none]) ∧
      q.console.tags.length = 1 ∧ ∃ events, q.console.events =
          events ++ .note (.replaying 1 3) :: .note (.capturing 3) :: p.console.events ∧
        p.feed s (Command.text (.loop three) ++ ' ' :: line) =
          (⟨.idle, { q.console with events := events ++ p.console.events }⟩, none) := by
  intro s p three line
  have hread : commands line = .ok [.tag ['a'], .tag ['b'], .loop ⟨"2".toList, 2, by decide⟩,
    .untag ['a'], .list] := by decide
  have hidle : p.reader = .idle := by decide +kernel
  have hrun : p.console.running = true := by decide +kernel
  obtain ⟨q, hq⟩ : ∃ q, (p.answers s ((loopBlock three [line]).map .line)).1 = q := ⟨_, rfl⟩
  have hfailures : (p.answers s ((loopBlock three [line]).map .line)).2 = [none, none, none] := by
    decide +kernel
  have htags : q.console.tags.length = 1 := by
    rw [← hq]
    decide +kernel
  have hdeep : q.console.tally (Event.isDeep false) = p.console.tally (Event.isDeep false) := by
    rw [← hq]
    decide +kernel
  have hblock : p.answers s ((loopBlock three [line]).map .line) = (q, [none, none, none]) :=
    Prod.ext hq hfailures
  obtain ⟨-, failure, events, hthree, hevents, hinline⟩ :=
    inline_loop_as_block hidle hrun hread (by decide) (by decide) (fun _ => by simp) hblock hdeep
      (fun f hf => by simp at hf)
  obtain rfl : failure = none := by simpa using hthree.symm
  exact ⟨q, hblock, htags, events, hevents, hinline⟩

/-- A round of an inline loop whose only command is a load. -/
theorem inlineRound_load (path : List Char) {c : Console} (hrun : c.running = true) :
    inlineRound (level s (maxNesting - 1)) [.load path] c =
      load (s.inside 2) (some fun s => level s (maxNesting - 2)) path c := by
  have hsingle := @runCommands_single s (some fun s => level s (maxNesting - 2)) (.load path) c
    (fun count h => by cases h) hrun
  exact (congrArg (Progress.finish · .openInline) hsingle).trans (finish_of_idle rfl _)

/-- In a file that is loaded in an inline loop a call with 985 signs in its parameter is queued; if
the load is a line of a block, the file is two calls further in, and the call is refused. -/
theorem deep_call_refused_in_block :
    let s : Setting :=
      ⟨fun _ => .ok ((signedLine 985).map fun ch => ch.toNat.toUInt8), fun _ => 0⟩
    let p := (Prompt.start.feed s "qreg q[1];".toList).1
    let once : Count := ⟨"1".toList, 1, by decide⟩
    let line := ":load f".toList
    let inline := p.feed s (Command.text (.loop once) ++ ' ' :: line)
    let block := p.answers s ((loopBlock once [line]).map .line)
    p.reader = .idle ∧ p.console.running = true ∧ commands line = .ok [.load ['f']] ∧
      inline.2 = none ∧ inline.1.console.workspace.queue.length = 1 ∧
      block.2 = [none, none, none] ∧ block.1.console.workspace.queue.length = 0 := by
  intro s p once line inline block
  have hidle : p.reader = .idle := by decide +kernel
  have hrun : p.console.running = true := by decide +kernel
  have hread : commands line = .ok [.load ['f']] := by decide +kernel
  have hlines : Files.readLines s.reading ['f'] = .ok [signedLine 985] := by decide +kernel
  have hqubit : p.console.workspace.quantum = [⟨"q", 0, 1⟩] := by decide +kernel
  have hempty : p.console.workspace.queue = [] := by decide +kernel
  have hprompt : p = ⟨.idle, p.console⟩ := by
    rw [← hidle]
  obtain ⟨c, hload, hrunning, hqueue⟩ := load_signedLine (s := (s.inside 2).inside 2)
    (l := fun s => level s (maxNesting - 2)) rfl hrun hqubit (by decide) (by decide) hlines
    (by decide)
  have hinline : inline = (⟨.idle, c⟩, none) := by
    have hround : rounds (inlineRound (level (s.inside 2) (maxNesting - 1)) [.load ['f']])
        once.value p.console = c.done := by
      rw [show once.value = 0 + 1 from rfl, rounds_succ _ _ hrun, inlineRound_load _ hrun, hload]
      rfl
    change p.feed s _ = _
    rw [hprompt]
    exact feed_inline hread (by decide) hrun hround
  let noted := (p.console.note (.capturing 1)).note (.replaying 1 1)
  let refused := (noted.note (.loading ['f'])).emit
    (.report (some ⟨['f'], 1⟩) (.statement (.expression .tooDeep)))
  have hnoted : noted.running = true := hrun
  have hblock : block = (⟨.idle, refused⟩, [none, none, none]) := by
    have hrefused := load_signedLine_refused (s := (s.inside 4).inside 2) (c := noted)
      (l := fun s => level s (maxNesting - 2)) rfl hnoted hqubit (by decide) (by decide)
      hlines (by decide) (by decide)
    have hround : rounds (inlineRound (level (s.inside 4) (maxNesting - 1)) [.load ['f']])
        once.value noted = refused.done := by
      rw [show once.value = 0 + 1 from rfl, rounds_succ _ _ hnoted, inlineRound_load _ hnoted,
        hrefused]
      rfl
    change p.answers s _ = _
    rw [hprompt]
    exact answers_single_line hread (by decide) (by decide) (fun _ => by simp) hrun hround
  rw [hinline, hblock]
  refine ⟨hidle, hrun, hread, rfl, ?_, rfl, ?_⟩
  · rw [hqueue, hempty]
    rfl
  · exact congrArg List.length hempty

end CircuitConsole.Console
