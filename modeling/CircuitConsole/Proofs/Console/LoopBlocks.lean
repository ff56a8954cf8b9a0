import CircuitConsole.Proofs.Console.Brackets

/-!
A loop block against its lines repeated by hand. Where the count of a capturing reader comes out
even, the block does what its lines do when they are repeated, and where it does not, the block
fails or stays open.
-/

namespace CircuitConsole.Console

def loopBlock (count : Count) (lines : List Line) : List Line :=
  Command.text (.loop count) :: lines ++ [Command.text .close]

section Capturing

variable {s : Setting} {below : Option (Setting → Level)}

/-- A capturing reader takes lines that do not close the block. -/
theorem takeAll_capturing {lines : List Line} {b : Block} {depth : Nat} {c : Console}
    (h : nesting b.depth lines = some depth) (hrun : c.running = true) :
    (levelOver s below).takeAll lines ⟨.capturing b, c⟩ =
      some ⟨.capturing ⟨b.rounds, b.lines ++ lines, depth⟩, c⟩ := by
  induction lines generalizing b with
  | nil =>
    obtain rfl := Option.some.inj h
    simp [Level.takeAll]
  | cons line lines ih =>
    rw [nesting_cons] at h
    obtain ⟨next, hshift, hrest⟩ := Option.bind_eq_some_iff.mp h
    have hcapture : b.capture? line = some (b.add line next) := by rw [capture_eq, hshift]; rfl
    have htaken : (levelOver s below).consume (.capturing b) line c =
        ⟨.capturing (b.add line next), c, none⟩ := by
      simp only [levelOver, consumeLine, hcapture]
    have hlines := @ih (b.add line next) hrest
    simp only [Level.takeAll, htaken, hrun, and_self, if_true]
    simpa [Block.add] using hlines

theorem consume_loop (count : Count) {c : Console} (hrun : c.running = true) :
    (levelOver s below).consume .idle (Command.text (.loop count)) c =
      ⟨.capturing ⟨count.value, [], 0⟩, c.note (.capturing count.value), none⟩ := by
  have hdirective : isDirective (Command.text (.loop count)) = true := isDirective_marked _
  have htrim := trim_of_isDirective hdirective
  simp only [levelOver, consumeLine, takeFirst, htrim, hdirective, Command.commands_loop,
    runCommands, hrun, if_true, if_false]

/-- A loop command alone on its line opens a block. -/
theorem takeAll_loop (count : Count) (lines : List Line) {c : Console}
    (hrun : c.running = true) :
    (levelOver s below).takeAll (Command.text (.loop count) :: lines) ⟨.idle, c⟩ =
      (levelOver s below).takeAll lines
        ⟨.capturing ⟨count.value, [], 0⟩, c.note (.capturing count.value)⟩ := by
  have hnext : (c.note (.capturing count.value)).running = true := hrun
  simp only [Level.takeAll, consume_loop count hrun, hnext, and_self, if_true]

/-- The lines of a block up to its end are captured, if they are balanced. -/
theorem takeAll_captured {lines : List Line} (h : Balanced lines) (count : Count) {c : Console}
    (hrun : c.running = true) :
    (levelOver s below).takeAll (Command.text (.loop count) :: lines) ⟨.idle, c⟩ =
      some ⟨.capturing ⟨count.value, lines, 0⟩, c.note (.capturing count.value)⟩ := by
  rw [takeAll_loop count lines hrun]
  exact @takeAll_capturing s below lines ⟨count.value, [], 0⟩ 0 (c.note (.capturing count.value)) h
    hrun

/-- Where a reader is idle, a line that closes fails. -/
theorem takeAll_closing {line : Line} (h : bracket line = .closing) (lines : List Line)
    {c : Console} (hrun : c.running = true) :
    (levelOver s below).takeAll (line :: lines) ⟨.idle, c⟩ = none := by
  have hdirective := (bracket_eq_closing.mp h).1
  have htrim := trim_of_isDirective hdirective
  have hfails : ((levelOver s below).consume .idle line c).failure ≠ none := by
    simp only [levelOver, consumeLine, takeFirst, htrim, hdirective, if_true, if_false]
    cases hread : commands line with
    | error fault => simp [fail, Effect.idle]
    | ok ks =>
      obtain ⟨rest, rfl⟩ := commands_of_closing h hread
      simp [runCommands_close hrun]
  simp [Level.takeAll, hfails]

/-- Where a block may be closed, a line that closes replays it. If the replay fails, so does the
line. -/
theorem takeAll_replay_fails {line : Line} (h : bracket line = .closing) {b : Block}
    (hdepth : b.depth = 0) (lines : List Line) {c : Console}
    (hreplay : (replay (s.inside 2) below b c).failure ≠ none) :
    (levelOver s below).takeAll (line :: lines) ⟨.capturing b, c⟩ = none := by
  have hcapture : b.capture? line = none := by rw [capture_eq, h, hdepth]; rfl
  have hfails : ((levelOver s below).consume (.capturing b) line c).failure ≠ none := by
    simp only [levelOver, consumeLine, hcapture, closeBlock, Setting.inside_inside]
    cases commands line with
    | error fault => simp
    | ok ks =>
      cases hf : (replay (s.inside 2) below b c).failure with
      | none => exact absurd hf hreplay
      | some f => simp [hf, Effect.idle]
  simp [Level.takeAll, hfails]

/-- An end alone on its line replays the block. -/
theorem consume_close {b : Block} (hdepth : b.depth = 0) (c : Console) :
    (levelOver s below).consume (.capturing b) (Command.text .close) c =
      (replay (s.inside 2) below b c).idle := by
  have hbracket : bracket (Command.text .close) = .closing := by decide
  have hcapture : b.capture? (Command.text .close) = none := by
    rw [capture_eq, hbracket, hdepth]; rfl
  simp only [levelOver, consumeLine, hcapture, closeBlock, Command.commands_close,
    Setting.inside_inside]
  cases hf : (replay (s.inside 2) below b c).failure with
  | none => simp [runCommands, done, Effect.idle, hf]
  | some f => rfl

theorem takeAll_close {b : Block} (hdepth : b.depth = 0) {c c' : Console}
    (hreplay : replay (s.inside 2) below b c = c'.done) (hrun : c'.running = true) :
    (levelOver s below).takeAll [Command.text .close] ⟨.capturing b, c⟩ = some ⟨.idle, c'⟩ := by
  simp [Level.takeAll, consume_close hdepth, hreplay, Effect.idle, done, hrun]

end Capturing

section Blocks

variable {s : Setting} {count : Count} {lines : List Line} {c : Console}

theorem level_eq_levelOver (n : Nat) : ∃ below, ∀ s, level s n = levelOver s below := by
  cases n with
  | zero => exact ⟨none, fun _ => rfl⟩
  | succ n => exact ⟨some fun s => level s n, fun _ => rfl⟩

/-- A block of balanced lines does what its lines do when they are repeated, with two notes more. -/
theorem takeAll_loopBlock {p : Prompt} (hrun : c.running = true)
    (hlines : (level (s.inside 3) (maxNesting - 1)).takeRounds lines count.value ⟨.idle, c⟩ =
      some p)
    (hbalanced : Balanced lines) :
    ∃ events, p.console.events = events ++ c.events ∧
      (top s).takeAll (loopBlock count lines) ⟨.idle, c⟩ = some ⟨.idle, { p.console with
        events := events ++ .note (.replaying lines.length count.value) ::
          .note (.capturing count.value) :: c.events }⟩ := by
  have hlevel := level_forgetful (s.inside 3) (maxNesting - 1)
  obtain ⟨events, hevents, hexchange⟩ :=
    Prompt.exists_events (takeRounds_after hlevel lines count.value) hlines
  refine ⟨events, hevents, ?_⟩
  obtain ⟨_, hrunning, hrounds⟩ := rounds_of_takeRounds (hexchange
    (.note (.replaying lines.length count.value) :: .note (.capturing count.value) :: c.events))
    rfl hrun
  have hreplay : replay (s.inside 2) (some fun s => level s (maxNesting - 1))
      ⟨count.value, lines, 0⟩ (c.note (.capturing count.value)) = _ := hrounds
  rw [top_eq, loopBlock, takeAll_append, takeAll_captured hbalanced count hrun, Option.bind_some]
  exact takeAll_close rfl hreplay hrunning

/-- A block that one of its lines closes too early fails, although its lines can be repeated: where
the lines before that one leave something open, their replay fails, and elsewhere the line would fail
by itself. -/
theorem takeAll_closed_early {front back : List Line} {line : Line} {p : Prompt}
    (hfront : nesting 0 front = some 0) (hbracket : bracket line = .closing)
    (hrun : c.running = true) (hcount : 1 ≤ count.value)
    (hlines : (level (s.inside 3) (maxNesting - 1)).takeRounds (front ++ line :: back) count.value
      ⟨.idle, c⟩ = some p) :
    (top s).takeAll (loopBlock count (front ++ line :: back)) ⟨.idle, c⟩ = none := by
  obtain ⟨n, hn⟩ := Nat.exists_eq_add_of_le' hcount
  rw [hn] at hlines
  obtain ⟨_, hround, _, _⟩ := takeRounds_succ hlines
  rw [takeAll_append] at hround
  obtain ⟨m, hm, hback⟩ := Option.bind_eq_some_iff.mp hround
  have hmrun : m.console.running = true := running_of_takeAll hm hrun
  by_cases hidle : m.reader = .idle
  · obtain ⟨below, hbelow⟩ := level_eq_levelOver (maxNesting - 1)
    obtain ⟨reader, c'⟩ := m
    obtain rfl : reader = .idle := hidle
    rw [hbelow, takeAll_closing hbracket back hmrun] at hback
    cases hback
  · obtain ⟨events, _, hexchange⟩ :=
      Prompt.exists_events (takeAll_after (level_forgetful (s.inside 3) (maxNesting - 1)) front) hm
    have hreplay := @replay_of_open (s.inside 2) (fun s => level s (maxNesting - 1))
      ⟨count.value, front, 0⟩ (c.note (.capturing count.value)) _ hcount (hexchange _) hrun hidle
    have hfails : (replay (s.inside 2) (some fun s => level s (maxNesting - 1))
        ⟨count.value, front, 0⟩ (c.note (.capturing count.value))).failure ≠ none := by
      rw [hreplay]
      simp
    have hrunNote : (c.note (.capturing count.value)).running = true := hrun
    have hcaptured := @takeAll_capturing s (some fun s => level s (maxNesting - 1)) front
      ⟨count.value, [], 0⟩ 0 (c.note (.capturing count.value)) hfront hrunNote
    rw [top_eq, loopBlock, List.cons_append, takeAll_loop count _ hrun, List.append_assoc,
      List.cons_append, takeAll_append, hcaptured, Option.bind_some, List.nil_append,
      takeAll_replay_fails hbracket rfl _ hfails]

/-- The lines of a block that does not fail and is closed at its end are balanced. -/
theorem balanced_of_takeAll_loopBlock {p q : Prompt} (hrun : c.running = true)
    (hcount : 1 ≤ count.value)
    (hlines : (level (s.inside 3) (maxNesting - 1)).takeRounds lines count.value ⟨.idle, c⟩ =
      some p)
    (hblock : (top s).takeAll (loopBlock count lines) ⟨.idle, c⟩ = some q)
    (hclosed : q.reader = .idle) : Balanced lines := by
  cases hnesting : nesting 0 lines with
  | some depth =>
    cases depth with
    | zero => exact hnesting
    | succ depth =>
      -- the last end stays in the block, so that the reader goes on capturing
      have hinner : nesting 0 (lines ++ [Command.text .close]) = some depth := by
        rw [nesting_append, hnesting]
        rfl
      have hrunNote : (c.note (.capturing count.value)).running = true := hrun
      rw [top_eq, loopBlock, List.cons_append, takeAll_loop count _ hrun,
        @takeAll_capturing s _ _ ⟨count.value, [], 0⟩ _ _ hinner hrunNote] at hblock
      rw [← Option.some.inj hblock] at hclosed
      cases hclosed
  | none =>
    obtain ⟨front, line, back, rfl, hfront, hbracket⟩ := exists_closing hnesting
    rw [takeAll_closed_early hfront hbracket hrun hcount hlines] at hblock
    cases hblock

/-- A block of lines is taken as the lines are when they are repeated, in all but two notes, if and
only if they are balanced; any other block fails or stays open. Here the lines can be repeated so
many times over from an idle reader without a failure, and one level fewer makes no difference to
that. -/
theorem loopBlock_iff_balanced {p p' : Prompt} (hidle : p.reader = .idle)
    (hrun : p.console.running = true) (hcount : 1 ≤ count.value)
    (hlines : (top s).takeRounds lines count.value p = some p')
    (hspare : (level (s.inside 3) (maxNesting - 1)).takeRounds lines count.value p =
      (top s).takeRounds lines count.value p) (q : Prompt) :
    ((top s).takeAll (loopBlock count lines) p = some q ∧ q.reader = .idle) ↔
      Balanced lines ∧ ∃ events, p'.console.events = events ++ p.console.events ∧
        q = ⟨.idle, { p'.console with
          events := events ++ .note (.replaying lines.length count.value) ::
            .note (.capturing count.value) :: p.console.events }⟩ := by
  obtain ⟨reader, c⟩ := p
  obtain rfl : reader = .idle := hidle
  have hbelow := hspare.trans hlines
  constructor
  · rintro ⟨hblock, hclosed⟩
    have hbalanced := balanced_of_takeAll_loopBlock hrun hcount hbelow hblock hclosed
    obtain ⟨events, hevents, htaken⟩ := takeAll_loopBlock hrun hbelow hbalanced
    exact ⟨hbalanced, events, hevents, Option.some.inj (hblock.symm.trans htaken)⟩
  · rintro ⟨hbalanced, events, hevents, rfl⟩
    obtain ⟨events', hevents', htaken⟩ := takeAll_loopBlock hrun hbelow hbalanced
    obtain rfl : events = events' := List.append_cancel_right (hevents.symm.trans hevents')
    exact ⟨htaken, rfl⟩

/-- A block in a block, closed by a line that goes on, taken twice over: six flips are queued. -/
theorem inner_block_repeated :
    let s : Setting := ⟨fun _ => .error .missing, fun _ => 0⟩
    let p := (Prompt.start.feed s "qreg q[1];".toList).1
    let lines := [":loop 3".toList, "x q[0];".toList, ":end :list".toList]
    ∃ q, (top s).takeAll (loopBlock ⟨"2".toList, 2, by decide⟩ lines) p = some q ∧
      q.reader = .idle ∧ q.console.workspace.queue.length = 6 := by
  intro s p lines
  have hspare : (level (s.inside 3) (maxNesting - 1)).takeRounds lines 2 p =
      (top s).takeRounds lines 2 p := by
    decide +kernel
  let p' := ((top s).takeRounds lines 2 p).getD p
  have hlines : (top s).takeRounds lines 2 p = some p' := by decide +kernel
  have hevents : p'.console.events = p'.console.events.take 12 ++ p.console.events := by
    decide +kernel
  have hblock := (@loopBlock_iff_balanced s ⟨"2".toList, 2, by decide⟩ lines p p'
    (by decide +kernel) (by decide +kernel) (by decide) hlines hspare _).mpr
    ⟨by decide, _, hevents, rfl⟩
  exact ⟨_, hblock.1, hblock.2, by decide +kernel⟩

/-- A line that ends a block and opens the next is only counted as the end: these lines can be
repeated, and queue five operations, but a block of them fails. -/
theorem reopened_block_fails :
    let s : Setting := ⟨fun _ => .error .missing, fun _ => 0⟩
    let p := (Prompt.start.feed s "qreg q[1];".toList).1
    let lines := [":loop 2".toList, "x q[0];".toList, ":end :loop 3".toList, "y q[0];".toList,
      ":end".toList]
    ((top s).takeRounds lines 1 p).map (·.console.workspace.queue.length) = some 5 ∧
      (level (s.inside 3) (maxNesting - 1)).takeRounds lines 1 p =
        (top s).takeRounds lines 1 p ∧
      (top s).takeAll (loopBlock ⟨"1".toList, 1, by decide⟩ lines) p = none := by
  intro s p lines
  refine ⟨?_, ?_, ?_⟩
  · decide +kernel
  · decide +kernel
  · decide +kernel

end Blocks

end CircuitConsole.Console
