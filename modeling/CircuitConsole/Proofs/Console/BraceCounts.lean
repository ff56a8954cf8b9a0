import CircuitConsole.Proofs.Console.MomentSteps
import CircuitConsole.Proofs.Console.Tallies
import CircuitConsole.Proofs.Statement.MatchedBodies

/-!
Two counts of braces. The reader of lines counts the braces of every line up to its comment, and
hands a text on when no more are open; the text is then cut into statements with the comments taken
out of it as a whole. On lines without line feeds both count the same, so that no text is handed on
too early, and none is found to end inside a block. This holds at every moment of a line, in loops
and in loaded files as well as at the prompt, since nothing but typed lines and lines of files ever
reaches a reader.
-/

namespace CircuitConsole

open Statement

/-- Counted line by line, as many braces are open as in the whole text without its comments. -/
theorem Statement.openBraces_eq {lines : List (List Char)} (h : ∀ line ∈ lines, '\n' ∉ line) :
    openBraces lines = braceBalance (withoutComments false (['\n'].intercalate lines)) := by
  rw [withoutComments_lines h]
  clear h
  induction lines with
  | nil => rfl
  | cons line lines ih =>
    rw [openBraces, ih, List.map_cons]
    cases lines with
    | nil =>
      rw [List.map_nil, List.intercalate_singleton]
      exact Int.add_zero _
    | cons next lines =>
      have hfeed : braceBalance ['\n'] = 0 := rfl
      rw [List.map_cons, List.intercalate_cons_cons, List.append_assoc, braceBalance_append,
        braceBalance_append, hfeed, Int.zero_add]

/-- A text is found to end inside a block only if it opens more braces than it closes. -/
theorem Workspace.accept_unterminated {w : Workspace} {text : List Char} {room : Capacity}
    (h : (w.accept text room).result = .error .unterminatedBlock) :
    0 < braceBalance (withoutComments false text) := by
  unfold accept at h
  cases hsplit : split text with
  | error fault =>
    simp only [hsplit] at h
    obtain rfl := Except.error.inj h
    rcases split_eq_error.mp hsplit with ⟨hfault, -⟩ | ⟨-, -, hopen⟩
    · cases hfault
    · rwa [withoutComments_eq_bareText]
  | ok statements =>
    simp only [hsplit] at h
    rcases hread : w.draft.statements statements room with ⟨d, fault | fault⟩
    · simp only [hread] at h
      cases h
    · simp only [hread] at h
      obtain rfl := Except.error.inj h
      exact absurd (statements_within hsplit (List.Subset.refl _) hread) (by simp [Fault.Within])

namespace Console

abbrev Unbroken (line : Line) : Prop := '\n' ∉ line

theorem unbroken_of_linesFrom {pending s : List Char} (hpending : Unbroken pending.reverse)
    {line : Line} (h : line ∈ Text.linesFrom pending s) : Unbroken line := by
  induction s generalizing pending with
  | nil =>
    cases pending with
    | nil => cases h
    | cons c pending =>
      obtain rfl := List.mem_singleton.mp h
      exact hpending
  | cons c s ih =>
    rw [Text.linesFrom] at h
    split at h
    · rcases List.mem_cons.mp h with rfl | h
      · exact hpending
      · exact ih List.not_mem_nil h
    · rename_i hkept
      refine ih ?_ h
      have hc : '\n' ≠ c := by
        rintro rfl
        exact hkept rfl
      simpa [Unbroken, hc] using hpending

/-- Lines of files have no line feeds. -/
theorem filesHold_unbroken (reading : Files.Reading) : FilesHold Unbroken reading := by
  intro path lines h line hline
  unfold Files.readLines at h
  dsimp only at h
  repeat' split at h
  all_goals cases h
  exact unbroken_of_linesFrom List.not_mem_nil hline

/-- The text of some lines, without its comments, opens so many more braces than it closes. -/
def textBalance (lines : List Line) : Int := braceBalance (withoutComments false (joined lines))

theorem goesOn_iff {lines : List Line} (h : ∀ line ∈ lines, Unbroken line) :
    goesOn lines = true ↔ 0 < textBalance lines := by
  unfold goesOn textBalance joined
  rw [← openBraces_eq h, decide_eq_true_eq]

theorem textBalance_single (line : Line) :
    textBalance [line] = braceBalance (withoutComments false line) := by
  simp [textBalance, joined, List.intercalate]

/-- A plain statement with its semicolon is a whole text. -/
theorem goesOn_plain {s : List Char} (hfeed : '\n' ∉ s) (h : Statement.Plain s) :
    goesOn [s ++ [';']] = false := by
  have huncommented : Uncommented (s ++ [';']) :=
    uncommented_append_cons (by decide) h.uncommented (by decide)
  have hbalance : textBalance [s ++ [';']] = 0 := by
    rw [textBalance_single, withoutComments_of huncommented, braceBalance_append,
      braceBalance_of_not_mem h.opening h.closing]
    rfl
  have hlines : ∀ line ∈ [s ++ [';']], Unbroken line :=
    List.forall_mem_singleton.mpr (by simpa [Unbroken] using hfeed)
  by_contra hopen
  have hpositive := (goesOn_iff hlines).mp (by simpa using hopen)
  omega

def Event.isParsed (e : Event) : Bool := (Event.parsed? e).isSome

def Event.isUnterminated : Event → Bool
  | .report _ (.statement .unterminatedBlock) => true
  | _ => false

section Actions

theorem tally_emit {kind : Event → Bool} {e : Event} (h : kind e = false) (c : Console) :
    (c.emit e).tally kind = c.tally kind :=
  List.countP_cons_of_neg (Bool.eq_false_iff.mp h)

variable {kind : Event → Bool}

/-- A command adds output and notes, but no note on a text that was read, and no report. -/
theorem perform_tally (houtput : ∀ text, kind (.output text) = false)
    (hnote : ∀ n, Event.parsed? (.note n) = none → kind (.note n) = false) (s : Setting)
    (k : Command) (c : Console) : (perform s none c k).console.tally kind = c.tally kind := by
  cases k with
  | loop _ | close | reset | quit => rfl
  | list | help => exact tally_emit (houtput _) c
  | tag name => exact tally_emit (hnote _ rfl) c
  | goto name =>
    simp only [perform, goto]
    split
    · rfl
    · exact tally_emit (hnote _ rfl) c
  | untag name =>
    simp only [perform, untag]
    split
    · rfl
    · exact tally_emit (hnote _ rfl) c
  | display view =>
    simp only [perform, display]
    split
    · rfl
    · split
      · exact tally_emit (houtput _) c
      · rfl
  | go =>
    simp only [perform, go]
    split
    · rfl
    · exact tally_emit (hnote _ rfl) c
  | load path =>
    simp only [perform, load]
    split
    · rfl
    · exact tally_emit (hnote _ rfl) c

/-- A command does not fail with the fault of a text. -/
theorem perform_statement (s : Setting) (k : Command) (c : Console) (fault : Fault) :
    (perform s none c k).failure ≠ some (.statement fault) := by
  intro h
  cases k with
  | loop _ | close | reset | quit | list | help | tag _ => cases h
  | goto name =>
    simp only [perform, goto] at h
    split at h <;> cases h
  | untag name =>
    simp only [perform, untag] at h
    split at h <;> cases h
  | display view =>
    simp only [perform, display] at h
    split at h
    · cases h
    · split at h <;> cases h
  | go =>
    simp only [perform, go] at h
    split at h <;> cases h
  | load path =>
    simp only [perform, load] at h
    split at h <;> cases h

theorem accept_failure {room : Capacity} {text : List Char} {c : Console} {fault : Fault}
    (h : (c.accept room text).failure = some (.statement fault)) :
    (c.workspace.accept text room).result = .error fault := by
  simp only [accept] at h
  split at h
  · rename_i hresult
    obtain rfl := Failure.statement.inj (Option.some.inj h)
    exact hresult
  · cases h

/-- A text is read with notes only. -/
theorem accept_tally (hnote : ∀ n, kind (.note n) = false) (room : Capacity)
    (text : List Char) (c : Console) : (c.accept room text).console.tally kind = c.tally kind := by
  have hdefined (defined : List Definition) : tally kind
      { c with events := (defined.map fun d => .note (.defined d)).reverse ++ c.events } =
        c.tally kind := by
    have hnone : ∀ e ∈ (defined.map fun d => Event.note (.defined d)).reverse, kind e = false := by
      intro e he
      obtain ⟨d, -, rfl⟩ := List.mem_map.mp (List.mem_reverse.mp he)
      exact hnote _
    unfold tally
    rw [List.countP_append, List.countP_eq_zero.mpr fun e he => by simp [hnone e he], Nat.zero_add]
  simp only [accept, foldl_defined]
  split
  · exact hdefined _
  · exact (tally_emit (hnote _) _).trans (hdefined _)

end Actions

namespace Moment

variable {s : Setting} {m m' : Moment}

/-- What happens to the text of a statement from one moment to the next. It is held back while it
opens more braces than it closes, and handed on when it does not. Where no such text is about to be
taken, none is read: there is no new note on one, and no new failure of one. -/
inductive Handles (m m' : Moment) : Prop
  | held {lines : List Line} (hcollected : m.activity.collected = some lines)
      (hopen : 0 < textBalance lines) (h : m' = m.pause ⟨.unfinished lines, m.console, none⟩)
  | handed {room : Capacity} {lines : List Line} (hcollected : m.activity.collected = some lines)
      (hclosed : textBalance lines ≤ 0)
      (h : m' = m.pause (m.console.accept room (joined lines)).idle)
  | other (hcollected : m.activity.collected = none)
      (hnotes : m'.console.tally Event.isParsed = m.console.tally Event.isParsed)
      (hfailure : ∀ fault, m'.activity.failure = some (.statement fault) →
        m.activity.failure = some (.statement fault))

/-- No line has a line feed, what is held opens more braces than it closes, and no text that ends
inside a block is on the way to a report. -/
structure Balanced (m : Moment) : Prop where
  lines : m.Holds Unbroken
  held : ∀ lines, m.activity.reader = .unfinished lines → 0 < textBalance lines
  failure : m.activity.failure ≠ some (.statement .unterminatedBlock)

theorem Holds.collected {known : Line → Prop} (hm : m.Holds known) {lines : List Line}
    (h : m.activity.collected = some lines) : ∀ line ∈ lines, known line := by
  have hlines := hm.activity
  cases hactivity : m.activity with
  | commands | opening | between =>
    rw [hactivity] at h
    cases h
  | line room reader line =>
    rw [hactivity] at h hlines
    change reader.collected line = some lines at h
    obtain ⟨hreader, hline⟩ := List.forall_mem_append.mp hlines
    cases reader with
    | idle =>
      rw [Reader.collected] at h
      split at h
      · cases h
      · obtain rfl := Option.some.inj h
        exact hline
    | unfinished held =>
      obtain rfl := Option.some.inj h
      exact hlines
    | capturing b => cases h

/-- Where no text is about to be taken, none is read. -/
theorem Becomes.unread {p : Progress} (h : m.Becomes s p) (hnone : m.activity.collected = none) :
    p.console.tally Event.isParsed = m.console.tally Event.isParsed ∧
      ∀ fault, p.failure = some (.statement fault) →
        m.activity.failure = some (.statement fault) := by
  cases h with
  | same | captured => exact ⟨rfl, nofun⟩
  | idle hf => exact ⟨rfl, hf⟩
  | noted hn =>
    refine ⟨tally_emit ?_ m.console, nofun⟩
    rw [Event.isParsed, hn]
    rfl
  | opened => exact ⟨tally_emit rfl m.console, nofun⟩
  | refused => exact ⟨rfl, nofun⟩
  | held hcollected | accepted hcollected =>
    rw [hnone] at hcollected
    cases hcollected
  | @performed room k =>
    refine ⟨perform_tally (fun _ => rfl) (fun n hn => ?_) (s.within room) k m.console,
      fun fault h => ?_⟩
    · rw [Event.isParsed, hn]
      rfl
    · exact absurd h (perform_statement (s.within room) k m.console fault)
  | reported hfailure origin => exact ⟨tally_emit rfl m.console, nofun⟩

/-- What one moment does to texts. -/
theorem Balanced.handles (hm : m.Balanced) (h : m.next s = some m') : m.Handles m' := by
  cases hcollected : m.activity.collected with
  | some lines =>
    have hgoes := goesOn_iff (hm.lines.collected hcollected)
    obtain ⟨room, hnext⟩ := next_of_collected (s := s) hcollected
    obtain rfl := Option.some.inj (h.symm.trans hnext)
    unfold takeStatement
    split
    · rename_i hopen
      exact .held hcollected (hgoes.mp hopen) rfl
    · rename_i hclosed
      exact .handed hcollected (Int.not_lt.mp fun hopen => hclosed (hgoes.mpr hopen)) rfl
  | none =>
    obtain ⟨hnotes, hfailure⟩ := (next_becomes h).unread hcollected
    exact .other hcollected hnotes hfailure

/-- What is held after one moment is held back rightly, no text is found to end inside a block, and
none is reported to. -/
theorem Balanced.becomes (hm : m.Balanced) {p : Progress} (h : m.Becomes s p) :
    (∀ lines, p.reader = .unfinished lines → 0 < textBalance lines) ∧
      p.failure ≠ some (.statement .unterminatedBlock) ∧
      p.console.tally Event.isUnterminated = m.console.tally Event.isUnterminated := by
  cases h with
  | same => exact ⟨hm.held, nofun, rfl⟩
  | idle hf => exact ⟨nofun, fun h => hm.failure (hf _ h), rfl⟩
  | noted | opened => exact ⟨nofun, nofun, tally_emit rfl m.console⟩
  | captured | refused => exact ⟨nofun, nofun, rfl⟩
  | @held held hcollected hopen =>
    refine ⟨fun lines hlines => ?_, nofun, rfl⟩
    obtain rfl := Reader.unfinished.inj hlines
    exact (goesOn_iff (hm.lines.collected hcollected)).mp hopen
  | @accepted room lines hcollected hclosed =>
    refine ⟨nofun, fun h => ?_, accept_tally (fun _ => rfl) room _ m.console⟩
    have hopen := Workspace.accept_unterminated (accept_failure h)
    rw [Bool.eq_false_iff, ne_eq, goesOn_iff (hm.lines.collected hcollected)] at hclosed
    exact hclosed hopen
  | @performed room k =>
    refine ⟨nofun, perform_statement (s.within room) k m.console _, ?_⟩
    exact perform_tally (fun _ => rfl) (fun _ _ => rfl) (s.within room) k m.console
  | @reported f hfailure origin =>
    refine ⟨hm.held, nofun, tally_emit ?_ m.console⟩
    have hother : f ≠ .statement .unterminatedBlock := fun h => hm.failure (h ▸ hfailure)
    unfold Event.isUnterminated
    split
    · rename_i hreport
      exact absurd (Event.report.inj hreport).2 hother
    · rfl

theorem Balanced.next (hm : m.Balanced) (h : m.next s = some m') :
    m'.Balanced ∧
      m'.console.tally Event.isUnterminated = m.console.tally Event.isUnterminated := by
  obtain ⟨hheld, hfailure, htally⟩ := hm.becomes (next_becomes h)
  exact ⟨⟨hm.lines.next (filesHold_unbroken s.reading) h, hheld, hfailure⟩, htally⟩

theorem Balanced.leads (hm : m.Balanced) (h : m.Leads s m') :
    m'.Balanced ∧
      m'.console.tally Event.isUnterminated = m.console.tally Event.isUnterminated := by
  induction h with
  | refl => exact ⟨hm, rfl⟩
  | tail _ hlast ih =>
    obtain ⟨hbalanced, htally⟩ := ih.1.next hlast
    exact ⟨hbalanced, htally.trans ih.2⟩

end Moment

def Input.Unbroken : Input → Prop
  | .line typed => Console.Unbroken typed
  | .interruption => True

namespace Prompt

def goThrough (inputs : List (Setting × Input)) (p : Prompt) : Prompt :=
  inputs.foldl (fun p input => (p.answer input.1 input.2).1) p

structure Balanced (p : Prompt) : Prop where
  lines : p.reader.Holds Unbroken
  held : ∀ lines, p.reader = .unfinished lines → 0 < textBalance lines

section Prompts

variable {s : Setting} {p : Prompt}

theorem balanced_of_idle (h : p.reader = .idle) : p.Balanced := by
  refine ⟨h ▸ Reader.holds_idle Unbroken, fun lines hlines => ?_⟩
  rw [h] at hlines
  cases hlines

theorem Balanced.beginning (hp : p.Balanced) {line : Line} (hline : Unbroken line) :
    (Moment.beginning s line p).Balanced :=
  ⟨⟨forall_append_line hp.lines hline, nofun⟩, hp.held, nofun⟩

/-- A failure is reported as it is. -/
theorem settle_unterminated {failure : Option Failure}
    (h : failure ≠ some (.statement .unterminatedBlock)) (p : Prompt) :
    (p.settle failure).1.console.tally Event.isUnterminated =
      p.console.tally Event.isUnterminated := by
  cases failure with
  | none => rfl
  | some f =>
    unfold settle
    dsimp only
    split
    · refine tally_emit ?_ p.console
      unfold Event.isUnterminated
      split
      · rename_i hreport
        exact absurd (congrArg some (Event.report.inj hreport).2) h
      · rfl
    · rfl

theorem Balanced.feed (hp : p.Balanced) {line : Line} (hline : Unbroken line) :
    (p.feed s line).1.Balanced ∧
      (p.feed s line).1.console.tally Event.isUnterminated =
        p.console.tally Event.isUnterminated := by
  obtain ⟨hended, htally⟩ := (hp.beginning hline).leads (Moment.beginning_leads s p line)
  refine ⟨⟨?_, ?_⟩, (settle_unterminated hended.failure _).trans htally⟩
  · rw [reader_feed]
    exact hended.lines.activity
  · rw [reader_feed]
    exact hended.held

theorem Balanced.answer (hp : p.Balanced) {input : Input} (hinput : input.Unbroken) :
    (p.answer s input).1.Balanced ∧
      (p.answer s input).1.console.tally Event.isUnterminated =
        p.console.tally Event.isUnterminated := by
  cases input with
  | line line => exact hp.feed hinput
  | interruption => exact ⟨balanced_of_idle rfl, tally_emit rfl p.console⟩

theorem Balanced.goThrough (hp : p.Balanced) {inputs : List (Setting × Input)}
    (hinputs : ∀ input ∈ inputs, input.2.Unbroken) :
    (p.goThrough inputs).Balanced ∧
      (p.goThrough inputs).console.tally Event.isUnterminated =
        p.console.tally Event.isUnterminated := by
  induction inputs generalizing p with
  | nil => exact ⟨hp, rfl⟩
  | cons input inputs ih =>
    obtain ⟨hinput, hinputs⟩ := List.forall_mem_cons.mp hinputs
    obtain ⟨hanswered, htally⟩ := hp.answer (s := input.1) hinput
    obtain ⟨hlater, hcounted⟩ := ih hanswered hinputs
    exact ⟨hlater, hcounted.trans htally⟩

end Prompts

end Prompt

/-- Lines without line feeds open as many braces as their text without its comments, and therefore
no text is ever found to end inside a block. However many such lines are fed from an idle prompt on,
no such fault is reported; and at every moment of the next, in whatever loops and files it is, what
is held opens more braces than it closes, and a text is handed on at once when it does not. -/
theorem braces_counted_alike :
    (∀ lines : List Line, (∀ line ∈ lines, Unbroken line) →
      openBraces lines = braceBalance (withoutComments false (joined lines))) ∧
    ∀ (p : Prompt) (inputs : List (Setting × Input)), p.reader = .idle →
      (∀ input ∈ inputs, input.2.Unbroken) →
        (p.goThrough inputs).console.tally Event.isUnterminated =
          p.console.tally Event.isUnterminated ∧
        ∀ (s : Setting) (line : Line) (m : Moment), Unbroken line →
          (Moment.beginning s line (p.goThrough inputs)).Leads s m →
            m.activity.failure ≠ some (.statement .unterminatedBlock) ∧
            (∀ lines, m.activity.reader = .unfinished lines → 0 < textBalance lines) ∧
            ∀ m', m.next s = some m' → m.Handles m' := by
  refine ⟨fun lines => openBraces_eq, fun p inputs hidle hinputs => ?_⟩
  obtain ⟨hbalanced, htally⟩ := (Prompt.balanced_of_idle hidle).goThrough hinputs
  refine ⟨htally, fun s line m hline hm => ?_⟩
  obtain ⟨hmoment, -⟩ := (hbalanced.beginning hline).leads hm
  exact ⟨hmoment.failure, hmoment.held, fun m' hnext => hmoment.handles hnext⟩

/-- A gate over two lines in a block, and one over three lines of a file, braces in comments. -/
theorem gates_over_lines :
    let s : Setting := ⟨fun _ => .ok ("gate g a \x7b // \x7b\nx a;\n\x7d".toList.map fun ch =>
      ch.toNat.toUInt8), fun _ => 0⟩
    let p := Prompt.start.goThrough
      ([":loop 1", "gate e a \x7b // \x7d", "x a; \x7d", ":end"].map fun line =>
        (s, .line line.toList))
    p.console.workspace.definitions.length = 1 ∧
      p.console.tally Event.isUnterminated = Prompt.start.console.tally Event.isUnterminated ∧
      ∃ m m', (Moment.beginning s ":load f".toList p).Leads s m ∧ m.opened.length = 1 ∧
        m.next s = some m' ∧ m.Handles m' ∧ m'.console.workspace.definitions.length = 2 := by
  intro s p
  obtain ⟨htally, hmoments⟩ := braces_counted_alike.2 .start
    ([":loop 1", "gate e a \x7b // \x7d", "x a; \x7d", ":end"].map fun line =>
      (s, .line line.toList)) rfl (by simp [Input.Unbroken, Unbroken])
  obtain ⟨m, hlater⟩ : ∃ m, (Moment.beginning s ":load f".toList p).later s 8 = some m :=
    Option.isSome_iff_exists.mp (by decide +kernel)
  have hfacts : ((Moment.beginning s ":load f".toList p).later s 8).bind (fun m => (m.next s).map
      fun m' => (m.opened.length, m'.console.workspace.definitions.length)) = some (1, 2) := by
    decide +kernel
  rw [hlater, Option.bind_some] at hfacts
  obtain ⟨m', hnext, hfacts⟩ := Option.map_eq_some_iff.mp hfacts
  have hm := Moment.leads_of_later hlater
  have hhandles := (hmoments s ":load f".toList m (by decide) hm).2.2 m' hnext
  exact ⟨by decide +kernel, htally, m, m', hm, congrArg Prod.fst hfacts, hnext, hhandles,
    congrArg Prod.snd hfacts⟩

end Console

end CircuitConsole
