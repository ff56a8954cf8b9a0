import CircuitConsole.Proofs.Console.MomentSteps
import CircuitConsole.Proofs.Console.ReaderSlots
import CircuitConsole.Proofs.Console.Scripts

/-!
The shapes a reader has. Only one of its two places is filled; a statement that is held opens more
braces than it closes, and the number of blocks that are open in a captured block is right after
each of its lines. What one moment makes of a reader keeps this, and so it holds at every moment of
every line and script, for the prompt's own reader and for those of files, rounds and inline loops.
-/

namespace CircuitConsole.Console

open Statement

/-- What the two places of a reader never fail to be. -/
structure Slots.Sound (r : Slots) : Prop where
  apart : r.block = none ∨ r.statement = []
  statement : r.statement ≠ [] → 0 < openBraces r.statement
  depth : ∀ b, r.block = some b → 0 ≤ b.depth ∧ b.depth = openBlocks b.lines
  fronts : ∀ b, r.block = some b → ∀ front, front <+: b.lines → 0 ≤ openBlocks front

def Reader.Counted : Reader → Prop
  | .idle => True
  | .capturing b => Console.nesting 0 b.lines = some b.depth
  | .unfinished lines => goesOn lines = true

section Readers

variable {s : Setting} {below : Option (Setting → Level)} {b b' : Block} {reader : Reader}
  {line : Line}

theorem Reader.Counted.sound (h : reader.Counted) : reader.slots.Sound := by
  cases reader with
  | idle => exact ⟨.inl rfl, fun hne => absurd rfl hne, nofun, nofun⟩
  | unfinished lines => exact ⟨.inl rfl, fun _ => of_decide_eq_true h, nofun, nofun⟩
  | capturing b =>
    have hdepth : (b.depth : Int) = openBlocks b.lines := by
      have hcount := openBlocks_of_nesting h
      omega
    refine ⟨.inr rfl, fun hne => absurd rfl hne, ?_, ?_⟩
    · intro o ho
      obtain rfl := Option.some.inj ho
      exact ⟨Int.natCast_nonneg b.depth, hdepth⟩
    · intro o ho front hfront
      obtain rfl := Option.some.inj ho
      exact openBlocks_prefix h hfront

/-- A statement of no lines is not counted rightly, since it opens no brace. -/
theorem Reader.Counted.ne_unfinished_nil (h : reader.Counted) : reader ≠ .unfinished [] := by
  rintro rfl
  exact absurd (show goesOn [] = true from h) (by decide)

theorem capture?_counted (h : nesting 0 b.lines = some b.depth) (hcapture : b.capture? line = some b') :
    nesting 0 b'.lines = some b'.depth := by
  rw [capture_eq] at hcapture
  obtain ⟨depth, hshift, rfl⟩ := Option.map_eq_some_iff.mp hcapture
  change nesting 0 (b.lines ++ [line]) = some depth
  rw [nesting_append, h, Option.bind_some, nesting_cons, hshift]
  rfl

theorem takeStatement_counted (lines : List Line) (c : Console) :
    (takeStatement s lines c).reader.Counted := by
  unfold takeStatement
  split
  · rename_i hopen
    exact hopen
  · trivial

/-- The commands of a line leave nothing open, or a block without lines. -/
theorem runCommands_counted (ks : List Command) (c : Console) :
    (runCommands s below ks c).reader.Counted := by
  fun_induction runCommands s below ks c
  case case2 => exact rfl
  case case4 ih => exact ih
  all_goals trivial

theorem takeFirst_counted (line : Line) (c : Console) :
    (takeFirst s below line c).reader.Counted := by
  unfold takeFirst
  split
  · trivial
  · split
    · cases commands line with
      | error fault => trivial
      | ok ks => exact runCommands_counted ks c
    · exact takeStatement_counted _ c

theorem closeBlock_counted (h : (Reader.capturing b).Counted) (line : Line) (c : Console) :
    (closeBlock s below b line c).reader.Counted := by
  unfold closeBlock
  cases commands line with
  | error fault => exact h
  | ok ks =>
    dsimp only
    split
    · exact runCommands_counted _ _
    · trivial

/-- A line that is read leaves lines that are counted rightly, if those held before were. -/
theorem consumeLine_counted (h : reader.Counted) (line : Line) (c : Console) :
    (consumeLine s below reader line c).reader.Counted := by
  cases reader with
  | idle => exact takeFirst_counted line c
  | unfinished lines => exact takeStatement_counted _ c
  | capturing b =>
    unfold consumeLine
    dsimp only
    cases hcapture : b.capture? line with
    | some b' => exact capture?_counted h hcapture
    | none => exact closeBlock_counted h line c

end Readers

section Failures

variable {s : Setting} {below : Option (Setting → Level)} {b : Block} {reader : Reader}
  {line : Line} {c : Console} {f : Failure}

/-- Commands that fail leave nothing open. -/
theorem runCommands_idle {ks : List Command} (hf : (runCommands s below ks c).failure = some f) :
    (runCommands s below ks c).reader = .idle := by
  fun_induction runCommands s below ks c
  case case2 => cases hf
  case case4 ih => exact ih hf
  all_goals rfl

theorem takeStatement_idle {lines : List Line} (hf : (takeStatement s lines c).failure = some f) :
    (takeStatement s lines c).reader = .idle := by
  unfold takeStatement at hf ⊢
  split
  · rename_i hopen
    rw [if_pos hopen] at hf
    cases hf
  · rfl

theorem takeFirst_idle (hf : (takeFirst s below line c).failure = some f) :
    (takeFirst s below line c).reader = .idle := by
  unfold takeFirst at hf ⊢
  by_cases hblank : Text.trim line = []
  · rw [if_pos hblank]
    rfl
  · rw [if_neg hblank] at hf ⊢
    by_cases hdirective : isDirective line = true
    · rw [if_pos hdirective] at hf ⊢
      cases hread : commands line with
      | error fault => rfl
      | ok ks =>
        rw [hread] at hf
        exact runCommands_idle hf
    · rw [if_neg hdirective] at hf ⊢
      exact takeStatement_idle hf

/-- A closing line that is read clears the block before it can fail. -/
theorem closeBlock_failure (hf : (closeBlock s below b line c).failure = some f) :
    (closeBlock s below b line c).reader = .idle ∨
      ∃ fault, commands line = .error fault ∧ f = .closing fault ∧
        (closeBlock s below b line c).reader = .capturing b := by
  unfold closeBlock at hf ⊢
  cases hread : commands line with
  | error fault =>
    rw [hread] at hf
    exact .inr ⟨fault, rfl, (Option.some.inj hf).symm, rfl⟩
  | ok ks =>
    left
    rw [hread] at hf
    dsimp only at hf ⊢
    cases hreplay : (replay (s.inside 1) below b c).failure with
    | some g => rfl
    | none =>
      rw [hreplay] at hf
      exact runCommands_idle hf

/-- A line that fails leaves nothing open, unless it would close a block and cannot be read. -/
theorem consumeLine_failure (hf : (consumeLine s below reader line c).failure = some f) :
    (consumeLine s below reader line c).reader = .idle ∨
      ∃ b fault, reader = .capturing b ∧ b.depth = 0 ∧ bracket line = .closing ∧
        commands line = .error fault ∧ f = .closing fault ∧
        (consumeLine s below reader line c).reader = reader := by
  cases reader with
  | idle => exact .inl (takeFirst_idle hf)
  | unfinished lines => exact .inl (takeStatement_idle hf)
  | capturing b =>
    unfold consumeLine at hf ⊢
    dsimp only at hf ⊢
    cases hcapture : b.capture? line with
    | some b' =>
      rw [hcapture] at hf
      cases hf
    | none =>
      rw [hcapture] at hf
      rw [capture_eq, Option.map_eq_none_iff] at hcapture
      obtain ⟨hclosing, hdepth⟩ := shift_eq_none hcapture
      obtain hidle | ⟨fault, hread, hfault, hkept⟩ := closeBlock_failure hf
      · exact .inl hidle
      · exact .inr ⟨b, fault, rfl, hdepth, hclosing, hread, hfault, hkept⟩

end Failures

namespace Moment

variable {s : Setting} {m m' : Moment}

/-- From one moment to the next the lines that are held stay counted. -/
theorem Becomes.counted {p : Progress} (h : m.Becomes s p) (hm : m.activity.reader.Counted) :
    p.reader.Counted := by
  cases h with
  | same | reported => exact hm
  | idle | noted | accepted | performed => trivial
  | opened => exact rfl
  | held hcollected hopen => exact hopen
  | captured hactivity hcapture =>
    rw [hactivity] at hm
    exact capture?_counted hm hcapture
  | refused hactivity =>
    rw [hactivity] at hm
    exact hm

theorem leads_counted (h : m.Leads s m') (hm : m.activity.reader.Counted) :
    m'.activity.reader.Counted := by
  induction h with
  | refl => exact hm
  | tail _ hlast ih => exact (next_becomes hlast).counted ih

end Moment

namespace Prompt

variable {draws : Simulation.Draws Float} {p : Prompt}

theorem Reachable.counted (h : p.Reachable draws) : p.reader.Counted := by
  induction h with
  | start => trivial
  | feed s hs line _ ih =>
    rw [reader_feed]
    exact consumeLine_counted ih line _
  | interrupt => trivial
  | write _ _ ih => exact ih
  | script _ _ _ _ ih => exact ih

end Prompt

/-- A reader never holds a block and a statement at once; what it holds of a statement opens more
braces than it closes, and the count of the blocks that are open is right, and never below zero, all
along the lines of a block. So it is at every prompt a user reaches, and at every moment of any line
or script from there, whichever reader is at work then. Taking a line, in two places that are filled
and cleared one by one, keeps it so, with both places empty whenever something is carried out. After
a failure the prompt's reader is idle, unless a line that would close its block cannot be read, and
then the block is left as it was. -/
theorem readers_sound {draws : Simulation.Draws Float} {p : Prompt} (hp : p.Reachable draws) :
    p.reader.slots.Sound ∧
    (∀ s : Setting, s.draws = draws → ∀ m, (∃ line, (Moment.beginning s line p).Leads s m) ∨
        (∃ path, (Moment.scripting s path p.console).Leads s m) →
      m.activity.reader.slots.Sound ∧ ∀ s below line c,
        (m.activity.reader.slots.consume s below line c).Matches
          (consumeLine s below m.activity.reader line c) ∧
        (m.activity.reader.slots.consume s below line c).slots.Sound) ∧
    ∀ s : Setting, s.draws = draws → ∀ line f, (p.execute s line).2 = some f →
      (p.feed s line).1.reader.slots = .empty ∨
        ∃ b fault, p.reader.slots.block = some b ∧ b.depth = 0 ∧ closesBlock line = true ∧
          commands line = .error fault ∧ f = .closing fault ∧
          (p.feed s line).1.reader.slots = p.reader.slots := by
  have hcounted := hp.counted
  refine ⟨hcounted.sound, ?_, ?_⟩
  · intro s hs m hm
    have hm : m.activity.reader.Counted := by
      obtain ⟨line, hm⟩ | ⟨path, hm⟩ := hm
      · exact Moment.leads_counted hm hcounted
      · exact Moment.leads_counted hm trivial
    refine ⟨hm.sound, fun s below line c => ?_⟩
    have hmatches : (m.activity.reader.slots.consume s below line c).Matches _ :=
      Slots.consume_matches hm.ne_unfinished_nil line c
    refine ⟨hmatches, ?_⟩
    rw [hmatches.slots]
    exact (consumeLine_counted hm line c).sound
  · intro s hs line f hf
    rw [Prompt.reader_feed]
    obtain hidle | ⟨b, fault, hreader, hdepth, hclosing, hread, rfl, hkept⟩ :=
      consumeLine_failure hf
    · exact .inl (congrArg Reader.slots hidle)
    · refine .inr ⟨⟨b.rounds, b.lines, b.depth⟩, fault, ?_, ?_, closesBlock_of_closing hclosing, hread,
        rfl, ?_⟩
      · rw [hreader]
        rfl
      · rw [hdepth]
        rfl
      · exact congrArg Reader.slots hkept

/-- A block in which another was closed, the statement of a script at that prompt, and a line that
would close the block but cannot be read. -/
theorem block_kept_open :
    let s : Setting := ⟨fun _ => .ok ("gate g a \x7b\nx a;\n\x7d".toList.map fun ch =>
      ch.toNat.toUInt8), fun _ => 0⟩
    let p := (((Prompt.start.feed s ":loop 2".toList).1.feed s ":loop 3".toList).1.feed s
      ":end".toList).1
    p.reader.slots = ⟨some ⟨2, [":loop 3".toList, ":end".toList], 0⟩, []⟩ ∧ p.reader.slots.Sound ∧
      (∃ m, (Moment.scripting s "f".toList p.console).Leads s m ∧
        m.activity.reader.slots = ⟨none, ["gate g a \x7b".toList]⟩ ∧ m.activity.reader.slots.Sound) ∧
      (p.feed s ":end :again".toList).1.reader.slots = p.reader.slots := by
  intro s p
  have hp : p.Reachable s.draws := .feed s rfl _ (.feed s rfl _ (.feed s rfl _ .start))
  obtain ⟨hsound, hmoments, hfailures⟩ := readers_sound hp
  have hslots : p.reader.slots = ⟨some ⟨2, [":loop 3".toList, ":end".toList], 0⟩, []⟩ := by
    decide +kernel
  refine ⟨hslots, hsound, ?_, ?_⟩
  · obtain ⟨m, hlater⟩ : ∃ m, (Moment.scripting s "f".toList p.console).later s 4 = some m :=
      Option.isSome_iff_exists.mp (by decide +kernel)
    have hm := Moment.leads_of_later hlater
    have hreader : ((Moment.scripting s "f".toList p.console).later s 4).map
        (fun m => m.activity.reader.slots) = some ⟨none, ["gate g a \x7b".toList]⟩ := by
      decide +kernel
    rw [hlater] at hreader
    exact ⟨m, hm, Option.some.inj hreader, (hmoments s rfl m (.inr ⟨_, hm⟩)).1⟩
  · obtain hidle | ⟨b, fault, -, -, -, -, -, hkept⟩ := hfailures s rfl ":end :again".toList
      (.closing (.unknown "again".toList)) (by decide +kernel)
    · exact absurd hidle (by decide +kernel)
    · exact hkept

end CircuitConsole.Console
