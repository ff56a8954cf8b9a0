import CircuitConsole.Proofs.Console.Escapes
import CircuitConsole.Proofs.Console.JoinedTexts

/-!
Lines that fail. A directive line with a bad phrase and a text with a bad statement are reported and
leave everything as it was. Any other directive line is carried out up to the first command that
fails: what comes of it is what comes of the commands before that one on a line of their own, and
the report. Only a failing execution leaves something more behind, the random numbers it has taken.
-/

namespace CircuitConsole.Console

open Text

section Reading

/-- A blank line has no words. -/
theorem words_of_blank {line : Line} (h : trim line = []) : words line = [] := by
  rw [← words_trimLeft]
  cases hleft : trimLeft line with
  | nil => rfl
  | cons c rest =>
    have hmem : c ∈ trimLeft line := hleft ▸ List.mem_cons_self ..
    exact absurd h (trim_ne_nil hmem (isBlank_of_trimLeft hleft))

/-- A line that is read as commands is blank or a directive line. -/
theorem isDirective_of_commands {line : Line} {ks : List Command} (h : commands line = .ok ks)
    (hblank : trim line ≠ []) : isDirective line = true := by
  obtain ⟨ps, hphrases, -⟩ := bind_eq_ok.mp h
  cases hleft : trimLeft line with
  | nil => exact absurd (by rw [trim, hleft]; rfl) hblank
  | cons c rest =>
    obtain ⟨w, ws, hwords⟩ := words_cons (isBlank_of_trimLeft hleft) rest
    rw [phrases, ← words_trimLeft, hleft, hwords] at hphrases
    by_cases hcolon : c = ':'
    · simp [isDirective, hleft, hcolon]
    · -- an unmarked word stands before the first phrase
      simp [phrasesAfter, hcolon] at hphrases

/-- A line of words may be broken off behind any of its phrases. -/
theorem phrasesAfter_eq_append {ws arguments : List (List Char)} {front back : List Phrase}
    (h : phrasesAfter ws = (arguments, front ++ back)) :
    ∃ ws', ws' <+: ws ∧ phrasesAfter ws' = (arguments, front) := by
  induction ws generalizing arguments front with
  | nil =>
    obtain ⟨rfl, hnil⟩ := Prod.mk.inj h
    obtain ⟨rfl, -⟩ := List.append_eq_nil_iff.mp hnil.symm
    exact ⟨[], List.prefix_refl _, rfl⟩
  | cons word ws ih =>
    rcases hafter : phrasesAfter ws with ⟨inner, ps⟩
    unfold phrasesAfter at h
    rw [hafter] at h
    dsimp only at h
    split at h
    · rename_i name
      obtain ⟨rfl, hps⟩ := Prod.mk.inj h
      cases front with
      | nil => exact ⟨[], List.nil_prefix, rfl⟩
      | cons p front =>
        obtain ⟨rfl, rfl⟩ := List.cons.inj hps
        obtain ⟨ws', hlead, hws'⟩ := ih hafter
        exact ⟨_, List.cons_prefix_cons.mpr ⟨rfl, hlead⟩, by
          rw [phrasesAfter.eq_def]
          simp only [hws']⟩
    · rename_i hunmarked
      obtain ⟨rfl, rfl⟩ := Prod.mk.inj h
      obtain ⟨ws', hlead, hws'⟩ := ih hafter
      exact ⟨_, List.cons_prefix_cons.mpr ⟨rfl, hlead⟩, by
        rw [phrasesAfter.eq_def]
        simp only [hws']⟩

/-- The first commands of a line have a line of their own. -/
theorem exists_line_of_front {line : Line} {front back : List Command}
    (h : commands line = .ok (front ++ back)) : ∃ line', commands line' = .ok front := by
  obtain ⟨ps, hwords, hcommands⟩ := commands_eq_ok.mp h
  -- the words up to the last phrase that is wanted, with spaces between them
  rw [← List.take_append_drop front.length ps] at hwords
  obtain ⟨ws, hlead, hws⟩ := phrasesAfter_eq_append hwords
  have hsolid : ∀ w ∈ ws, Solid w := fun w hw => words_solid line w (hlead.subset hw)
  have hfront := List.forall₂_take front.length (mapM_eq_ok.mp hcommands)
  rw [List.take_left] at hfront
  refine ⟨[' '].intercalate ws,
    commands_eq_ok.mpr ⟨ps.take front.length, ?_, mapM_eq_ok.mpr hfront⟩⟩
  rw [words_spaced hsolid, hws]

end Reading

section Actions

/-- The commands that open, close, load and stop nothing. -/
def Command.isAction : Command → Bool
  | .loop _ | .close | .load _ | .quit => false
  | _ => true

/-- How an action comes to fail, with the failure and the number of random numbers drawn then. -/
inductive Hindered (s : Setting) (c : Console) : Command → Failure → Nat → Prop
  | goto {name : List Char} (h : c.tags.find? name = none) :
      Hindered s c (.goto name) (.unknownTag name) c.drawn
  | untag {name : List Char} (h : c.tags.find? name = none) :
      Hindered s c (.untag name) (.unknownTag name) c.drawn
  | outdated {view : View} (hview : view.needsExecution = true) (h : c.workspace.dirty = true) :
      Hindered s c (.display view) (.notExecuted view) c.drawn
  | overloaded {view : View} {o : Overload} (h : view.render c.workspace s.room = .error o) :
      Hindered s c (.display view) (.overload o) c.drawn
  | go {drawn : Nat} {fault : ExecutionFault}
      (h : c.workspace.execute s.draws c.drawn s.room = (drawn, .error fault)) :
      Hindered s c .go (.execution fault) drawn

variable {s : Setting} {below : Option (Setting → Level)} {c : Console} {k : Command} {f : Failure}

theorem perform_running (h : k.isAction = true) :
    (perform s below c k).console.running = c.running := by
  cases k with
  | loop _ | close | load _ | quit => cases h
  | tag _ | list | reset | help => rfl
  | goto name =>
    simp only [perform, goto]
    split <;> rfl
  | untag name =>
    simp only [perform, untag]
    split <;> rfl
  | display view =>
    simp only [perform, display]
    split
    · rfl
    · split <;> rfl
  | go =>
    simp only [perform, go]
    split <;> rfl

/-- An action that fails is hindered, and does nothing but draw. -/
theorem perform_hindered (h : k.isAction = true) (hf : (perform s below c k).failure = some f) :
    ∃ drawn, Hindered s c k f drawn ∧
      perform s below c k = { c with drawn := drawn }.fail f := by
  cases k with
  | loop _ | close | load _ | quit => cases h
  | tag _ | list | reset | help => cases hf
  | goto name =>
    simp only [perform, goto] at hf ⊢
    cases hfind : c.tags.find? name with
    | some w => simp [hfind, done] at hf
    | none =>
      simp only [hfind] at hf ⊢
      obtain rfl := Option.some.inj hf
      exact ⟨_, .goto hfind, rfl⟩
  | untag name =>
    simp only [perform, untag] at hf ⊢
    cases hfind : c.tags.find? name with
    | some w => simp [hfind, done] at hf
    | none =>
      simp only [hfind] at hf ⊢
      obtain rfl := Option.some.inj hf
      exact ⟨_, .untag hfind, rfl⟩
  | display view =>
    simp only [perform, display] at hf ⊢
    by_cases houtdated : (view.needsExecution && c.workspace.dirty) = true
    · rw [if_pos houtdated] at hf ⊢
      obtain rfl := Option.some.inj hf
      obtain ⟨hview, hdirty⟩ := Bool.and_eq_true_iff.mp houtdated
      exact ⟨_, .outdated hview hdirty, rfl⟩
    · rw [if_neg houtdated] at hf ⊢
      cases hrender : view.render c.workspace s.room with
      | ok text => simp [hrender, done] at hf
      | error o =>
        simp only [hrender] at hf ⊢
        obtain rfl := Option.some.inj hf
        exact ⟨_, .overloaded hrender, rfl⟩
  | go =>
    simp only [perform, go] at hf ⊢
    rcases hexecute : c.workspace.execute s.draws c.drawn s.room with ⟨drawn, fault | w⟩
    · simp only [hexecute] at hf ⊢
      obtain rfl := Option.some.inj hf
      exact ⟨_, .go hexecute, rfl⟩
    · simp [hexecute, done] at hf

/-- Only for registers that are too large is an action hindered without a report. -/
theorem Hindered.escape {known : Line → Prop} {drawn : Nat} (h : Hindered s c k f drawn)
    (hforeign : f.isReported = false) : Escape s.room known c.workspace f := by
  cases h with
  | goto _ | untag _ | outdated _ _ => cases hforeign
  | overloaded h => exact .view (le_refl _) (render_overload h)
  | @go _ fault h =>
    cases fault with
    | overload o => exact .execution (Workspace.execute_overload (congrArg Prod.snd h))
    | tooWide _ | outOfMemory _ | step _ => cases hforeign

/-- Actions that succeed are carried out before those that follow on their line. -/
theorem runCommands_append {front : List Command} (hfront : ∀ k ∈ front, k.isAction = true)
    (hrun : c.running = true) (hok : (runCommands s below front c).failure = none)
    (rest : List Command) :
    (runCommands s below front c).reader = .idle ∧
      (runCommands s below front c).console.running = true ∧
      runCommands s below (front ++ rest) c =
        runCommands s below rest (runCommands s below front c).console := by
  induction front generalizing c with
  | nil => exact ⟨rfl, hrun, rfl⟩
  | cons k front ih =>
    obtain ⟨hk, hfront⟩ := List.forall_mem_cons.mp hfront
    have hplain (count : Count) : k ≠ .loop count := by
      rintro rfl
      cases hk
    rw [runCommands_plain hplain, if_pos hrun] at hok ⊢
    rw [List.cons_append, runCommands_plain hplain, if_pos hrun]
    cases hf : (perform s below c k).failure with
    | none =>
      simp only [hf] at hok ⊢
      exact ih hfront ((perform_running hk).trans hrun) hok
    | some f => simp [hf, Effect.idle] at hok

end Actions

namespace Prompt

def runAtPrompt (s : Setting) (ks : List Command) (c : Console) : Progress :=
  runCommands (s.inside 1) (some fun s => level s (maxNesting - 1)) ks c

/-- A line that is read as commands carries them out, in order. -/
theorem execute_commands {s : Setting} {p : Prompt} {line : Line} {ks : List Command}
    (hidle : p.reader = .idle) (h : commands line = .ok ks) :
    p.execute s line =
      (⟨(runAtPrompt s ks p.console).reader, (runAtPrompt s ks p.console).console⟩,
        (runAtPrompt s ks p.console).failure) := by
  have hconsumed : (top s).consume p.reader line p.console = runAtPrompt s ks p.console := by
    rw [hidle, top_eq]
    simp only [levelOver, consumeLine, takeFirst]
    by_cases hblank : trim line = []
    · have hnone : commands line = .ok [] := by
        rw [commands, phrases, words_of_blank hblank]
        rfl
      obtain rfl := Except.ok.inj (hnone.symm.trans h)
      rw [if_pos hblank]
      rfl
    · rw [if_neg hblank, if_pos (isDirective_of_commands h hblank), h]
      rfl
  simp only [execute, hconsumed]

/-- Where the first actions of a line succeed on a line of their own, the line goes on from there. -/
theorem execute_front {s : Setting} {p q : Prompt} {line line' : Line} {front rest : List Command}
    (hidle : p.reader = .idle) (hrun : p.console.running = true)
    (hfront : ∀ k ∈ front, k.isAction = true) (hread : commands line = .ok (front ++ rest))
    (hread' : commands line' = .ok front) (hq : p.execute s line' = (q, none)) :
    q.reader = .idle ∧ q.console.running = true ∧ p.execute s line =
      (⟨(runAtPrompt s rest q.console).reader, (runAtPrompt s rest q.console).console⟩,
        (runAtPrompt s rest q.console).failure) := by
  rw [execute_commands hidle hread'] at hq
  obtain ⟨rfl, hok⟩ := Prod.mk.inj hq
  obtain ⟨hreader, hrunning, hgoes⟩ := runCommands_append hfront hrun hok rest
  have hall : runAtPrompt s (front ++ rest) p.console =
      runAtPrompt s rest (runAtPrompt s front p.console).console := hgoes
  exact ⟨hreader, hrunning, by rw [execute_commands hidle hread, hall]⟩

def drawing (drawn : Nat) (p : Prompt) : Prompt :=
  { p with console := { p.console with drawn := drawn } }

/-- A statement that is whole on its line is read into the workspace. -/
theorem execute_statement {s : Setting} {p : Prompt} {line : Line} (hidle : p.reader = .idle)
    (hblank : trim line ≠ []) (hdirective : isDirective line = false)
    (hwhole : goesOn [line] = false) :
    p.execute s line =
      (⟨.idle, (p.console.accept (s.room.inside 2) line).console⟩,
        (p.console.accept (s.room.inside 2) line).failure) := by
  have hjoined : joined [line] = line := by simp [joined, List.intercalate]
  have hconsumed : (top s).consume p.reader line p.console =
      (p.console.accept (s.room.inside 2) line).idle := by
    rw [hidle, top_eq]
    simp only [levelOver, consumeLine, takeFirst, takeStatement, if_neg hblank, hdirective, hwhole,
      hjoined, Bool.false_eq_true, if_false]
  simp only [execute, hconsumed, Effect.idle]

/-- A directive line that is not read as a whole does nothing. -/
theorem execute_unread {s : Setting} {p : Prompt} {line : Line} {fault : DirectiveFault}
    (hidle : p.reader = .idle) (hdirective : isDirective line = true)
    (h : commands line = .error fault) : p.execute s line = (p, some (.directive fault)) := by
  have hconsumed : (top s).consume p.reader line p.console =
      (p.console.fail (.directive fault)).idle := by
    rw [hidle, top_eq]
    simp only [levelOver, consumeLine, takeFirst, if_neg (trim_of_isDirective hdirective),
      if_pos hdirective, h]
  simp only [execute, hconsumed, Effect.idle, fail, ← hidle]

/-- Lines without loops, ends, loads and quits that fail at an idle prompt. A bad phrase, or a bad
statement, is reported, and nothing else happens but that the gates are noted which the text defined
before it failed. A command that fails is reported as well, unless registers are too large for the
machine; it leaves what the commands before it leave on a line of their own, with the random numbers
it has drawn. -/
theorem failing_line {s : Setting} {p : Prompt} (hidle : p.reader = .idle)
    (hrun : p.console.running = true) (line : Line) :
    (∀ fault, isDirective line = true → commands line = .error fault →
      p.feed s line = (p.report (.directive fault), none)) ∧
    (∀ fault, trim line ≠ [] → isDirective line = false → goesOn [line] = false →
      (p.console.workspace.accept line (s.room.inside 2)).result = .error fault →
      fault.label = "ParseError" →
      ∃ defined : List Definition, p.feed s line =
        (report (.statement fault) { p with console := { p.console with
          events := (defined.map fun d => .note (.defined d)) ++ p.console.events } }, none)) ∧
    ∀ front k rest, commands line = .ok (front ++ k :: rest) →
      (∀ x ∈ front ++ [k], x.isAction = true) →
      (∃ line', commands line' = .ok front) ∧
      ∀ line' q f, commands line' = .ok front → p.execute s line' = (q, none) →
        (perform (s.inside 1) (some fun s => level s (maxNesting - 1)) q.console k).failure =
          some f →
        p.feed s line' = (q, none) ∧ ∃ drawn, Hindered (s.inside 1) q.console k f drawn ∧
          (f.label ∈ reportedLabels ∧ p.feed s line = ((q.drawing drawn).report f, none) ∨
            f.label ∉ reportedLabels ∧ p.feed s line = (q.drawing drawn, some f) ∧
              Escape (s.room.inside 1) (· = line) q.console.workspace f) := by
  refine ⟨fun fault hdirective hread => ?_, fun fault hblank hdirective hwhole hfault hlabel => ?_,
    fun front k rest hread hactions => ⟨exists_line_of_front hread, ?_⟩⟩
  · simp only [feed, execute_unread hidle hdirective hread, settle]
    rfl
  · have hreported : (Failure.statement fault).isReported = true :=
      (isReported_iff_label _).mpr (by simp [Failure.label, hlabel, reportedLabels])
    refine ⟨(p.console.workspace.accept line (s.room.inside 2)).defined.reverse, ?_⟩
    simp only [feed, execute_statement hidle hblank hdirective hwhole, accept, foldl_defined, hfault,
      settle, fail, hreported, if_true, ← hidle, List.map_reverse]
  · intro line' q f hread' hq hf
    obtain ⟨hfront, hk⟩ := List.forall_mem_append.mp hactions
    have hk : k.isAction = true := hk k (List.mem_singleton_self k)
    obtain ⟨hreader, hrunning, hgoes⟩ := execute_front hidle hrun hfront hread hread' hq
    obtain ⟨drawn, hhindered, hperform⟩ := perform_hindered hk hf
    have hplain (count : Count) : k ≠ .loop count := by
      rintro rfl
      cases hk
    have hexecuted : p.execute s line = (q.drawing drawn, some f) := by
      rw [hgoes, runAtPrompt, runCommands_plain hplain, if_pos hrunning, hperform]
      simp only [fail, Effect.idle, drawing, hreader]
    refine ⟨by simp only [feed, hq, settle], drawn, hhindered, ?_⟩
    by_cases hreported : f.isReported = true
    · refine .inl ⟨(isReported_iff_label f).mp hreported, ?_⟩
      simp only [feed, hexecuted, settle, if_pos hreported]
    · refine .inr ⟨mt (isReported_iff_label f).mpr hreported, ?_,
        hhindered.escape (by simpa using hreported)⟩
      simp only [feed, hexecuted, settle, if_neg hreported]

/-- Each of the three ways on a prompt with 25 qubits: an unknown directive keeps the tag in front of
it from being set, a call on a qubit too many keeps the register in front of it from being declared,
and an execution fails behind the list of tags and in front of a view. -/
theorem wide_register_lines :
    let s : Setting := ⟨fun _ => .error .missing, fun _ => 0⟩
    let p := (start.feed s "qreg q[25];".toList).1
    let text := "creg c[1]; gate f a \x7b x a; \x7d f q[25];".toList
    p.feed s ":tags a :bogus".toList = (p.report (.directive (.unknown "bogus".toList)), none) ∧
      (∃ defined : List Definition, p.feed s text =
        (report (.statement (.indexOutOfRange 25 "q" 25)) { p with console := { p.console with
          events := (defined.map fun d => .note (.defined d)) ++ p.console.events } }, none)) ∧
      ∃ drawn, p.feed s ":list :go :polar".toList =
        (((p.feed s ":list".toList).1.drawing drawn).report (.execution (.tooWide 25)), none) := by
  intro s p text
  have hidle : p.reader = .idle := by decide +kernel
  have hrun : p.console.running = true := by decide +kernel
  have hunknown : commands ":tags a :bogus".toList = .error (.unknown "bogus".toList) := by
    decide +kernel
  have htext : (p.console.workspace.accept text (s.room.inside 2)).result =
      .error (.indexOutOfRange 25 "q" 25) := by
    decide +kernel
  have hread : commands ":list :go :polar".toList =
      .ok ([.list] ++ .go :: [.display .polar]) := by decide +kernel
  have hlist : commands ":list".toList = .ok [.list] := by decide +kernel
  obtain ⟨q, hq⟩ : ∃ q, p.execute s ":list".toList = (q, none) :=
    ⟨_, Prod.ext rfl (by decide +kernel)⟩
  have hgo : (perform (s.inside 1) (some fun s => level s (maxNesting - 1))
      (p.execute s ":list".toList).1.console .go).failure = some (.execution (.tooWide 25)) := by
    decide +kernel
  rw [hq] at hgo
  obtain ⟨hdirective, -, -⟩ := failing_line (s := s) hidle hrun ":tags a :bogus".toList
  obtain ⟨-, hstatement, -⟩ := failing_line (s := s) hidle hrun text
  obtain ⟨-, -, hcommand⟩ := failing_line (s := s) hidle hrun ":list :go :polar".toList
  obtain ⟨-, hfails⟩ := hcommand [.list] .go [.display .polar] hread (by decide)
  obtain ⟨hfeed, drawn, -, hreported | ⟨hforeign, -⟩⟩ := hfails _ q _ hlist hq hgo
  · refine ⟨hdirective _ (by decide) hunknown,
      hstatement _ (by decide) (by decide) (by decide) htext (by decide), drawn, ?_⟩
    rw [hfeed]
    exact hreported.2
  · exact absurd (by decide) hforeign

/-- A register of more bits than can be counted: the execution fails behind the list of tags, and is
not reported. -/
theorem uncountable_register_escapes :
    let s : Setting := ⟨fun _ => .error .missing, fun _ => 0⟩
    let p := (start.feed s "creg c[9223372036854775808];".toList).1
    Reachable s.draws p ∧ p.reader = .idle ∧ p.console.running = true ∧
      commands ":list :go".toList = .ok [.list, .go] ∧ commands ":list".toList = .ok [.list] ∧
      (p.feed s ":list".toList).2 = none ∧
      (p.feed s ":list :go".toList).2 = some (.execution (.overload .count)) ∧
      (p.feed s ":list :go".toList).1.console.events =
        (p.feed s ":list".toList).1.console.events := by
  intro s p
  exact ⟨.feed s rfl _ .start, by decide +kernel, by decide +kernel, by decide +kernel,
    by decide +kernel, by decide +kernel, by decide +kernel, by decide +kernel⟩

end Prompt

end CircuitConsole.Console
