import CircuitConsole.Proofs.Console.Steps

/-!
Events are only written. What a line or a command does is the same whatever was written before it,
and earlier events stay where they are, behind the new ones. So a line may be carried out as if
nothing had been written yet, and the earlier events put back afterwards.
-/

namespace CircuitConsole.Console

def after (earlier : List Event) (c : Console) : Console :=
  { c with events := c.events ++ earlier }

def Effect.after (earlier : List Event) (e : Effect) : Effect :=
  ⟨e.console.after earlier, e.failure⟩

def Progress.after (earlier : List Event) (p : Progress) : Progress :=
  ⟨p.reader, p.console.after earlier, p.failure⟩

def silent (c : Console) : Console := { c with events := [] }

/-- A level that does not look at earlier events. -/
structure Level.Forgetful (l : Level) : Prop where
  consume : ∀ earlier reader line c,
    l.consume reader line (c.after earlier) = (l.consume reader line c).after earlier
  run : ∀ earlier commands c, l.run commands (c.after earlier) = (l.run commands c).after earlier

def ForgetfulBelow (below : Option (Setting → Level)) : Prop :=
  ∀ l, below = some l → ∀ s, (l s).Forgetful

variable (earlier : List Event)

section Actions

theorem define_after (definitions : List Definition) (c : Console) :
    definitions.foldl (fun c d => c.note (.defined d)) (c.after earlier) =
      (definitions.foldl (fun c d => c.note (.defined d)) c).after earlier := by
  induction definitions generalizing c with
  | nil => rfl
  | cons d definitions ih => exact ih (c.note (.defined d))

theorem accept_after (room : Capacity) (text : List Char) (c : Console) :
    (c.after earlier).accept room text = (c.accept room text).after earlier := by
  have hdefined := define_after earlier (c.workspace.accept text room).defined c
  have hworkspace : (c.after earlier).workspace = c.workspace := rfl
  unfold accept
  simp only [hworkspace, hdefined]
  cases (c.workspace.accept text room).result with
  | error fault => rfl
  | ok w => rfl

theorem go_after (s : Setting) (c : Console) :
    (c.after earlier).go s = (c.go s).after earlier := by
  have hexecute : (c.after earlier).workspace.execute s.draws (c.after earlier).drawn s.room =
      c.workspace.execute s.draws c.drawn s.room := rfl
  unfold go
  rw [hexecute]
  rcases c.workspace.execute s.draws c.drawn s.room with ⟨drawn, fault | w⟩
  · rfl
  · rfl

theorem goto_after (name : List Char) (c : Console) :
    (c.after earlier).goto name = (c.goto name).after earlier := by
  have htags : (c.after earlier).tags = c.tags := rfl
  unfold goto
  rw [htags]
  cases c.tags.find? name with
  | none => rfl
  | some w => rfl

theorem untag_after (name : List Char) (c : Console) :
    (c.after earlier).untag name = (c.untag name).after earlier := by
  have htags : (c.after earlier).tags = c.tags := rfl
  unfold untag
  rw [htags]
  cases c.tags.find? name with
  | none => rfl
  | some w => rfl

theorem display_after (s : Setting) (view : View) (c : Console) :
    (c.after earlier).display s view = (c.display s view).after earlier := by
  have hworkspace : (c.after earlier).workspace = c.workspace := rfl
  unfold display
  rw [hworkspace]
  split
  · rfl
  · cases view.render c.workspace s.room with
    | error o => rfl
    | ok text => rfl

theorem reportAt_after (path : List Char) (number : Nat) (f : Failure) (c : Console) :
    reportAt path number f (c.after earlier) = (reportAt path number f c).after earlier := by
  unfold reportAt
  split
  · rfl
  · rfl

end Actions

section Levels

theorem rounds_after {body : Console → Effect}
    (hbody : ∀ c, body (c.after earlier) = (body c).after earlier) (n : Nat) (c : Console) :
    rounds body n (c.after earlier) = (rounds body n c).after earlier := by
  induction n generalizing c with
  | zero => rfl
  | succ n ih =>
    have hrunning : (c.after earlier).running = c.running := rfl
    unfold rounds
    rw [hrunning]
    by_cases hrun : c.running
    · simp only [hrun, if_true, hbody, Effect.after]
      cases hf : (body c).failure with
      | none => exact ih _
      | some f => simp only [hf]
    · simp only [hrun]
      rfl

theorem readAll_after {l : Level} (hl : l.Forgetful) {recover : Nat → Failure → Console → Effect}
    (hrecover : ∀ n f c, recover n f (c.after earlier) = (recover n f c).after earlier)
    (number : Nat) (reader : Reader) (lines : List Line) (c : Console) :
    l.readAll recover number reader lines (c.after earlier) =
      (l.readAll recover number reader lines c).after earlier := by
  induction lines generalizing number reader c with
  | nil => rfl
  | cons line lines ih =>
    have hrunning : (c.after earlier).running = c.running := rfl
    unfold Level.readAll
    rw [hrunning]
    by_cases hrun : c.running
    · simp only [hrun, if_true, hl.consume, Progress.after]
      cases hf : (l.consume reader line c).failure with
      | none => exact ih _ _ _
      | some f =>
        simp only [hrecover, Effect.after]
        cases hg : (recover number f (l.consume reader line c).console).failure with
        | none => exact ih _ _ _
        | some g => rfl
    · simp only [hrun]
      rfl

theorem finish_after (p : Progress) (f : Failure) :
    (p.after earlier).finish f = (p.finish f).after earlier := by
  have hrunning : (p.after earlier).console.running = p.console.running := rfl
  have hreader : (p.after earlier).reader = p.reader := rfl
  have hfailure : (p.after earlier).failure = p.failure := rfl
  unfold Progress.finish
  rw [hfailure, hrunning, hreader]
  cases p.failure with
  | some g => rfl
  | none => dsimp only; split <;> rfl

theorem nested_after {s : Setting} {nesting : Nesting} {below : Option (Setting → Level)}
    {body : Level → Console → Effect} (hbelow : ForgetfulBelow below)
    (hbody : ∀ l c, l.Forgetful → body l (c.after earlier) = (body l c).after earlier)
    (c : Console) :
    nested s nesting below body (c.after earlier) =
      (nested s nesting below body c).after earlier := by
  cases below with
  | none => rfl
  | some l => exact hbody _ c (hbelow l rfl _)

variable {below : Option (Setting → Level)} (hbelow : ForgetfulBelow below)

include hbelow

theorem replay_after (s : Setting) (b : Block) (c : Console) :
    replay s below b (c.after earlier) = (replay s below b c).after earlier := by
  refine nested_after earlier hbelow ?_ (c.note (.replaying b.lines.length b.rounds))
  intro l c hl
  refine rounds_after earlier (fun c => ?_) _ c
  rw [readAll_after earlier hl (fun _ _ _ => rfl), finish_after]

theorem repeatInline_after (s : Setting) (count : Nat) (commands : List Command) (c : Console) :
    repeatInline s below count commands (c.after earlier) =
      (repeatInline s below count commands c).after earlier := by
  refine nested_after earlier hbelow ?_ c
  intro l c hl
  refine rounds_after earlier (fun c => ?_) _ c
  rw [hl.run, finish_after]

theorem load_after (s : Setting) (path : List Char) (c : Console) :
    load s below path (c.after earlier) = (load s below path c).after earlier := by
  unfold load
  cases Files.readLines s.reading path with
  | error fault => rfl
  | ok lines =>
    refine nested_after earlier hbelow ?_ (c.note (.loading path))
    intro l c hl
    rw [readAll_after earlier hl (reportAt_after earlier path), finish_after]

theorem perform_after (s : Setting) (k : Command) (c : Console) :
    perform s below (c.after earlier) k = (perform s below c k).after earlier := by
  cases k with
  | goto name => exact goto_after earlier name c
  | untag name => exact untag_after earlier name c
  | display view => exact display_after earlier s view c
  | go => exact go_after earlier s c
  | load path => exact load_after earlier hbelow (s.inside 2) path c
  | loop _ | close | tag _ | list | reset | help | quit => rfl

theorem runCommands_after (s : Setting) (commands : List Command) (c : Console) :
    runCommands s below commands (c.after earlier) =
      (runCommands s below commands c).after earlier := by
  fun_induction runCommands s below commands c with
  | case1 => rfl
  | case2 c hrun count => exact runCommands_opening (c := c.after earlier) hrun count
  | case3 c hrun count rest hne =>
    rw [runCommands_inline (c := c.after earlier) hrun hne, repeatInline_after earlier hbelow]
    rfl
  | case4 c hrun command rest _ hplain e hok ih =>
    have hperform := perform_after earlier hbelow s command c
    rw [runCommands_ok (c := c.after earlier) hplain hrun (by rw [hperform]; exact hok), hperform]
    exact ih
  | case5 c hrun command rest _ hplain e f hfailed =>
    have hperform := perform_after earlier hbelow s command c
    rw [runCommands_failed (c := c.after earlier) hplain hrun (by rw [hperform]; exact hfailed),
      hperform]
    rfl
  | case6 command rest c hrun => exact runCommands_stopped (c := c.after earlier) hrun

theorem closeBlock_after (s : Setting) (b : Block) (line : Line) (c : Console) :
    closeBlock s below b line (c.after earlier) = (closeBlock s below b line c).after earlier := by
  unfold closeBlock
  cases commands line with
  | error fault => rfl
  | ok commands =>
    simp only [replay_after earlier hbelow, Effect.after]
    cases hf : (replay (s.inside 1) below b c).failure with
    | none => exact runCommands_after earlier hbelow (s.inside 1) _ _
    | some f => simp only [Effect.idle, Progress.after, hf]

omit hbelow in
theorem takeStatement_after (s : Setting) (lines : List Line) (c : Console) :
    takeStatement s lines (c.after earlier) = (takeStatement s lines c).after earlier := by
  unfold takeStatement
  split
  · rfl
  · rw [accept_after]
    rfl

theorem takeFirst_after (s : Setting) (line : Line) (c : Console) :
    takeFirst s below line (c.after earlier) = (takeFirst s below line c).after earlier := by
  unfold takeFirst
  split
  · rfl
  · split
    · cases commands line with
      | error fault => rfl
      | ok commands => exact runCommands_after earlier hbelow (s.inside 1) commands c
    · exact takeStatement_after earlier s [line] c

theorem consumeLine_after (s : Setting) (reader : Reader) (line : Line) (c : Console) :
    consumeLine s below reader line (c.after earlier) =
      (consumeLine s below reader line c).after earlier := by
  cases reader with
  | idle => exact takeFirst_after earlier hbelow s line c
  | unfinished lines => exact takeStatement_after earlier s (lines ++ [line]) c
  | capturing b =>
    unfold consumeLine
    dsimp only
    cases b.capture? line with
    | some b => rfl
    | none => exact closeBlock_after earlier hbelow (s.inside 1) b line c

end Levels

theorem levelOver_forgetful (s : Setting) {below : Option (Setting → Level)}
    (hbelow : ForgetfulBelow below) : (levelOver s below).Forgetful :=
  ⟨fun earlier => consumeLine_after earlier hbelow s,
    fun earlier => runCommands_after earlier hbelow s⟩

/-- No level looks at earlier events. -/
theorem level_forgetful (s : Setting) (n : Nat) : (level s n).Forgetful := by
  induction n generalizing s with
  | zero => exact levelOver_forgetful s (fun l h => by simp at h)
  | succ n ih =>
    refine levelOver_forgetful s (fun l h s => ?_)
    obtain rfl := Option.some.inj h
    exact ih s

namespace Prompt

def after (earlier : List Event) (p : Prompt) : Prompt := ⟨p.reader, p.console.after earlier⟩

/-- What does not look at earlier events adds its own events, and does so after any others. -/
theorem exists_events {f : Prompt → Option Prompt}
    (hf : ∀ earlier p, f (p.after earlier) = (f p).map (Prompt.after earlier)) {p q : Prompt}
    (h : f p = some q) :
    ∃ events, q.console.events = events ++ p.console.events ∧
      ∀ earlier, f ⟨p.reader, { p.console with events := earlier }⟩ =
        some ⟨q.reader, { q.console with events := events ++ earlier }⟩ := by
  have hsplit : f p = (f ⟨p.reader, p.console.silent⟩).map (Prompt.after p.console.events) :=
    hf p.console.events ⟨p.reader, p.console.silent⟩
  rw [h] at hsplit
  obtain ⟨m, hm, rfl⟩ := Option.map_eq_some_iff.mp hsplit.symm
  refine ⟨m.console.events, rfl, fun earlier => ?_⟩
  have hafter := hf earlier ⟨p.reader, p.console.silent⟩
  rw [hm] at hafter
  exact hafter

end Prompt

end CircuitConsole.Console
