import CircuitConsole.Proofs.Console.Completion

/-!
Quitting. Nothing unwinds at once: loaded files, blocks and inline loops are left one by one, and
commands that wait behind them are still met. But a console that is told to stop stays as it is
while they are left, because every line and command asks for a running console first; and what is
left has an idle reader, so that nothing is found open at its end.
-/

namespace CircuitConsole.Console

namespace Moment

variable {s : Setting} {m m' : Moment} {c : Console}

/-- Only leaving is left to do: the console is `c`, and nothing is open in a reader. -/
structure Unwinding (c : Console) (m : Moment) : Prop where
  console : m.console = c
  activity : m.activity = .between .idle none ∨
    ∃ room waiting, m.activity = .commands room waiting

theorem carryOut_stopped (h : m.console.running = false) (room : Capacity)
    (waiting : List Command) : m.carryOut s room waiting = m.pause m.console.done.idle := by
  cases waiting with
  | nil => rfl
  | cons command rest =>
    unfold carryOut
    exact if_neg (Bool.eq_false_iff.mp h)

theorem again_stopped (h : m.console.running = false) (outer : List Opened) (room : Capacity)
    (after : List Command) (e : Effect) (round : Nat → Activity × Opened) (n : Nat) :
    m.again outer room after e round n = m.leave outer room after e := by
  cases n with
  | zero => rfl
  | succ n => exact if_neg fun hround => Bool.eq_false_iff.mp h hround.2

/-- Whatever is open is left for the commands that follow it, with nothing done. -/
theorem goOn_stopped (h : m.console.running = false) (outer : List Opened) (o : Opened) :
    ∃ room after, m.goOn outer .idle o = m.leave outer room after m.console.done := by
  cases o with
  | file room path read left after =>
    refine ⟨room, after, ?_⟩
    cases left with
    | nil => rw [goOn, finish_idle]
    | cons line left => exact if_neg (Bool.eq_false_iff.mp h)
  | block room b rounds left after =>
    refine ⟨room, after, ?_⟩
    cases left with
    | nil => rw [goOn, again_stopped h, finish_idle]
    | cons line left => exact if_neg (Bool.eq_false_iff.mp h)
  | inline room rounds commands =>
    refine ⟨room, [], ?_⟩
    rw [goOn, again_stopped h, finish_idle]

theorem Unwinding.next (hm : m.Unwinding c) (hstopped : c.running = false)
    (h : m.next s = some m') : m'.Unwinding c := by
  obtain ⟨rfl, hbetween | ⟨room, waiting, hcommands⟩⟩ := hm
  · unfold Moment.next at h
    rw [hbetween] at h
    cases hopened : m.opened with
    | nil => simp [hopened] at h
    | cons o outer =>
      obtain ⟨room, after, hleave⟩ := goOn_stopped hstopped outer o
      simp only [hopened, hleave] at h
      obtain rfl := Option.some.inj h
      exact ⟨rfl, .inr ⟨room, after, rfl⟩⟩
  · unfold Moment.next at h
    rw [hcommands] at h
    simp only [carryOut_stopped hstopped] at h
    obtain rfl := Option.some.inj h
    exact ⟨rfl, .inl rfl⟩

theorem Unwinding.leads (hm : m.Unwinding c) (hstopped : c.running = false) (h : m.Leads s m') :
    m'.Unwinding c := by
  induction h with
  | refl => exact hm
  | tail _ hlast ih => exact ih.next hstopped hlast

/-- A quit is carried out: the console stops, and changes in nothing else. -/
theorem next_quit {room : Capacity} {rest : List Command}
    (hquit : m.activity = .commands room (.quit :: rest)) (hrun : m.console.running = true) :
    m.next s = some { m with
      activity := .commands room rest
      console := { m.console with running := false } } := by
  simp only [Moment.next, hquit]
  exact congrArg some (if_pos hrun)

def later (s : Setting) : Nat → Moment → Option Moment
  | 0, m => some m
  | n + 1, m => (m.next s).bind (later s n)

theorem leads_of_later {n : Nat} (h : m.later s n = some m') : m.Leads s m' := by
  induction n generalizing m with
  | zero =>
    obtain rfl := Option.some.inj h
    exact .refl
  | succ n ih =>
    obtain ⟨_, hnext, hrest⟩ := Option.bind_eq_some_iff.mp h
    exact .head hnext (ih hrest)

end Moment

/-- From the moment a quit is carried out, in the midst of whatever a line has set in motion, the
console stays as it is: nothing is queued, executed, tagged, drawn, written or reported any more,
and it does not run again. At no end of a file, round or line is anything found open, and the line
ends without a failure and with an idle reader. -/
theorem quit_final (s : Setting) (p : Prompt) (line : Line) {m : Moment} {room : Capacity}
    {rest : List Command} (hm : (Moment.beginning s line p).Leads s m)
    (hquit : m.activity = .commands room (.quit :: rest)) (hrun : m.console.running = true) :
    (∃ next, m.next s = some next ∧ ∀ m', next.Leads s m' →
      m'.Unwinding { m.console with running := false }) ∧
    p.feed s line = (⟨.idle, { m.console with running := false }⟩, none) := by
  have hnext := Moment.next_quit (s := s) hquit hrun
  have hunwinding (m' : Moment) (h : Moment.Leads s
      { m with
        activity := .commands room rest
        console := { m.console with running := false } } m') :
      m'.Unwinding { m.console with running := false } :=
    Moment.Unwinding.leads ⟨rfl, .inr ⟨room, rest, rfl⟩⟩ rfl h
  refine ⟨⟨_, hnext, hunwinding⟩, ?_⟩
  have hlast := Moment.leads_last rfl (Moment.beginning_leads s p line) (hm.tail hnext)
  obtain ⟨hconsole, hactivity⟩ := hunwinding _ hlast
  -- the last moment of the line is between lines, so that no command waits there
  have hends : (p.execute s line).1.reader = .idle ∧ (p.execute s line).2 = none := by
    rcases hactivity with hbetween | ⟨_, waiting, hcommands⟩
    · exact Activity.between.inj hbetween
    · cases hcommands
  have hexecuted : p.execute s line = (⟨.idle, { m.console with running := false }⟩, none) := by
    rw [← hconsole, ← hends.1, ← hends.2]
    rfl
  simp only [Prompt.feed, hexecuted, Prompt.settle]

/-- A file quits that is loaded in an inline loop in a block of a file that is itself loaded in an
inline loop. Five things are open then, and behind each of them something waits; what was done
before is all that is done. -/
theorem quit_inside_everything :
    let outer := ":loop 2\n:loop 3 :load g :help\n:end :go\nx q[0];"
    let inner := "qreg q[1];\n:tags a :quit :list\nx q[0];\n:loop 4"
    let s : Setting := ⟨fun path => .ok ((if path.components = [['g']] then inner else outer).toList.map
      fun ch => ch.toNat.toUInt8), fun _ => 0⟩
    let line := ":loop 2 :load f :list".toList
    ∃ m, (Moment.beginning s line .start).Leads s m ∧ m.opened.length = 5 ∧
      m.console.tags.length = 1 ∧ m.console.workspace.queue.length = 0 ∧
      Prompt.start.feed s line = (⟨.idle, { m.console with running := false }⟩, none) := by
  intro outer inner s line
  obtain ⟨m, hlater⟩ : ∃ m, (Moment.beginning s line .start).later s 27 = some m :=
    Option.isSome_iff_exists.mp (by decide +kernel)
  have hfacts : ((Moment.beginning s line .start).later s 27).map (fun m => (m.activity,
      m.opened.length, m.console.running, m.console.tags.length, m.console.workspace.queue.length)) =
        some (.commands (s.room.inside 14) [.quit, .list], 5, true, 1, 0) := by
    decide +kernel
  rw [hlater] at hfacts
  obtain ⟨hquit, hopened, hrun, htags, hqueue⟩ := by
    simpa only [Prod.mk.injEq] using Option.some.inj hfacts
  have hm := Moment.leads_of_later hlater
  exact ⟨m, hm, hopened, htags, hqueue, (quit_final s .start line hm hquit hrun).2⟩

end CircuitConsole.Console
