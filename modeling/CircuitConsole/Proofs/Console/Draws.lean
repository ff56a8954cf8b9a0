import CircuitConsole.Proofs.Console.MomentSteps
import CircuitConsole.Proofs.Console.Scripts
import CircuitConsole.Proofs.Simulation.Drawing
import CircuitConsole.Proofs.Workspace.WellFormed

/-!
Random numbers drawn in a session. Only an execution draws, and it draws the numbers that follow
those drawn before, in the order of its queue. The count of what was drawn belongs to the console
and not to its workspaces, so that no goto, reset or replay brings a number back; an execution that
fails keeps what it has drawn. What a session has drawn is therefore the sum of what its executions
have drawn, in whatever loops and files they were carried out.
-/

namespace CircuitConsole

open Simulation

/-- The random numbers of an execution are those that follow. There are as many as operations that
take one, no other is looked at, and when an operation is reached those before it have taken theirs.
One that takes a number is carried out with the next; any other depends on none. -/
structure Circuit.DrawsInOrder (draws : Draws Float) (drawn : Nat) (c : Circuit Float)
    (room : Capacity) : Prop where
  count : (c.execute draws drawn room).1 = drawn + c.taken draws drawn room
  only : ∀ draws' : Draws Float,
    (∀ k, k < c.taken draws drawn room → draws' (drawn + k) = draws (drawn + k)) →
      c.execute draws' drawn room = c.execute draws drawn room
  place : ∀ before r after, c.reached draws drawn room = before ++ r :: after →
    r.1.drawn = drawn + before.countP Machine.takes
  taking : ∀ r ∈ c.reached draws drawn room, Machine.takes r = true →
    ∃ m, r.1.step draws r.2 = .ok m ∧ m.drawn = r.1.drawn + 1 ∧
      ∀ draws' : Draws Float, draws' r.1.drawn = draws r.1.drawn → r.1.step draws' r.2 = .ok m
  quiet : ∀ r ∈ c.reached draws drawn room, Machine.takes r = false → ∀ draws' : Draws Float,
    r.1.step draws' r.2 = r.1.step draws r.2 ∧
      ∀ m, r.1.step draws r.2 = .ok m → m.drawn = r.1.drawn

/-- Where all operations fit, an execution draws in order. -/
theorem Circuit.Fitting.drawsInOrder {c : Circuit Float} (h : c.Fitting) (draws : Draws Float)
    (drawn : Nat) (room : Capacity) : c.DrawsInOrder draws drawn room where
  count := execute_drawn h draws drawn room
  only _ hsame := execute_congr h hsame
  place before r after hreached := by
    unfold reached at hreached
    split at hreached
    · exact Machine.reached_drawn (h.ready drawn) hreached
    · simp at hreached
  taking r hr htakes := by
    obtain ⟨hwhole, hfits⟩ := reached_ready h hr
    exact Machine.step_taking draws hwhole hfits htakes
  quiet _ _ htakes draws' :=
    ⟨Machine.step_quiet_congr draws draws' htakes, fun _ => Machine.step_quiet_drawn htakes⟩

theorem Workspace.WellFormed.fitting {w : Workspace} (hw : w.WellFormed) : w.circuit.Fitting :=
  hw.instructions

namespace Console

section Actions

theorem accept_drawn (room : Capacity) (text : List Char) (c : Console) :
    (c.accept room text).console.drawn = c.drawn := by
  simp only [accept, foldl_defined]
  split <;> rfl

/-- No command but an execution draws. -/
theorem perform_drawn {k : Command} (hk : k ≠ .go) (s : Setting) (c : Console) :
    (perform s none c k).console.drawn = c.drawn := by
  cases k with
  | go => exact absurd rfl hk
  | loop _ | close | reset | quit | list | help | tag _ => rfl
  | goto name =>
    simp only [perform, goto]
    split <;> rfl
  | untag name =>
    simp only [perform, untag]
    split <;> rfl
  | display view =>
    simp only [perform, display]
    split
    · rfl
    · split <;> rfl
  | load path =>
    simp only [perform, load]
    split <;> rfl

structure Execution where
  room : Capacity
  console : Console

def Execution.drawn (draws : Draws Float) (e : Execution) : Nat :=
  e.console.workspace.circuit.taken draws e.console.drawn e.room

theorem go_drawn {s : Setting} {c : Console} (hc : c.Reachable s.draws) :
    (c.go s).console.drawn = c.drawn + Execution.drawn s.draws ⟨s.room, c⟩ := by
  have hwell := (hc.workspaces _ c.workspace_mem).wellFormed
  have hcount : (c.workspace.execute s.draws c.drawn s.room).1 =
      c.drawn + Execution.drawn s.draws ⟨s.room, c⟩ :=
    (hwell.fitting.drawsInOrder s.draws c.drawn s.room).count
  unfold go
  split
  · rename_i hexecute
    rw [← hcount, hexecute]
    rfl
  · rename_i hexecute
    rw [← hcount, hexecute]
    rfl

end Actions

namespace Moment

variable {s : Setting} {m m' : Moment} {room : Capacity}

def Executes (m : Moment) (room : Capacity) : Prop :=
  (∃ rest, m.activity = .commands room (.go :: rest)) ∧ m.console.running = true

/-- What a moment does to a console is an action, or nothing. -/
theorem Becomes.steps {p : Progress} (h : m.Becomes s p) :
    Steps s.draws m.console p.console := by
  cases h with
  | same | idle | captured | refused | held => exact .refl
  | noted | opened | reported => exact steps_emit _ _ _
  | accepted => exact .single (.accept _ _ _)
  | @performed room => exact .single (.command (s.within room) rfl _ _)

/-- Where no execution is about to be carried out, no random number is drawn or given back. -/
theorem next_drawn (h : m.next s = some m') (hexecutes : ∀ room, ¬ m.Executes room) :
    m'.console.drawn = m.console.drawn := by
  suffices hbecomes : ∀ p, m.Becomes s p → p.console.drawn = m.console.drawn from
    hbecomes _ (next_becomes h)
  intro p hp
  cases hp with
  | same | idle | captured | refused | held | noted | opened | reported => rfl
  | accepted => exact accept_drawn _ _ _
  | @performed room k rest hactivity hrun =>
    exact perform_drawn (fun hk => hexecutes room ⟨⟨rest, hk ▸ hactivity⟩, hrun⟩) _ m.console

theorem next_execution (h : m.next s = some m') (hexecutes : m.Executes room) :
    m'.console = (m.console.go (s.within room)).console := by
  obtain ⟨⟨rest, hactivity⟩, hrun⟩ := hexecutes
  have hnext : m.next s = some (m.proceed room rest (m.console.go (s.within room))) := by
    simp only [Moment.next, hactivity]
    exact congrArg some (if_pos hrun)
  obtain rfl := Option.some.inj (h.symm.trans hnext)
  exact proceed_console _ _ _ _

/-- One moment leads to another, and these executions are carried out on the way. -/
inductive Carries (s : Setting) : Moment → Moment → List Execution → Prop
  | refl (m : Moment) : Carries s m m []
  | execution {m m₁ m' : Moment} {room : Capacity} {executed : List Execution}
      (hexecutes : m.Executes room) (hnext : m.next s = some m₁)
      (hrest : Carries s m₁ m' executed) : Carries s m m' (⟨room, m.console⟩ :: executed)
  | other {m m₁ m' : Moment} {executed : List Execution} (hexecutes : ∀ room, ¬ m.Executes room)
      (hnext : m.next s = some m₁) (hrest : Carries s m₁ m' executed) : Carries s m m' executed

theorem exists_carries (h : m.Leads s m') : ∃ executed, m.Carries s m' executed := by
  induction h using Relation.ReflTransGen.head_induction_on with
  | refl => exact ⟨[], .refl _⟩
  | @head m m₁ hnext _ ih =>
    obtain ⟨executed, hrest⟩ := ih
    by_cases hexecutes : ∃ room, m.Executes room
    · obtain ⟨room, hexecutes⟩ := hexecutes
      exact ⟨_, .execution hexecutes hnext hrest⟩
    · exact ⟨_, .other (not_exists.mp hexecutes) hnext hrest⟩

/-- From one moment to another as many random numbers are drawn as by all executions on the way. -/
theorem Carries.drawn {executed : List Execution} (h : m.Carries s m' executed)
    (hm : m.console.Reachable s.draws) :
    m'.console.drawn = m.console.drawn + (executed.map (Execution.drawn s.draws)).sum ∧
      ∀ e ∈ executed, e.console.Reachable s.draws := by
  induction h with
  | refl m => exact ⟨rfl, List.forall_mem_nil _⟩
  | @execution m m₁ m' room executed hexecutes hnext _ ih =>
    obtain ⟨hsum, hreachable⟩ := ih (hm.trans (next_becomes hnext).steps)
    refine ⟨?_, List.forall_mem_cons.mpr ⟨hm, hreachable⟩⟩
    rw [hsum, next_execution hnext hexecutes, go_drawn (s := s.within room) hm, List.map_cons,
      List.sum_cons, Nat.add_assoc]
    rfl
  | @other m m₁ m' executed hexecutes hnext _ ih =>
    obtain ⟨hsum, hreachable⟩ := ih (hm.trans (next_becomes hnext).steps)
    exact ⟨by rw [hsum, next_drawn hnext hexecutes], hreachable⟩

end Moment

namespace Prompt

/-- A session, with the executions that were carried out in it: lines are fed, interrupted, asked
for and loaded from scripts, with files that may differ from one to the next. -/
inductive Session (draws : Draws Float) : Prompt → List Execution → Prop
  | start : Session draws .start []
  | feed (s : Setting) (hs : s.draws = draws) (line : Line) {p : Prompt}
      {earlier executed : List Execution} (h : Session draws p earlier)
      (hline : (Moment.beginning s line p).Carries s (Moment.ending (p.execute s line))
        executed) :
      Session draws (p.feed s line).1 (earlier ++ executed)
  | interrupt {p : Prompt} {earlier : List Execution} (h : Session draws p earlier) :
      Session draws p.interrupt earlier
  | emit (e : Event) {p : Prompt} {earlier : List Execution} (h : Session draws p earlier) :
      Session draws { p with console := p.console.emit e } earlier
  | script (s : Setting) (hs : s.draws = draws) (path : List Char) {p : Prompt}
      {earlier executed : List Execution} (h : Session draws p earlier)
      (hscript : (Moment.scripting s path p.console).Carries s
        ((Moment.scripting s path p.console).pause (Console.script s path p.console).idle)
          executed) :
      Session draws { p with console := (Console.script s path p.console).console }
        (earlier ++ executed)

section Sessions

variable {draws : Draws Float} {p : Prompt} {executed : List Execution}

theorem settle_drawn (p : Prompt) (failure : Option Failure) :
    (p.settle failure).1.console.drawn = p.console.drawn := by
  cases failure with
  | none => rfl
  | some f =>
    unfold settle
    dsimp only
    split <;> rfl

theorem Session.console (h : p.Session draws executed) : p.console.Reachable draws := by
  induction h with
  | start => exact .refl
  | feed s hs line _ _ ih => exact ih.trans (hs ▸ feed_steps s line _)
  | interrupt _ ih => exact ih
  | emit e _ ih => exact ih.trans (steps_emit draws e _)
  | script s hs path _ _ ih =>
    exact ih.trans (hs ▸ (script_course (filesHold_any s.reading) (le_refl _) path _).steps)

/-- What a session has drawn is what its executions have drawn. -/
theorem Session.drawn (h : p.Session draws executed) :
    p.console.drawn = (executed.map (Execution.drawn draws)).sum ∧
      ∀ e ∈ executed, e.console.Reachable draws := by
  induction h with
  | start => exact ⟨rfl, List.forall_mem_nil _⟩
  | interrupt _ ih => exact ih
  | emit _ _ ih => exact ih
  | @feed s hs line p earlier executed h hline ih =>
    subst hs
    obtain ⟨hsum, hreachable⟩ := hline.drawn h.console
    refine ⟨?_, List.forall_mem_append.mpr ⟨ih.2, hreachable⟩⟩
    have hfed : (p.feed s line).1.console.drawn = (p.execute s line).1.console.drawn :=
      settle_drawn _ _
    rw [hfed, List.map_append, List.sum_append, ← ih.1]
    exact hsum
  | @script s hs path p earlier executed h hscript ih =>
    subst hs
    obtain ⟨hsum, hreachable⟩ := hscript.drawn h.console
    refine ⟨?_, List.forall_mem_append.mpr ⟨ih.2, hreachable⟩⟩
    rw [List.map_append, List.sum_append, ← ih.1]
    exact hsum

/-- A console that has stopped is not given a script's lines. -/
theorem script_stopped {s : Setting} {c : Console} (h : c.running = false) (path : List Char) :
    (Console.script s path c).console = c ∨
      (Console.script s path c).console = c.note (.loading path) := by
  unfold Console.script load
  split
  · exact .inl rfl
  · rename_i lines _
    refine .inr ((finish_console _ _).trans ?_)
    have hstopped : ¬ (c.note (.loading path)).running = true := Bool.eq_false_iff.mp h
    cases lines with
    | nil => rfl
    | cons line lines => rw [readAll_cons, if_neg hstopped]

/-- All that a user reaches is reached in a session. -/
theorem Reachable.exists_session (h : p.Reachable draws) :
    ∃ executed, p.Session draws executed := by
  induction h with
  | start => exact ⟨[], .start⟩
  | interrupt _ ih =>
    obtain ⟨executed, h⟩ := ih
    exact ⟨executed, h.interrupt⟩
  | write text _ ih =>
    obtain ⟨executed, h⟩ := ih
    exact ⟨executed, h.emit _⟩
  | @feed s hs line p _ ih =>
    obtain ⟨earlier, h⟩ := ih
    obtain ⟨executed, hline⟩ := Moment.exists_carries (Moment.beginning_leads s p line)
    exact ⟨_, h.feed s hs line hline⟩
  | @script s hs path p _ ih =>
    obtain ⟨earlier, h⟩ := ih
    by_cases hrun : p.console.running = true
    · have hleads : (Moment.scripting s path p.console).Leads s _ := script_leads hrun
      obtain ⟨executed, hscript⟩ := Moment.exists_carries hleads
      exact ⟨_, h.script s hs path hscript⟩
    · have hstopped := Bool.eq_false_iff.mpr hrun
      rcases script_stopped (s := s) hstopped path with hscript | hscript
      · exact ⟨earlier, by rw [hscript]; exact h⟩
      · exact ⟨earlier, by rw [hscript]; exact h.emit _⟩

end Sessions

end Prompt

/-- Every draw is accounted for. An execution of any workspace takes one random number, the next in
order, for each measurement and reset whose condition holds when it is reached, and none for
anything else. From one moment of a line or script to the next, nothing else draws or gives back a
number. And every prompt that a user reaches has drawn, in the session that led there, what the
executions have drawn that were carried out in it, the failing ones included. -/
theorem draws_accounted (draws : Draws Float) :
    (∀ w : Workspace, w.Reachable draws → ∀ (random : Draws Float) (drawn : Nat)
      (room : Capacity), w.circuit.DrawsInOrder random drawn room) ∧
    (∀ (s : Setting) (m m' : Moment), m.next s = some m' → (∀ room, ¬ m.Executes room) →
      m'.console.drawn = m.console.drawn) ∧
    (∀ p : Prompt, p.Reachable draws → ∃ executed, p.Session draws executed) ∧
    ∀ (p : Prompt) (executed : List Execution), p.Session draws executed →
      p.console.drawn = (executed.map (Execution.drawn draws)).sum ∧
        ∀ e ∈ executed, e.console.Reachable draws := by
  refine ⟨fun w hw random drawn room => hw.wellFormed.fitting.drawsInOrder random drawn room,
    ?_, ?_, ?_⟩
  · exact fun s m m' hnext hexecutes => Moment.next_drawn hnext hexecutes
  · exact fun p hp => hp.exists_session
  · exact fun p executed hp => hp.drawn

/-- A measurement is executed, and executed again after going back to before it. -/
theorem measured_again_after_goto :
    let s : Setting := ⟨fun _ => .error .missing, fun _ => 0⟩
    let p := (Prompt.start.feed s "qreg q[1]; creg c[1]; measure q -> c;".toList).1
    let q := (p.feed s ":tags a :go :goto a :loop 2 :go".toList).1
    ∃ executed, q.Session s.draws executed ∧
      (executed.map (Execution.drawn s.draws)).sum = 3 := by
  intro s p q
  obtain ⟨-, -, hsession, hdrawn⟩ := draws_accounted s.draws
  have hq : q.Reachable s.draws := .feed s rfl _ (.feed s rfl _ .start)
  obtain ⟨executed, h⟩ := hsession q hq
  refine ⟨executed, h, (hdrawn q executed h).1.symm.trans ?_⟩
  decide +kernel

end Console

end CircuitConsole
