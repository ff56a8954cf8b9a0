import CircuitConsole.Proofs.Console.EarlierEvents
import CircuitConsole.Proofs.Console.WrittenCommands

/-!
Lines fed to a prompt. A single command on a line is carried out by the level of the user, and the
prompt stays idle. A line that leaves something open has not stopped the console, so that a console
that is told to stop has an idle reader. Inputs are answered one after the other, with the failures
that are handed on; what was written before does not matter to the answers, and stays behind what
they write.
-/

namespace CircuitConsole.Console

section Stopping

variable {s : Setting} {below : Option (Setting → Level)}

theorem running_of_runCommands_open {commands : List Command} {c : Console}
    (h : (runCommands s below commands c).reader ≠ .idle) :
    (runCommands s below commands c).console.running = true := by
  fun_induction runCommands s below commands c with
  | case2 c hrun => exact hrun
  | case4 c _ command rest _ _ e _ ih => exact ih h
  | case1 | case3 | case5 | case6 => exact absurd rfl h

theorem running_of_closeBlock_open {b : Block} {line : Line} {c : Console}
    (hrun : c.running = true) (h : (closeBlock s below b line c).reader ≠ .idle) :
    (closeBlock s below b line c).console.running = true := by
  unfold closeBlock at h ⊢
  cases hread : commands line with
  | error fault => exact hrun
  | ok ks =>
    simp only [hread] at h ⊢
    cases hf : (replay (s.inside 1) below b c).failure with
    | none =>
      simp only [hf] at h
      exact running_of_runCommands_open h
    | some f =>
      simp only [hf] at h
      exact absurd rfl h

theorem running_of_takeStatement_open {lines : List Line} {c : Console} (hrun : c.running = true)
    (h : (takeStatement s lines c).reader ≠ .idle) :
    (takeStatement s lines c).console.running = true := by
  unfold takeStatement at h ⊢
  split
  · exact hrun
  · rename_i hclosed
    rw [if_neg hclosed] at h
    exact absurd rfl h

theorem running_of_takeFirst_open {line : Line} {c : Console} (hrun : c.running = true)
    (h : (takeFirst s below line c).reader ≠ .idle) :
    (takeFirst s below line c).console.running = true := by
  unfold takeFirst at h ⊢
  split at h
  · exact absurd rfl h
  · rename_i hblank
    rw [if_neg hblank]
    split at h
    · rename_i hdirective
      rw [if_pos hdirective]
      cases hread : commands line with
      | error fault =>
        simp only [hread] at h
        exact absurd rfl h
      | ok ks =>
        simp only [hread] at h
        exact running_of_runCommands_open h
    · rename_i hdirective
      rw [if_neg hdirective]
      exact running_of_takeStatement_open hrun h

/-- A line that leaves its reader with something open does not stop the console. -/
theorem running_of_consumeLine_open {reader : Reader} {line : Line} {c : Console}
    (hrun : c.running = true) (h : (consumeLine s below reader line c).reader ≠ .idle) :
    (consumeLine s below reader line c).console.running = true := by
  cases reader with
  | idle => exact running_of_takeFirst_open hrun h
  | unfinished lines => exact running_of_takeStatement_open hrun h
  | capturing b =>
    unfold consumeLine at h ⊢
    dsimp only at h ⊢
    cases hcapture : b.capture? line with
    | some b => exact hrun
    | none =>
      simp only [hcapture] at h
      exact running_of_closeBlock_open hrun h

end Stopping

theorem top_eq (s : Setting) :
    top s = levelOver s (some fun s => level s (maxNesting - 1)) := rfl

namespace Prompt

variable {s : Setting} {p : Prompt} {line : Line}

theorem settle_reader (p : Prompt) (f : Option Failure) : (p.settle f).1.reader = p.reader := by
  unfold settle
  split
  · rfl
  · split <;> rfl

/-- Reporting the failure of a line leaves the reader as the line does. -/
theorem reader_feed (s : Setting) (line : Line) (p : Prompt) :
    (p.feed s line).1.reader = (p.execute s line).1.reader := settle_reader _ _

theorem settle_running (p : Prompt) (f : Option Failure) :
    (p.settle f).1.console.running = p.console.running := by
  unfold settle
  split
  · rfl
  · split <;> rfl

/-- A prompt with something open has not been stopped by the line before. -/
theorem running_of_feed_open (hrun : p.console.running = true)
    (h : (p.feed s line).1.reader ≠ .idle) : (p.feed s line).1.console.running = true := by
  unfold feed at h ⊢
  rw [settle_reader] at h
  rw [settle_running]
  exact running_of_consumeLine_open hrun h

/-- A line is taken by the level of the user, and its failure is settled. -/
theorem feed_eq {e : Progress} (h : (top s).consume p.reader line p.console = e) :
    p.feed s line = settle ⟨e.reader, e.console⟩ e.failure := by
  rw [← h]
  rfl

/-- A command that stands alone on its line is carried out, and its failure is reported. -/
theorem feed_command {k : Command} (hidle : p.reader = .idle) (hrun : p.console.running = true)
    (hdirective : isDirective line = true) (hread : commands line = .ok [k])
    (hplain : ∀ count, k ≠ .loop count) :
    p.feed s line =
      settle
        ⟨.idle, (perform (s.inside 1) (some fun s => level s (maxNesting - 1)) p.console k).console⟩
        (perform (s.inside 1) (some fun s => level s (maxNesting - 1)) p.console k).failure := by
  have hblank := trim_of_isDirective hdirective
  have hconsumed : (top s).consume p.reader line p.console =
      (perform (s.inside 1) (some fun s => level s (maxNesting - 1)) p.console k).idle := by
    rw [hidle, top_eq]
    simp only [levelOver, consumeLine, takeFirst, if_neg hblank, if_pos hdirective, hread,
      runCommands_single hplain hrun]
  exact feed_eq hconsumed

section Answers

def answers (s : Setting) : List Input → Prompt → Prompt × List (Option Failure)
  | [], p => (p, [])
  | input :: inputs, p =>
    let (p, failure) := p.answer s input
    let (p, failures) := p.answers s inputs
    (p, failure :: failures)

theorem answers_line (line : Line) (inputs : List Input) (p : Prompt) :
    p.answers s (.line line :: inputs) =
      (((p.feed s line).1.answers s inputs).1,
        (p.feed s line).2 :: ((p.feed s line).1.answers s inputs).2) := rfl

theorem answers_append (front back : List Input) (p : Prompt) :
    p.answers s (front ++ back) =
      (((p.answers s front).1.answers s back).1,
        (p.answers s front).2 ++ ((p.answers s front).1.answers s back).2) := by
  induction front generalizing p with
  | nil => rfl
  | cons input front ih => simp only [List.cons_append, answers, ih]

section Events

variable (earlier : List Event)

theorem settle_after (p : Prompt) (failure : Option Failure) :
    (p.after earlier).settle failure =
      ((p.settle failure).1.after earlier, (p.settle failure).2) := by
  cases failure with
  | none => rfl
  | some f =>
    unfold settle
    dsimp only
    split <;> rfl

theorem feed_after (line : Line) (p : Prompt) :
    (p.after earlier).feed s line = ((p.feed s line).1.after earlier, (p.feed s line).2) := by
  have hline : (top s).consume (p.after earlier).reader line (p.after earlier).console =
      ((top s).consume p.reader line p.console).after earlier :=
    (level_forgetful s maxNesting).consume earlier p.reader line p.console
  rw [feed_eq hline, feed_eq rfl]
  exact settle_after earlier ⟨_, _⟩ _

theorem answer_after (input : Input) (p : Prompt) :
    (p.after earlier).answer s input =
      ((p.answer s input).1.after earlier, (p.answer s input).2) := by
  cases input with
  | line line => exact feed_after earlier line p
  | interruption => rfl

theorem answers_after (inputs : List Input) (p : Prompt) :
    (p.after earlier).answers s inputs =
      ((p.answers s inputs).1.after earlier, (p.answers s inputs).2) := by
  induction inputs generalizing p with
  | nil => rfl
  | cons input inputs ih => simp only [answers, answer_after, ih]

end Events

/-- What does not depend on earlier events adds its own, and is the same whatever others were there
before. -/
theorem exists_events_of_after {α : Type} {f : Prompt → Prompt × α}
    (hf : ∀ earlier p, f (p.after earlier) = ((f p).1.after earlier, (f p).2)) (p : Prompt) :
    ∃ events, (f p).1.console.events = events ++ p.console.events ∧
      ∀ earlier, f ⟨p.reader, { p.console with events := earlier }⟩ =
        (⟨(f p).1.reader, { (f p).1.console with events := events ++ earlier }⟩, (f p).2) := by
  have hsplit : f p = ((f ⟨p.reader, p.console.silent⟩).1.after p.console.events,
      (f ⟨p.reader, p.console.silent⟩).2) := hf p.console.events ⟨p.reader, p.console.silent⟩
  refine ⟨_, by rw [hsplit]; rfl, fun earlier => ?_⟩
  rw [hsplit]
  exact hf earlier ⟨p.reader, p.console.silent⟩

end Answers

end Prompt

end CircuitConsole.Console
