import CircuitConsole.CommandLine.Launch
import CircuitConsole.Proofs.Console.Scripts

/-!
How a run ends. A script whose own file cannot be read ends it with one, before anything is asked
for. Any other script, whatever becomes of its lines and of the files it loads, only decides whether
the prompt opens, which it does unless the script quits; and then, as without a script, the run ends
with zero.
-/

namespace CircuitConsole.CommandLine

open Console

namespace Options

end Options

variable {s : Setting} {h : HistoryAccess} {o : Options} {inputs : List Input}

section Launching

end Launching

section Sessions

/-- Where the prompt does not open, nothing is asked for. -/
theorem session_of_not_prompting (hended : (launch s o).status ≠ .prompting) :
    session s h o inputs = launch s o := by
  cases hstatus : (launch s o).status with
  | prompting => exact absurd hstatus hended
  | ended code => simp only [session, hstatus]
  | broken f => simp only [session, hstatus]

end Sessions

section Breaking

variable {f : Failure}

theorem afterScript_broken {p : Prompt} {failure : Option Failure}
    (hbroken : (afterScript p failure).status = .broken f) :
    failure = some f ∧ f.isReported = false ∧ (afterScript p failure).prompt = p := by
  cases failure with
  | none =>
    unfold afterScript at hbroken
    dsimp only at hbroken
    split at hbroken <;> cases hbroken
  | some g =>
    cases hreported : g.isReported with
    | true =>
      simp only [afterScript, if_pos hreported] at hbroken
      split at hbroken
      · cases hbroken
      · dsimp only at hbroken
        split at hbroken <;> cases hbroken
    | false =>
      have hafter : afterScript p (some g) = ⟨p, .broken g⟩ :=
        if_neg (Bool.eq_false_iff.mp hreported)
      rw [hafter] at hbroken ⊢
      obtain rfl := Status.broken.inj hbroken
      exact ⟨rfl, hreported, rfl⟩

/-- A launch breaks for an escape in the script. -/
theorem launch_broken (hbroken : (launch s o).status = .broken f) :
    Escape (s.inside 4).least anyLine (launch s o).prompt.console.workspace f := by
  by_cases hscript : o.script = []
  · rw [launch, if_pos hscript] at hbroken
    cases hbroken
  · simp only [launch, if_neg hscript] at hbroken ⊢
    obtain ⟨hf, hforeign, hprompt⟩ := afterScript_broken hbroken
    rw [hprompt]
    have hroom : (s.inside 4).least ≤ (s.inside 1).room.inside (5 * maxNesting + 1) := by
      simp only [Setting.least, Setting.inside, Setting.within, Capacity.inside_inside]
      exact s.room.inside_le_inside (by decide)
    have hcourse := script_course (s := s.inside 1) (filesHold_any s.reading) hroom o.script
    exact (hcourse _).escape hf hforeign

theorem noteFault_workspace (note : Files.SystemFault → Note) (p : Prompt)
    (fault : Option Files.SystemFault) :
    (noteFault note p fault).console.workspace = p.console.workspace := by
  cases fault <;> rfl

/-- A run breaks where the history has no path, or for an escape: in the script, in what the user
does, or of the path of the history. -/
theorem session_broken (hbroken : (session s h o inputs).status = .broken f) :
    f = .noHistory ∨
      Escape (s.inside 4).least anyLine (session s h o inputs).prompt.console.workspace f := by
  by_cases hopen : (launch s o).status = .prompting
  · simp only [session, hopen] at hbroken ⊢
    cases hpath : historyPath o with
    | error g =>
      simp only [hpath] at hbroken ⊢
      obtain rfl := Status.broken.inj hbroken
      unfold historyPath at hpath
      split at hpath
      · exact .inl (Except.error.inj hpath).symm
      · split at hpath
        · rename_i hnull
          obtain rfl := Except.error.inj hpath
          exact .inr (.path (by simpa using hnull))
        · cases hpath
    | ok history =>
      simp only [hpath] at hbroken ⊢
      split at hbroken
      · cases hbroken
      · rename_i g hfailure
        obtain rfl := Status.broken.inj hbroken
        simp only [closePrompt, noteFault_workspace]
        exact .inr (Prompt.converse_escape (s := s.inside 4) (filesHold_any s.reading)
          (Reader.holds_any _) (fun _ _ => trivial) hfailure)
  · rw [session_of_not_prompting hopen] at hbroken ⊢
    exact .inr (launch_broken hbroken)

end Breaking

end CircuitConsole.CommandLine
