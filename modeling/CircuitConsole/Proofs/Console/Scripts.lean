import CircuitConsole.Proofs.Console.FailingLines
import CircuitConsole.Proofs.Console.LoadedFiles
import CircuitConsole.Proofs.Console.Quitting

/-!
Scripts. A script is a file that is loaded before anything else is open. If it cannot be read, that
is its failure; once it is read, failures in it are met where they happen, however deep the loads
and loops are, and only two kinds get out: those that stop the program, and a block or statement
that is open at the end. And only a quit stops a console. One that stops has come past a moment
where a quit was carried out, so that after a script it still runs unless the script quits.
-/

namespace CircuitConsole.Console

namespace Moment

variable {s : Setting} {m m' : Moment} {room : Capacity}

section Running

theorem proceed_console (m : Moment) (room : Capacity) (commands : List Command) (e : Effect) :
    (m.proceed room commands e).console = e.console := by
  unfold proceed
  split <;> rfl

end Running

/-- The room of the commands that would load a script where it is loaded. -/
@[reducible]
def outside (room : Capacity) : Capacity := { room with calls := room.calls + 2 }

def scripting (s : Setting) (path : List Char) (c : Console) : Moment :=
  ⟨.commands (outside s.room) [.load path], [], 0, c⟩

end Moment

section Scripts

variable {s : Setting} {path : List Char} {c : Console} {f : Failure}

/-- A script does what a load on a line of its own does. -/
theorem runCommands_script (hrun : c.running = true) :
    runCommands (s.within (Moment.outside s.room)) (some fun s => level s (maxNesting - 1))
      [.load path] c = (script s path c).idle :=
  runCommands_single (fun count h => by cases h) hrun

/-- Moment by moment a script comes to its end. -/
theorem script_leads (hrun : c.running = true) :
    (Moment.scripting s path c).Leads s
      ((Moment.scripting s path c).pause (script s path c).idle) := by
  have hbelow : TracedBelow s 0 (some fun s => level s (maxNesting - 1)) :=
    ⟨by decide, level_traced s (maxNesting - 1) 1 rfl⟩
  rw [← runCommands_script hrun]
  exact Moment.runCommands_leads [.load path] (Moment.scripting s path c) hbelow rfl

end Scripts

end CircuitConsole.Console
