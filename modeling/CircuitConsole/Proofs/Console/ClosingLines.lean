import CircuitConsole.Proofs.Console.Feeding
import CircuitConsole.Proofs.Console.Brackets

/-!
Closing lines that are not read. Such a line is reported and otherwise passed over, since it is read
before anything of the block is carried out: the block stays open as it was, and all that follows is
as if the line had never been entered.
-/

namespace CircuitConsole.Console

variable {s : Setting} {p : Prompt} {b : Block} {line : Line} {fault : DirectiveFault}

/-- A closing line that is not read leaves nothing behind but its report. -/
theorem feed_closing (hopen : p.reader = .capturing b) (hdepth : b.depth = 0)
    (hclosing : bracket line = .closing) (hread : commands line = .error fault) :
    p.feed s line = (p.report (.closing fault), none) := by
  have hcapture : b.capture? line = none := by rw [capture_eq, hclosing, hdepth]; rfl
  have hconsumed : (top s).consume p.reader line p.console =
      ⟨p.reader, p.console, some (.closing fault)⟩ := by
    rw [hopen]
    simp only [top_eq, levelOver, consumeLine, hcapture, closeBlock, hread]
  exact Prompt.feed_eq hconsumed

/-- A line that would close the outermost block, but is not read, is reported as leaving it open.
Whatever is entered from there on is answered as if that line had not been, with the report among
the earlier events. -/
theorem closing_line_retried (hopen : p.reader = .capturing b) (hdepth : b.depth = 0)
    (hclosing : bracket line = .closing) (hread : commands line = .error fault) :
    p.feed s line = (p.report (.closing fault), none) ∧
      (Failure.closing fault).label = fault.label ∧
      (Failure.closing fault).message = fault.message ++ "; the :loop block is still open" ∧
      ∀ inputs, ∃ events, (p.answers s inputs).1.console.events = events ++ p.console.events ∧
        (p.feed s line).1.answers s inputs =
          (⟨(p.answers s inputs).1.reader, { (p.answers s inputs).1.console with
            events := events ++ .report none (.closing fault) :: p.console.events }⟩,
            (p.answers s inputs).2) := by
  have hfed := feed_closing (s := s) hopen hdepth hclosing hread
  refine ⟨hfed, rfl, rfl, fun inputs => ?_⟩
  obtain ⟨events, hevents, hexchange⟩ :=
    Prompt.exists_events_of_after (f := Prompt.answers s inputs)
      (fun earlier p => Prompt.answers_after earlier inputs p) p
  refine ⟨events, hevents, ?_⟩
  rw [hfed]
  exact hexchange (.report none (.closing fault) :: p.console.events)

/-- After an unknown directive behind the end the block takes one more line, and is then closed. -/
theorem unknown_directive_behind_end :
    let s : Setting := ⟨fun _ => .error .missing, fun _ => 0⟩
    let lines := ["qreg q[1];".toList, ":loop 2".toList, ":loop 3".toList, ":end".toList]
    let p := (Prompt.start.answers s (lines.map .line)).1
    let rest := [Input.line "x q[0];".toList, .line ":end".toList]
    p.feed s ":end :again".toList = (p.report (.closing (.unknown "again".toList)), none) ∧
      ∃ events, (p.answers s rest).1.console.events = events ++ p.console.events ∧
        (p.feed s ":end :again".toList).1.answers s rest =
          (⟨.idle, { (p.answers s rest).1.console with
            events := events ++ .report none (.closing (.unknown "again".toList)) ::
              p.console.events }⟩, [none, none]) ∧
        (p.answers s rest).1.console.workspace.queue.length = 2 := by
  intro s lines p rest
  obtain ⟨hfed, -, -, hrest⟩ := @closing_line_retried s p
    ⟨2, [":loop 3".toList, ":end".toList], 0⟩ ":end :again".toList (.unknown "again".toList)
    (by decide +kernel) rfl (by decide) (by decide)
  obtain ⟨events, hevents, hanswers⟩ := hrest rest
  have hreader : (p.answers s rest).1.reader = .idle := by decide +kernel
  have hfailures : (p.answers s rest).2 = [none, none] := by decide +kernel
  rw [hreader, hfailures] at hanswers
  exact ⟨hfed, events, hevents, hanswers, by decide +kernel⟩

end CircuitConsole.Console
