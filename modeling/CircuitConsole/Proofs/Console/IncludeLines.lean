import CircuitConsole.Proofs.Console.BraceCounts
import CircuitConsole.Proofs.Console.FailingLines
import CircuitConsole.Proofs.Statement.IncludeTexts
import CircuitConsole.Proofs.Workspace.Commitment

/-!
Lines that include a file. With a name that has no brace, no semicolon and no two slashes in it they
change nothing, whatever the name is. The characters of any other name are read as those of a
circuit text: a brace that is not closed keeps the reader waiting for more, and otherwise the line
is reported.
-/

namespace CircuitConsole

open Statement

namespace Workspace

variable {w : Workspace} {text s : List Char}

theorem commit_draft (w : Workspace) : w.commit w.draft = w := by
  simp [commit, draft]

/-- A statement that is ignored leaves the workspace as it is. -/
theorem accept_ignored (hsplit : split text = .ok [s]) (h : Form.of s = .ignored)
    (room : Capacity) : w.accept text room = ⟨[], .ok w⟩ := by
  have hread : w.draft.statements [s] room = (w.draft, none) :=
    Draft.statements_of_ok (Draft.statement_ignored h w.draft)
  unfold accept
  simp only [hsplit, hread, commit_draft]
  simp [draft]

end Workspace

namespace Console

def includeLine (name : List Char) : Line := includeText name ++ [';']

variable {name : List Char}

theorem unbroken_includeLine (h : '\n' ∉ name) : Unbroken (includeLine name) := by
  have hlead : '\n' ∉ includeLead := by decide
  simp [Unbroken, includeLine, includeText, hlead, h]

theorem goesOn_includeLine (hline : '\n' ∉ name) (hname : Statement.Plain name) :
    goesOn [includeLine name] = false := by
  refine goesOn_plain (fun h => ?_) (plain_includeText hname)
  have hlead : '\n' ∉ includeLead := by decide
  simp [includeText, hlead, hline] at h

/-- The faults of a line with a name that is not plain. -/
theorem accept_unplain (w : Workspace) (room : Capacity) (hquote : '"' ∉ name) (hline : '\n' ∉ name)
    (hname : ¬ Statement.Plain name) (hwhole : goesOn [includeLine name] = false) :
    ∃ fault, w.accept (includeLine name) room = ⟨[], .error fault⟩ ∧ fault.label = "ParseError" ∧
      (arity? w.definitions "include" = none →
        fault = .unbalancedBrace ∨ fault = .unknownGate "include") := by
  cases hsplit : split (includeLine name) with
  | error fault =>
    have haccept := Workspace.accept_uncut (w := w) hsplit room
    rcases split_eq_error.mp hsplit with ⟨rfl, -⟩ | ⟨rfl, -⟩
    · exact ⟨_, haccept, rfl, fun _ => .inl rfl⟩
    · -- the lines of an open block are not handed on
      have hopen := Workspace.accept_unterminated (congrArg (·.result) haccept)
      rw [← textBalance_single] at hopen
      have hlines := List.forall_mem_singleton.mpr (unbroken_includeLine hline)
      rw [(goesOn_iff hlines).mpr hopen] at hwhole
      cases hwhole
  | ok statements =>
    obtain ⟨s, rest, rfl, hs⟩ := split_unplain hquote hline hname hsplit
    obtain ⟨fault, hfault, hlabel, hunknown⟩ := statement_unclosed w.draft (room.inside 1) hs
    exact ⟨fault, Workspace.accept_first hsplit hfault, hlabel, fun h => .inr (hunknown h)⟩

namespace Prompt

/-- A line that opens more braces than it closes is kept for the lines to come. -/
theorem execute_unfinished {s : Setting} {p : Prompt} {line : Line} (hidle : p.reader = .idle)
    (hblank : Text.trim line ≠ []) (hdirective : isDirective line = false)
    (hopen : goesOn [line] = true) :
    p.execute s line = (⟨.unfinished [line], p.console⟩, none) := by
  have hconsumed : (top s).consume p.reader line p.console =
      ⟨.unfinished [line], p.console, none⟩ := by
    rw [hidle, top_eq]
    simp only [levelOver, consumeLine, takeFirst, takeStatement, if_neg hblank, hdirective, hopen,
      Bool.false_eq_true, if_false, if_true]
  simp only [execute, hconsumed]

/-- What comes of a line that includes a file, at an idle prompt. If no statement ends in the name,
and nothing of it is left out as a comment, then the line is noted and nothing else happens. Any
other name spoils the line: it goes on if a brace is open at its end, and else it is reported, and
nothing but the report is left. The report is of an unbalanced brace or of a gate that is not known,
unless there is a gate called like the word itself. -/
theorem include_line_outcome {s : Setting} {p : Prompt} (hidle : p.reader = .idle)
    (hquote : '"' ∉ name) (hline : '\n' ∉ name) :
    (Statement.Plain name → p.feed s (includeLine name) =
      ({ p with console := p.console.note (.queued 0 (includeLine name)) }, none)) ∧
    (¬ Statement.Plain name → goesOn [includeLine name] = true →
      p.feed s (includeLine name) = ({ p with reader := .unfinished [includeLine name] }, none)) ∧
    (¬ Statement.Plain name → goesOn [includeLine name] = false →
      ∃ fault : Fault, fault.label = "ParseError" ∧
        (arity? p.console.workspace.definitions "include" = none →
          fault = .unbalancedBrace ∨ fault = .unknownGate "include") ∧
        p.feed s (includeLine name) = (p.report (.statement fault), none)) := by
  have hblank : Text.trim (includeLine name) ≠ [] :=
    Text.trim_ne_nil (List.mem_cons_self ..) (c := 'i') (by decide)
  have hdirective : isDirective (includeLine name) = false := rfl
  refine ⟨fun hname => ?_, fun hname hopen => ?_, fun hname hwhole => ?_⟩
  · have hwhole := goesOn_includeLine hline hname
    have haccept : p.console.workspace.accept (includeLine name) (s.room.inside 2) =
        ⟨[], .ok p.console.workspace⟩ :=
      Workspace.accept_ignored (split_includeText hname)
        (form_of_includeText hname.opening hquote) _
    simp only [feed, execute_statement hidle hblank hdirective hwhole, accept, haccept, settle,
      List.foldl_nil, Nat.sub_self, done, ← hidle]
  · simp only [feed, execute_unfinished hidle hblank hdirective hopen, settle]
  · obtain ⟨fault, haccept, hlabel, hunknown⟩ :=
      accept_unplain p.console.workspace (s.room.inside 2) hquote hline hname hwhole
    have hreported : (Failure.statement fault).isReported = true :=
      (isReported_iff_label _).mpr (by simp [Failure.label, hlabel, reportedLabels])
    refine ⟨fault, hlabel, hunknown, ?_⟩
    simp only [feed, execute_statement hidle hblank hdirective hwhole, accept, haccept, settle,
      List.foldl_nil, fail, hreported, if_true, ← hidle]

/-- A file name that is ignored, one with a brace that stays open, and an address, of which only
what stands in front of the slashes is read. -/
theorem include_lines_of_three_names :
    let s : Setting := ⟨fun _ => .error .missing, fun _ => 0⟩
    let plain := "qelib1 (copy).inc".toList
    let opening := "gates\x7b1.inc".toList
    let address := "http://example.org/qelib1.inc".toList
    start.feed s (includeLine plain) =
        ({ start with console := start.console.note (.queued 0 (includeLine plain)) }, none) ∧
      start.feed s (includeLine opening) =
        ({ start with reader := .unfinished [includeLine opening] }, none) ∧
      ∃ fault : Fault, fault.label = "ParseError" ∧
        start.feed s (includeLine address) = (start.report (.statement fault), none) := by
  intro s plain opening address
  have hplain : Statement.Plain plain :=
    ⟨by decide, by decide, by decide, uncommented_of_not_mem (by decide)⟩
  have hopening : ¬ Statement.Plain opening := fun h => h.opening (by decide)
  have haddress : ¬ Statement.Plain address := fun h =>
    h.uncommented ⟨"http:".toList, "example.org/qelib1.inc".toList, by decide⟩
  obtain ⟨hignored, -⟩ := @include_line_outcome plain s start rfl (by decide) (by decide)
  obtain ⟨-, hunfinished, -⟩ := @include_line_outcome opening s start rfl (by decide) (by decide)
  obtain ⟨-, -, hreported⟩ := @include_line_outcome address s start rfl (by decide) (by decide)
  obtain ⟨fault, hlabel, -, hfeed⟩ := hreported haddress (by decide +kernel)
  exact ⟨hignored hplain, hunfinished hopening (by decide +kernel), fault, hlabel, hfeed⟩

/-- An address is no name of a file that can be included: the line is reported at the first prompt,
though it names what stands between its two quotes. -/
theorem included_address_reported :
    let s : Setting := ⟨fun _ => .error .missing, fun _ => 0⟩
    let address := "http://example.org/qelib1.inc".toList
    Reachable s.draws start ∧ start.reader = .idle ∧ '"' ∉ address ∧ '\n' ∉ address ∧
      isInclude (includeText address) = true ∧
      (start.feed s (includeLine address)).1.console.events =
        [.report none (.statement (.unknownGate "include"))] := by
  intro s address
  exact ⟨.start, rfl, by decide, by decide, by decide +kernel, by decide +kernel⟩

end Prompt

end Console

end CircuitConsole
