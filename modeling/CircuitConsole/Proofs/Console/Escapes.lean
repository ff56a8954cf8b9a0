import CircuitConsole.Proofs.Console.Feeding
import CircuitConsole.Proofs.Console.Workspaces
import CircuitConsole.Proofs.Workspace.Overloads

/-!
What stops a console. A failing line is reported and the prompt comes back, with few exceptions: a
path with a null character, and what is too much for the machine. Reported failures are told from
the others by their labels.
-/

namespace CircuitConsole.Console

open Simulation

def reportedLabels : List String :=
  ["UnknownCommand", "BadArgument", "UnknownTag", "LoopError", "NotExecuted", "LoadError",
    "ParseError", "ExecError"]

/-- The lines that texts are made up of: typed, kept by the reader, or in a file. -/
inductive Heard (reading : Files.Reading) (reader : Reader) (typed : Line → Prop) : Line → Prop
  | typed {line : Line} (h : typed line) : Heard reading reader typed line
  | kept {line : Line} (h : line ∈ reader.lines) : Heard reading reader typed line
  | file {path : List Char} {lines : List Line} {line : Line}
      (hlines : Files.readLines reading path = .ok lines) (h : line ∈ lines) :
      Heard reading reader typed line

/-- How a failure that is not reported comes about in a workspace, with texts made up of known
lines and nowhere less than some room. -/
inductive Escape (least : Capacity) (known : Line → Prop) (w : Workspace) : Failure → Prop
  | path {path : List Char} (hnull : '\x00' ∈ path) :
      Escape least known w (.unreadable path .nullCharacter)
  | text {lines : List Line} {statements : List (List Char)} {room : Capacity}
      {d : Statement.Draft} {o : Overload} (hlines : ∀ line ∈ lines, known line)
      (hsplit : Statement.split (joined lines) = .ok statements) (hroom : least ≤ room)
      (hread : w.draft.statements statements room = (d, some (.overload o)))
      (hexceeds : d.Exceeds (room.inside 2) o) :
      Escape least known w (.statement (.overload o))
  | execution {o : Overload} (hexceeds : w.circuit.Exceeds o) :
      Escape least known w (.execution (.overload o))
  | view {room : Capacity} {o : Overload} (hroom : least ≤ room)
      (hexceeds : w.Exceeds room o) : Escape least known w (.overload o)

section Labels

theorem overload_label (o : Overload) : o.label ∉ reportedLabels := by
  cases o <;> simp [Overload.label, reportedLabels]

theorem directiveFault_label (fault : DirectiveFault) : fault.label ∈ reportedLabels := by
  cases fault <;> simp [DirectiveFault.label, reportedLabels]

/-- A failure is reported exactly if its label says so. -/
theorem isReported_iff_label (f : Failure) : f.isReported = true ↔ f.label ∈ reportedLabels := by
  cases f with
  | overload o => exact iff_of_false Bool.false_ne_true (overload_label o)
  | statement fault =>
    cases fault with
    | overload o => exact iff_of_false Bool.false_ne_true (overload_label o)
    | _ => exact iff_of_true rfl (by simp [Failure.label, Statement.Fault.label, reportedLabels])
  | execution fault =>
    cases fault with
    | overload o => exact iff_of_false Bool.false_ne_true (overload_label o)
    | _ => exact iff_of_true rfl (by simp [Failure.label, ExecutionFault.label, reportedLabels])
  | unreadable path fault =>
    cases fault with
    | nullCharacter =>
      exact iff_of_false Bool.false_ne_true (by simp [Failure.label, reportedLabels])
    | _ => exact iff_of_true rfl (by simp [Failure.label, reportedLabels])
  | directive fault | closing fault => exact iff_of_true rfl (directiveFault_label fault)
  | noHistory => exact iff_of_false Bool.false_ne_true (by simp [Failure.label, reportedLabels])
  | _ => exact iff_of_true rfl (by simp [Failure.label, reportedLabels])

end Labels

section Actions

variable {draws : Draws Float} {least : Capacity} {known : Line → Prop} {f : Failure}

theorem null_of_readLines {reading : Files.Reading} {path : List Char}
    (h : Files.readLines reading path = .error .nullCharacter) : '\x00' ∈ path := by
  unfold Files.readLines at h
  split at h
  · rename_i hnull
    simpa using hnull
  · dsimp only at h
    split at h
    · cases h
    · split at h
      · cases h
      · cases h

theorem accept_escape {room : Capacity} (hroom : least ≤ room) {lines : List Line}
    (hlines : ∀ line ∈ lines, known line) {c : Console}
    (hf : (c.accept room (joined lines)).failure = some f) (hforeign : f.isReported = false) :
    Escape least known (c.accept room (joined lines)).console.workspace f := by
  cases hresult : (c.workspace.accept (joined lines) room).result with
  | ok w =>
    unfold accept at hf
    simp only [foldl_defined, hresult] at hf
    cases hf
  | error fault =>
    unfold accept at hf ⊢
    simp only [foldl_defined, hresult] at hf ⊢
    obtain rfl := Option.some.inj hf
    cases fault with
    | overload o =>
      obtain ⟨statements, d, hsplit, hread, hexceeds⟩ := Workspace.accept_overload hresult
      exact .text hlines hsplit hroom hread hexceeds
    | _ => cases hforeign

theorem go_escape {s : Setting} {c : Console} (hf : (c.go s).failure = some f)
    (hforeign : f.isReported = false) : Escape least known (c.go s).console.workspace f := by
  unfold go at hf ⊢
  split at hf
  · rename_i drawn fault hexecute
    obtain rfl := Option.some.inj hf
    cases fault with
    | overload o =>
      exact .execution (Workspace.execute_overload (congrArg Prod.snd hexecute))
    | _ => cases hforeign
  · cases hf

/-- Views that are overloaded. -/
theorem render_overload {view : View} {w : Workspace} {room : Capacity} {o : Overload}
    (h : view.render w room = .error o) : w.Exceeds room o := by
  cases view with
  | classical => exact Workspace.classicalView_overload h
  | names => exact Workspace.namesView_overload h
  | polar | probability | queue => cases h

theorem display_escape {s : Setting} (hroom : least ≤ s.room) {view : View} {c : Console}
    (hf : (c.display s view).failure = some f) (hforeign : f.isReported = false) :
    Escape least known (c.display s view).console.workspace f := by
  unfold display at hf ⊢
  split at hf
  · obtain rfl := Option.some.inj hf
    cases hforeign
  · rename_i hcurrent
    rw [if_neg hcurrent]
    cases hrender : view.render c.workspace s.room with
    | ok text =>
      rw [hrender] at hf
      cases hf
    | error o =>
      rw [hrender] at hf
      obtain rfl := Option.some.inj hf
      exact .view hroom (render_overload hrender)

theorem goto_failure {name : List Char} {c : Console} (hf : (c.goto name).failure = some f) :
    f.isReported = true := by
  unfold goto at hf
  split at hf
  · obtain rfl := Option.some.inj hf
    rfl
  · cases hf

theorem untag_failure {name : List Char} {c : Console} (hf : (c.untag name).failure = some f) :
    f.isReported = true := by
  unfold untag at hf
  split at hf
  · obtain rfl := Option.some.inj hf
    rfl
  · cases hf

theorem load_none_escape {s : Setting} {path : List Char} {c : Console}
    (hf : (load s none path c).failure = some f) (hforeign : f.isReported = false) :
    Escape least known (load s none path c).console.workspace f := by
  unfold load at hf ⊢
  cases hlines : Files.readLines s.reading path with
  | error fault =>
    simp only [hlines] at hf ⊢
    obtain rfl := Option.some.inj hf
    cases fault with
    | nullCharacter => exact .path (null_of_readLines hlines)
    | system fault path => cases hforeign
    | encoding fault => cases hforeign
  | ok lines =>
    simp only [hlines] at hf
    obtain rfl := Option.some.inj hf
    cases hforeign

/-- A failure that ends a line and is not reported is an escape, from the workspace as it is
left. -/
theorem Course.escape {c : Console} {e : Effect} (h : Course draws least known c e)
    (hf : e.failure = some f) (hforeign : f.isReported = false) :
    Escape least known e.console.workspace f := by
  induction h with
  | done c => cases hf
  | fail hreported c =>
    obtain rfl := Option.some.inj hf
    rw [hreported] at hforeign
    cases hforeign
  | accept room hroom hlines c => exact accept_escape hroom hlines hf hforeign
  | emit e c => cases hf
  | andThen _ _ _ _ ih => exact ih hf
  | report => cases hf
  | command s hs hroom k c =>
    cases k with
    | go => exact go_escape hf hforeign
    | display view => exact display_escape hroom hf hforeign
    | load path => exact load_none_escape hf hforeign
    | goto name => exact absurd (goto_failure hf) (by simp [hforeign])
    | untag name => exact absurd (untag_failure hf) (by simp [hforeign])
    | close =>
      obtain rfl := Option.some.inj hf
      cases hforeign
    | loop _ | tag _ | list | reset | help | quit => cases hf

end Actions

namespace Prompt

variable {s : Setting} {known : Line → Prop} (hfiles : FilesHold known s.reading) {p : Prompt}
  {f : Failure}

include hfiles

theorem feed_reader (hreader : p.reader.Holds known) {line : Line} (hline : known line) :
    (p.feed s line).1.reader.Holds known := by
  unfold feed
  rw [settle_reader]
  exact (level_orderly hfiles maxNesting (le_refl _)).reader p.console hreader
    hline

/-- A failure that is handed on has not been reported and is an escape. -/
theorem feed_escape (hreader : p.reader.Holds known) {line : Line} (hline : known line)
    (h : (p.feed s line).2 = some f) :
    f.isReported = false ∧ Escape s.least known (p.feed s line).1.console.workspace f := by
  have hforeign : f.isReported = false := by
    unfold feed settle at h
    dsimp only at h
    split at h
    · cases h
    · split at h
      · cases h
      · rename_i g _ hg
        obtain rfl := Option.some.inj h
        simpa using hg
  have hcourse : Course s.draws s.least known p.console
      ⟨(p.feed s line).1.console, (p.feed s line).2⟩ := feed_course hfiles hreader hline
  exact ⟨hforeign, hcourse.escape h hforeign⟩

theorem answer_reader (hreader : p.reader.Holds known) {input : Input}
    (hinput : ∀ line, input = .line line → known line) :
    (p.answer s input).1.reader.Holds known := by
  cases input with
  | line line => exact feed_reader hfiles hreader (hinput line rfl)
  | interruption => exact Reader.holds_idle known

theorem answer_escape (hreader : p.reader.Holds known) {input : Input}
    (hinput : ∀ line, input = .line line → known line) (h : (p.answer s input).2 = some f) :
    Escape s.least known (p.answer s input).1.console.workspace f := by
  cases input with
  | line line => exact (feed_escape hfiles hreader (hinput line rfl) h).2
  | interruption => cases h

/-- A conversation ends before its time at an escape only. -/
theorem converse_escape (hreader : p.reader.Holds known) {inputs : List Input}
    (hinputs : ∀ line, .line line ∈ inputs → known line)
    (h : (p.converse s inputs).failure = some f) :
    Escape s.least known (p.converse s inputs).prompt.console.workspace f := by
  induction inputs generalizing p with
  | nil =>
    unfold converse at h
    split at h
    · cases h
    · cases h
  | cons input inputs ih =>
    unfold converse at h ⊢
    by_cases hrun : p.console.running = true
    · rw [if_pos hrun] at h ⊢
      -- asking only writes, so that the reader is as before
      have hasked : p.ask.reader.Holds known := hreader
      have hinput (line : Line) (hline : input = .line line) : known line :=
        hinputs line (hline ▸ List.mem_cons_self ..)
      have hnext := answer_reader hfiles hasked hinput
      have hescape := @answer_escape s known hfiles p.ask f hasked input hinput
      rcases hanswer : p.ask.answer s input with ⟨q, failure⟩
      rw [hanswer] at hnext hescape
      cases failure with
      | none =>
        simp only [hanswer] at h ⊢
        exact ih hnext (fun line hline => hinputs line (List.mem_cons_of_mem _ hline)) h
      | some g =>
        simp only [hanswer] at h ⊢
        exact hescape h
    · rw [if_neg hrun] at h
      cases h

omit hfiles

theorem heard_files (reading : Files.Reading) (reader : Reader) (typed : Line → Prop) :
    FilesHold (Heard reading reader typed) reading :=
  fun _ _ hlines _ hline => .file hlines hline

theorem heard_reader (reading : Files.Reading) (reader : Reader) (typed : Line → Prop) :
    reader.Holds (Heard reading reader typed) := fun _ hline => .kept hline

/-- A line returns to the prompt. If it fails, its failure is reported, with one of the labels of
such failures; any other failure is handed on, and is an escape. So is the failure that ends a
conversation before its time. -/
theorem returns_unless_escape (s : Setting) :
    (∀ (p : Prompt) (line : Line),
      ((p.execute s line).2 = none ∧ p.feed s line = ((p.execute s line).1, none)) ∨
      ∃ f, (p.execute s line).2 = some f ∧
        (f.label ∈ reportedLabels ∧ p.feed s line = ((p.execute s line).1.report f, none) ∨
          f.label ∉ reportedLabels ∧ p.feed s line = ((p.execute s line).1, some f) ∧
            Escape s.least (Heard s.reading p.reader (· = line))
              (p.execute s line).1.console.workspace f)) ∧
    ∀ (p : Prompt) (inputs : List Input) (f : Failure),
      (p.converse s inputs).failure = some f →
        Escape s.least (Heard s.reading p.reader (.line · ∈ inputs))
          (p.converse s inputs).prompt.console.workspace f := by
  refine ⟨fun p line => ?_, fun p inputs f => ?_⟩
  · cases hf : (p.execute s line).2 with
    | none => exact .inl ⟨rfl, by simp only [feed, settle, hf]⟩
    | some f =>
      refine .inr ⟨f, rfl, ?_⟩
      by_cases hreported : f.isReported = true
      · refine .inl ⟨(isReported_iff_label f).mp hreported, ?_⟩
        simp only [feed, settle, hf, if_pos hreported]
      · have hfeed : p.feed s line = ((p.execute s line).1, some f) := by
          simp only [feed, settle, hf, if_neg hreported]
        refine .inr ⟨mt (isReported_iff_label f).mpr hreported, hfeed, ?_⟩
        have hescape := (feed_escape (heard_files s.reading p.reader (· = line))
          (heard_reader _ _ _) (.typed rfl) (congrArg Prod.snd hfeed)).2
        rwa [hfeed] at hescape
  · exact converse_escape (heard_files _ _ _) (heard_reader _ _ _) fun _ hline => .typed hline

/-- A register is declared that has more bits than can be counted; the line that asks for a list of
them is not reported, and the register is why. -/
theorem oversized_register_escapes :
    let s : Setting := ⟨fun _ => .error .missing, fun _ => 0⟩
    let inputs : List Input := [.line "qreg q[9223372036854775808];".toList, .line "h q;".toList]
    let farewell := start.converse s inputs
    farewell.failure = some (.statement (.overload .places)) ∧
      ∃ lines statements room d, (∀ line ∈ lines, Heard s.reading .idle (.line · ∈ inputs) line) ∧
        Statement.split (joined lines) = .ok statements ∧
        farewell.prompt.console.workspace.draft.statements statements room =
          (d, some (.overload .places)) ∧
        ∃ r ∈ d.quantum ++ d.classical, countLimit < r.size := by
  intro s inputs farewell
  have hfailure : farewell.failure = some (.statement (.overload .places)) := by
    decide +kernel
  refine ⟨hfailure, ?_⟩
  cases (returns_unless_escape s).2 start inputs _ hfailure with
  | text hlines hsplit hroom hread hexceeds =>
    exact ⟨_, _, _, _, hlines, hsplit, hread, hexceeds⟩

/-- A path with a null character: the line is not reported, and the conversation ends. -/
theorem null_path_escapes :
    let s : Setting := ⟨fun _ => .error .missing, fun _ => 0⟩
    let line := ":load a\x00b".toList
    Reachable s.draws start ∧
      (start.feed s line).2 = some (.unreadable ['a', '\x00', 'b'] .nullCharacter) ∧
      (start.converse s [.line line]).failure =
        some (.unreadable ['a', '\x00', 'b'] .nullCharacter) := by
  exact ⟨.start, by decide +kernel, by decide +kernel⟩

end Prompt

end CircuitConsole.Console
