import CircuitConsole.Proofs.Console.ParsedTexts
import CircuitConsole.Proofs.Console.Quitting

/-!
What a moment does. From one moment to the next a line is held or captured, a text is read, a
command is carried out, something is opened or left, or a failure is reported; the reader, the
console and the failure of the next moment are read off from this. The lines that are still to be
read, and those that are held, were there before or are lines of files.
-/

namespace CircuitConsole.Console

/-- The lines of the statement that a reader has with one more line. A blank line, a directive and
a line of a block do not belong to a statement. -/
def Reader.collected : Reader → Line → Option (List Line)
  | .idle, line => if Text.trim line = [] ∨ isDirective line = true then none else some [line]
  | .unfinished lines, line => some (lines ++ [line])
  | .capturing _, _ => none

namespace Activity

def reader : Activity → Reader
  | .line _ reader _ | .between reader _ => reader
  | .commands _ _ | .opening _ _ => .idle

def failure : Activity → Option Failure
  | .between _ failure => failure
  | .line _ _ _ | .commands _ _ | .opening _ _ => none

def collected : Activity → Option (List Line)
  | .line _ reader added => reader.collected added
  | .commands _ _ | .opening _ _ | .between _ _ => none

end Activity

namespace Moment

variable {s : Setting} {m m' : Moment} {room : Capacity}

def progress (m : Moment) : Progress := ⟨m.activity.reader, m.console, m.activity.failure⟩

inductive Becomes (s : Setting) (m : Moment) : Progress → Prop
  | same : Becomes s m ⟨m.activity.reader, m.console, none⟩
  | idle {f : Option Failure} (hf : ∀ fault, f = some (.statement fault) →
      m.activity.failure = some (.statement fault)) : Becomes s m ⟨.idle, m.console, f⟩
  | noted {n : Note} (hn : Event.parsed? (.note n) = none) :
      Becomes s m ⟨.idle, m.console.note n, none⟩
  | opened {room : Capacity} {count : Count}
      (hactivity : m.activity = .commands room [.loop count]) :
      Becomes s m
        ⟨.capturing ⟨count.value, [], 0⟩, m.console.note (.capturing count.value), none⟩
  | captured {room : Capacity} {b b' : Block} {line : Line}
      (hactivity : m.activity = .line room (.capturing b) line)
      (hcapture : b.capture? line = some b') : Becomes s m ⟨.capturing b', m.console, none⟩
  | refused {room : Capacity} {b : Block} {line : Line} {fault : DirectiveFault}
      (hactivity : m.activity = .line room (.capturing b) line) (hcapture : b.capture? line = none)
      (hfault : commands line = .error fault) :
      Becomes s m ⟨.capturing b, m.console, some (.closing fault)⟩
  | held {lines : List Line} (hcollected : m.activity.collected = some lines)
      (hopen : goesOn lines = true) : Becomes s m ⟨.unfinished lines, m.console, none⟩
  | accepted {room : Capacity} {lines : List Line}
      (hcollected : m.activity.collected = some lines) (hclosed : goesOn lines = false) :
      Becomes s m (m.console.accept room (joined lines)).idle
  | performed {room : Capacity} {k : Command} {rest : List Command}
      (hactivity : m.activity = .commands room (k :: rest)) (hrun : m.console.running = true) :
      Becomes s m (perform (s.within room) none m.console k).idle
  | reported {f : Failure} (hfailure : m.activity.failure = some f) (origin : Option Origin) :
      Becomes s m ⟨m.activity.reader, m.console.emit (.report origin f), none⟩

section Steps

/-- Where nothing new fails, a moment with an idle reader may follow. -/
theorem Becomes.idle_of_ne {f : Failure} (hf : ∀ fault, f ≠ .statement fault) :
    m.Becomes s ⟨.idle, m.console, some f⟩ :=
  .idle fun fault h => absurd (Option.some.inj h) (hf fault)

theorem Becomes.idle_none : m.Becomes s ⟨.idle, m.console, none⟩ := .idle fun _ h => by cases h

theorem progress_proceed (m : Moment) (room : Capacity) (commands : List Command) (e : Effect) :
    (m.proceed room commands e).progress = e.idle := by
  obtain ⟨c, failure⟩ := e
  cases failure <;> rfl

theorem progress_leave (m : Moment) (outer : List Opened) (room : Capacity)
    (after : List Command) (e : Effect) : (m.leave outer room after e).progress = e.idle :=
  progress_proceed _ room after e

/-- The lines of a statement are taken. -/
theorem read_of_collected {reader : Reader} {line : Line} {lines : List Line}
    (h : reader.collected line = some lines) :
    m.read s room reader line = m.pause (takeStatement (s.within room) lines m.console) := by
  cases reader with
  | idle =>
    rw [Reader.collected] at h
    split at h
    · cases h
    · rename_i hplain
      obtain rfl := Option.some.inj h
      rw [not_or] at hplain
      simp only [read, if_neg hplain.1, if_neg hplain.2]
  | unfinished held =>
    obtain rfl := Option.some.inj h
    rfl
  | capturing b => cases h

/-- A statement is held as long as it goes on, and handed on once it does not. -/
theorem next_of_collected {lines : List Line} (h : m.activity.collected = some lines) :
    ∃ room, m.next s = some (m.pause (takeStatement (s.within room) lines m.console)) := by
  unfold Moment.next
  cases hactivity : m.activity with
  | line room reader line =>
    rw [hactivity] at h
    exact ⟨room, congrArg some (read_of_collected h)⟩
  | commands | opening | between =>
    rw [hactivity] at h
    cases h

theorem becomes_of_collected {lines : List Line} (h : m.activity.collected = some lines) :
    m.Becomes s (m.pause (takeStatement (s.within room) lines m.console)).progress := by
  unfold takeStatement
  split
  · rename_i hopen
    exact .held h hopen
  · rename_i hclosed
    exact .accepted h (Bool.eq_false_iff.mpr hclosed)

theorem read_becomes {reader : Reader} {line : Line}
    (hactivity : m.activity = .line room reader line) :
    m.Becomes s (m.read s room reader line).progress := by
  cases hcollected : reader.collected line with
  | some lines =>
    rw [read_of_collected hcollected]
    exact becomes_of_collected (by rw [hactivity]; exact hcollected)
  | none =>
    unfold read
    cases reader with
    | unfinished lines => cases hcollected
    | idle =>
      dsimp only
      split
      · exact .idle_none
      · rename_i hblank
        have hdirective : isDirective line = true := by
          simpa [Reader.collected, hblank] using hcollected
        rw [if_pos hdirective]
        split
        · exact .idle_of_ne fun _ h => by cases h
        · exact .idle_none
    | capturing b =>
      dsimp only
      split
      · rename_i hcapture
        exact .captured hactivity hcapture
      · rename_i hcapture
        split
        · rename_i hfault
          exact .refused hactivity hcapture hfault
        · exact .noted rfl

theorem carryOut_becomes {commands : List Command}
    (hactivity : m.activity = .commands room commands) :
    m.Becomes s (m.carryOut s room commands).progress := by
  cases commands with
  | nil => exact .idle_none
  | cons command rest =>
    unfold carryOut
    dsimp only
    by_cases hrun : m.console.running = true
    · rw [if_pos hrun]
      cases command with
      | loop count =>
        cases rest with
        | nil => exact .opened hactivity
        | cons next rest => exact .idle_none
      | load path =>
        dsimp only
        split
        · exact .idle_of_ne fun _ h => by cases h
        · exact .noted rfl
      | close | tag _ | goto _ | untag _ | list | display _ | go | reset | help | quit =>
        dsimp only
        rw [progress_proceed]
        exact .performed hactivity hrun
    · rw [if_neg hrun]
      exact .idle_none

theorem enter_becomes (nesting : Nesting) (o : Opened) :
    m.Becomes s (m.enter nesting o).progress := by
  unfold enter
  split
  · exact .idle_of_ne fun _ h => by cases h
  · exact .idle_none

/-- What is open is left at its end, and with a failure of its own if the reader is not idle. -/
theorem finish_becomes {f : Failure} (hf : ∀ fault, f ≠ .statement fault) (reader : Reader) :
    m.Becomes s (Progress.finish ⟨reader, m.console, none⟩ f).idle := by
  unfold Progress.finish
  dsimp only
  split
  · exact .idle_of_ne hf
  · exact .idle_none

theorem again_becomes {e : Effect} (h : m.Becomes s e.idle) (outer : List Opened)
    (after : List Command) {round : Nat → Activity × Opened}
    (hround : ∀ n, (round n).1.reader = .idle ∧ (round n).1.failure = none) (n : Nat) :
    m.Becomes s (m.again outer room after e round n).progress := by
  cases n with
  | zero =>
    rw [again, progress_leave]
    exact h
  | succ n =>
    rw [again]
    split
    · change m.Becomes s ⟨(round n).1.reader, m.console, (round n).1.failure⟩
      rw [(hround n).1, (hround n).2]
      exact .idle_none
    · rw [progress_leave]
      exact h

theorem goOn_becomes {reader : Reader} (hactivity : m.activity = .between reader none)
    (outer : List Opened) (o : Opened) : m.Becomes s (m.goOn outer reader o).progress := by
  have hsame : m.Becomes s ⟨reader, m.console, none⟩ := by
    have hreader : m.activity.reader = reader := by
      rw [hactivity]
      rfl
    exact hreader ▸ .same
  cases o with
  | file room path read left after =>
    cases left with
    | nil =>
      rw [goOn, progress_leave]
      exact finish_becomes (fun _ h => by cases h) reader
    | cons line left =>
      rw [goOn]
      split
      · exact hsame
      · exact .idle_none
  | block room b rounds left after =>
    cases left with
    | nil =>
      rw [goOn]
      exact again_becomes (finish_becomes (fun _ h => by cases h) reader) _ _
        (fun n => ⟨rfl, rfl⟩) _
    | cons line left =>
      rw [goOn]
      split
      · exact hsame
      · exact .idle_none
  | inline room rounds commands =>
    rw [goOn]
    exact again_becomes (finish_becomes (fun _ h => by cases h) reader) _ _
      (fun n => ⟨rfl, rfl⟩) _

theorem meet_becomes {reader : Reader} {f : Failure}
    (hactivity : m.activity = .between reader (some f)) (outer : List Opened) (o : Opened) :
    m.Becomes s (m.meet outer reader f o).progress := by
  have hfailure : m.activity.failure = some f := by
    rw [hactivity]
    rfl
  have hleft (room : Capacity) :
      m.Becomes s (m.leave outer room [] (m.console.fail f)).progress := by
    rw [progress_leave]
    exact .idle fun fault h => hfailure.trans h
  cases o with
  | file room path read left after =>
    rw [meet]
    split
    · have hreader : m.activity.reader = reader := by
        rw [hactivity]
        rfl
      exact hreader ▸ .reported hfailure _
    · exact hleft room
  | block room | inline room => exact hleft room

/-- A moment becomes the next on one of these accounts. -/
theorem next_becomes (h : m.next s = some m') : m.Becomes s m'.progress := by
  cases next_eq_some h with
  | line room reader line hactivity => exact read_becomes hactivity
  | commands room commands hactivity => exact carryOut_becomes hactivity
  | opening nesting o hactivity => exact enter_becomes nesting o
  | goOn reader o outer hactivity hopened => exact goOn_becomes hactivity outer o
  | meet reader f o outer hactivity hopened => exact meet_becomes hactivity outer o

end Steps

end Moment

def Opened.lines : Opened → List Line
  | .file _ _ _ left _ => left
  | .block _ b _ left _ => b.lines ++ left
  | .inline _ _ _ => []

def Activity.lines : Activity → List Line
  | .line _ reader added => reader.lines ++ [added]
  | .commands _ _ => []
  | .opening _ o => o.lines
  | .between reader _ => reader.lines

namespace Moment

variable {s : Setting} {m m' : Moment} {room : Capacity} {known : Line → Prop}

structure Holds (known : Line → Prop) (m : Moment) : Prop where
  activity : ∀ line ∈ m.activity.lines, known line
  opened : ∀ o ∈ m.opened, ∀ line ∈ o.lines, known line

section Lines

theorem Holds.pause (hm : m.Holds known) {p : Progress} (hreader : p.reader.Holds known) :
    (m.pause p).Holds known :=
  ⟨hreader, hm.opened⟩

theorem Holds.proceed (hm : m.Holds known) (room : Capacity) (commands : List Command)
    (e : Effect) : (m.proceed room commands e).Holds known := by
  unfold Moment.proceed
  split
  · exact ⟨fun _ h => absurd h List.not_mem_nil, hm.opened⟩
  · exact hm.pause (Reader.holds_idle known)

theorem Holds.leave (hm : m.Holds known) {o : Opened} {outer : List Opened}
    (hopened : m.opened = o :: outer) (room : Capacity) (after : List Command) (e : Effect) :
    (m.leave outer room after e).Holds known := by
  have houter : Holds known { m with opened := outer, depth := m.depth - 1 } :=
    ⟨hm.activity, fun o' ho' => hm.opened o' (hopened ▸ List.mem_cons_of_mem o ho')⟩
  exact houter.proceed room after e

/-- One thing that is open may take the place of another. -/
theorem Holds.replace (hm : m.Holds known) {o o' : Opened} {outer : List Opened}
    (hopened : m.opened = o :: outer) {a : Activity} (ha : ∀ line ∈ a.lines, known line)
    (ho' : ∀ line ∈ o'.lines, known line) :
    { m with activity := a, opened := o' :: outer }.Holds known := by
  refine ⟨ha, List.forall_mem_cons.mpr ⟨ho', fun o'' ho'' => ?_⟩⟩
  exact hm.opened o'' (hopened ▸ List.mem_cons_of_mem o ho'')

theorem Holds.again (hm : m.Holds known) {o : Opened} {outer : List Opened}
    (hopened : m.opened = o :: outer) (room : Capacity) (after : List Command) (e : Effect)
    {round : Nat → Activity × Opened}
    (hround : ∀ n, ∀ line ∈ (round n).1.lines ++ (round n).2.lines, known line) (n : Nat) :
    (m.again outer room after e round n).Holds known := by
  cases n with
  | zero => exact hm.leave hopened room after e
  | succ n =>
    rw [Moment.again]
    obtain ⟨hactivity, hlines⟩ := List.forall_mem_append.mp (hround n)
    split
    · exact hm.replace hopened hactivity hlines
    · exact hm.leave hopened room after e

/-- The lines that a reader has collected were held by it, but for the last. -/
theorem known_of_collected {reader : Reader} {line : Line} {lines : List Line}
    (hcollected : reader.collected line = some lines) (hreader : reader.Holds known)
    (hline : known line) : ∀ x ∈ lines, known x := by
  cases reader with
  | idle =>
    rw [Reader.collected] at hcollected
    split at hcollected
    · cases hcollected
    · obtain rfl := Option.some.inj hcollected
      exact List.forall_mem_singleton.mpr hline
  | unfinished held =>
    obtain rfl := Option.some.inj hcollected
    exact forall_append_line hreader hline
  | capturing b => cases hcollected

theorem Holds.read (hm : m.Holds known) {reader : Reader} {line : Line}
    (hactivity : m.activity = .line room reader line) :
    (m.read s room reader line).Holds known := by
  obtain ⟨hreader, hline⟩ : reader.Holds known ∧ known line := by
    have hlines := hm.activity
    rw [hactivity] at hlines
    obtain ⟨hreader, hline⟩ := List.forall_mem_append.mp hlines
    exact ⟨hreader, hline line (List.mem_singleton_self line)⟩
  cases hcollected : reader.collected line with
  | some lines =>
    rw [read_of_collected hcollected]
    exact hm.pause (takeStatement_reader (known_of_collected hcollected hreader hline) _)
  | none =>
    unfold Moment.read
    cases reader with
    | unfinished held => cases hcollected
    | idle =>
      dsimp only
      split
      · exact hm.pause (Reader.holds_idle known)
      · split
        · split
          · exact hm.pause (Reader.holds_idle known)
          · exact ⟨fun _ h => absurd h List.not_mem_nil, hm.opened⟩
        · exact hm.pause (takeStatement_reader (List.forall_mem_singleton.mpr hline) _)
    | capturing b =>
      dsimp only
      split
      · rename_i b' hcapture
        refine hm.pause ?_
        change ∀ x ∈ b'.lines, known x
        rw [capture?_lines hcapture]
        exact forall_append_line hreader hline
      · split
        · exact hm.pause hreader
        · refine ⟨fun x hx => hreader x ?_, hm.opened⟩
          simpa [Activity.lines, Opened.lines, Reader.lines] using hx

theorem Holds.carryOut (hfiles : FilesHold known s.reading) (hm : m.Holds known)
    (room : Capacity) (commands : List Command) : (m.carryOut s room commands).Holds known := by
  cases commands with
  | nil => exact hm.pause (Reader.holds_idle known)
  | cons command rest =>
    unfold Moment.carryOut
    dsimp only
    split
    · split
      · exact hm.pause fun _ h => absurd h List.not_mem_nil
      · exact ⟨fun _ h => absurd h List.not_mem_nil, hm.opened⟩
      · split
        · exact hm.pause (Reader.holds_idle known)
        · rename_i lines hlines
          exact ⟨hfiles _ lines hlines, hm.opened⟩
      · exact hm.proceed _ _ _
    · exact hm.pause (Reader.holds_idle known)

theorem Holds.enter (hm : m.Holds known) {nesting : Nesting} {o : Opened}
    (hactivity : m.activity = .opening nesting o) : (m.enter nesting o).Holds known := by
  unfold Moment.enter
  split
  · exact hm.pause (Reader.holds_idle known)
  · refine ⟨Reader.holds_idle known, List.forall_mem_cons.mpr ⟨?_, hm.opened⟩⟩
    have hlines := hm.activity
    rwa [hactivity] at hlines

theorem Holds.goOn (hm : m.Holds known) {reader : Reader} {failure : Option Failure} {o : Opened}
    {outer : List Opened} (hactivity : m.activity = .between reader failure)
    (hopened : m.opened = o :: outer) : (m.goOn outer reader o).Holds known := by
  have hreader : reader.Holds known := by
    have hlines := hm.activity
    rwa [hactivity] at hlines
  have ho : ∀ line ∈ o.lines, known line := hm.opened o (hopened ▸ List.mem_cons_self ..)
  cases o with
  | file room path read left after =>
    cases left with
    | nil => exact hm.leave hopened _ _ _
    | cons line left =>
      obtain ⟨hline, hleft⟩ := List.forall_mem_cons.mp ho
      rw [Moment.goOn]
      split
      · exact hm.replace hopened (forall_append_line hreader hline) hleft
      · exact hm.leave hopened _ _ _
  | block room b rounds left after =>
    obtain ⟨hblock, hleft⟩ := List.forall_mem_append.mp ho
    cases left with
    | nil =>
      refine hm.again hopened _ _ _ (fun n => ?_) _
      simpa [Activity.lines, Opened.lines, Reader.lines] using hblock
    | cons line left =>
      obtain ⟨hline, hleft⟩ := List.forall_mem_cons.mp hleft
      rw [Moment.goOn]
      split
      · exact hm.replace hopened (forall_append_line hreader hline)
          (List.forall_mem_append.mpr ⟨hblock, hleft⟩)
      · exact hm.leave hopened _ _ _
  | inline room rounds commands =>
    refine hm.again hopened _ _ _ (fun n => ?_) _
    simp [Activity.lines, Opened.lines]

theorem Holds.meet (hm : m.Holds known) {reader : Reader} {failure : Option Failure} {f : Failure}
    {o : Opened} {outer : List Opened} (hactivity : m.activity = .between reader failure)
    (hopened : m.opened = o :: outer) : (m.meet outer reader f o).Holds known := by
  cases o with
  | file room path read left after =>
    rw [Moment.meet]
    split
    · have hlines := hm.activity
      rw [hactivity] at hlines
      exact hm.pause hlines
    · exact hm.leave hopened _ _ _
  | block | inline => exact hm.leave hopened _ _ _

/-- Lines that are read, held or opened at the next moment were there before or are lines of
files. -/
theorem Holds.next (hfiles : FilesHold known s.reading) (hm : m.Holds known)
    (h : m.next s = some m') : m'.Holds known := by
  cases next_eq_some h with
  | line room reader line hactivity => exact hm.read hactivity
  | commands room commands hactivity => exact hm.carryOut hfiles room commands
  | opening nesting o hactivity => exact hm.enter hactivity
  | goOn reader o outer hactivity hopened => exact hm.goOn hactivity hopened
  | meet reader f o outer hactivity hopened => exact hm.meet hactivity hopened

end Lines

end Moment

end CircuitConsole.Console
