import CircuitConsole.Proofs.Console.LoopBlocks

/-!
Straight lines. The count of a capturing reader follows what lines do when they are carried out, as
long as no line opens a block after it has closed one, or repeats an opening inline, and no line in
the middle of a statement looks like a bracket. A block of such lines is its lines repeated.
-/

namespace CircuitConsole.Console

/-- A line that opens a block at its end, and neither closes one at its beginning nor repeats
anything inline, or that opens none. -/
def Straight (line : Line) : Prop :=
  (phraseWords line).getLast? = some "loop".toList →
    (phraseWords line).head? ≠ some "end".toList ∧ "loop".toList ∉ (phraseWords line).dropLast

instance (line : Line) : Decidable (Straight line) :=
  inferInstanceAs (Decidable (_ → _))

def Reader.nesting : Reader → Nat
  | .idle | .unfinished _ => 0
  | .capturing b => b.depth + 1

/-- No line looks like a bracket in the middle of a statement, when lines are taken from a prompt
on. -/
def Level.Clear (l : Level) (lines : List Line) (p : Prompt) : Prop :=
  ∀ front line back m pending, lines = front ++ line :: back → l.takeAll front p = some m →
    m.reader = .unfinished pending → bracket line = .neither

section Simulation

variable {s : Setting} {below : Option (Setting → Level)}

/-- What the commands of a straight line are for each bracket. -/
theorem commands_of_straight {line : Line} {ks : List Command}
    (hdirective : isDirective line = true) (hread : commands line = .ok ks)
    (hstraight : Straight line) :
    (bracket line = .closing ∧
      ∃ rest, ks = .close :: rest ∧ ∀ count, rest.getLast? ≠ some (.loop count)) ∨
    (bracket line = .opening ∧
      ∃ front count, ks = front ++ [.loop count] ∧ ∀ k ∈ front, ∀ count, k ≠ .loop count) ∨
    (bracket line = .neither ∧ ∀ count, ks.getLast? ≠ some (.loop count)) := by
  have hwords := words_of_commands hread
  have hlast : ∀ count, ks.getLast? = some (.loop count) →
      (phraseWords line).getLast? = some "loop".toList := by
    intro count h
    rw [hwords, List.getLast?_map, h]
    rfl
  by_cases hend : (phraseWords line).head? = some "end".toList
  · have hclosing := bracket_eq_closing.mpr ⟨hdirective, hend⟩
    obtain ⟨rest, rfl⟩ := commands_of_closing hclosing hread
    refine .inl ⟨hclosing, rest, rfl, fun count h => ?_⟩
    have hloop : (Command.close :: rest).getLast? = some (.loop count) := by
      rw [List.getLast?_cons, h]
      rfl
    exact (hstraight (hlast count hloop)).1 hend
  · by_cases hloop : (phraseWords line).getLast? = some "loop".toList
    · have hopening : bracket line = .opening := by
        rw [bracket_eq, if_pos hdirective, if_neg hend, if_pos hloop]
      have hfront := (hstraight hloop).2
      rw [hwords, List.getLast?_map] at hloop
      obtain ⟨k, hk, hword⟩ := Option.map_eq_some_iff.mp hloop
      obtain ⟨count, rfl⟩ := Command.word_eq_loop.mp hword
      refine .inr (.inl ⟨hopening, ks.dropLast, count,
        (List.dropLast_append_getLast? _ hk).symm, ?_⟩)
      rintro k hk count rfl
      rw [hwords, ← List.map_dropLast] at hfront
      exact hfront (List.mem_map.mpr ⟨_, hk, rfl⟩)
    · have hneither : bracket line = .neither := by
        rw [bracket_eq, if_pos hdirective, if_neg hend, if_neg hloop]
      exact .inr (.inr ⟨hneither, fun count h => hloop (hlast count h)⟩)

/-- Commands that do not end with a loop leave nothing open. -/
theorem reader_of_runCommands {ks : List Command}
    (h : ∀ count, ks.getLast? ≠ some (.loop count)) (c : Console) :
    (runCommands s below ks c).reader = .idle := by
  fun_induction runCommands s below ks c with
  | case2 c _ count => exact absurd rfl (h count)
  | case4 c _ command rest _ _ e _ ih =>
    refine ih fun count hlast => h count ?_
    rw [List.getLast?_cons, hlast]
    rfl
  | case1 | case3 | case5 | case6 => rfl

/-- A loop after commands that are no loops opens a block. -/
theorem capturing_of_runCommands {front : List Command} {count : Count} {c : Console}
    (hfront : ∀ k ∈ front, ∀ count, k ≠ .loop count)
    (hok : (runCommands s below (front ++ [.loop count]) c).failure = none)
    (hrun : (runCommands s below (front ++ [.loop count]) c).console.running = true) :
    (runCommands s below (front ++ [.loop count]) c).reader =
      .capturing ⟨count.value, [], 0⟩ := by
  induction front generalizing c with
  | nil =>
    have hrunning : c.running = true := running_of_runCommands hrun
    rw [List.nil_append, runCommands_opening hrunning]
  | cons k front ih =>
    have hplain := hfront k (List.mem_cons_self ..)
    have hrunning : c.running = true := running_of_runCommands hrun
    rw [List.cons_append, runCommands_plain hplain, if_pos hrunning] at hok hrun ⊢
    cases hf : (perform s below c k).failure with
    | none =>
      simp only [hf] at hok hrun ⊢
      exact ih (fun k hk => hfront k (List.mem_cons_of_mem _ hk)) hok hrun
    | some f => simp [hf, Effect.idle] at hok

theorem shift_succ {m : Bracket} {depth next : Nat} (h : m.shift depth = some next) :
    m.shift (depth + 1) = some (next + 1) := by
  cases m with
  | closing =>
    cases depth with
    | zero => cases h
    | succ depth =>
      obtain rfl := Option.some.inj h
      rfl
  | opening =>
    obtain rfl := Option.some.inj h
    rfl
  | neither =>
    obtain rfl := Option.some.inj h
    rfl

theorem nesting_takeStatement (lines : List Line) (c : Console) :
    (takeStatement s lines c).reader.nesting = 0 := by
  unfold takeStatement
  split <;> rfl

theorem shift_of_takeFirst {line : Line} {c : Console} (hstraight : Straight line)
    (hok : (takeFirst s below line c).failure = none)
    (hrun : (takeFirst s below line c).console.running = true) :
    (bracket line).shift 0 = some (takeFirst s below line c).reader.nesting := by
  cases hdirective : isDirective line with
  | false =>
    rw [bracket_eq_neither hdirective]
    unfold takeFirst
    split
    · rfl
    · simp only [hdirective, Bool.false_eq_true, if_false, nesting_takeStatement]
      rfl
  | true =>
    have htrim := trim_of_isDirective hdirective
    simp only [takeFirst, htrim, hdirective, if_true, if_false] at hok hrun ⊢
    cases hread : commands line with
    | error fault => simp [hread, fail, Effect.idle] at hok
    | ok ks =>
      simp only [hread] at hok hrun ⊢
      rcases commands_of_straight hdirective hread hstraight with
        ⟨_, rest, rfl, _⟩ | ⟨hopening, front, count, rfl, hfront⟩ | ⟨hneither, hlast⟩
      · rw [runCommands_close (running_of_runCommands hrun)] at hok
        cases hok
      · rw [hopening, capturing_of_runCommands hfront hok hrun]
        rfl
      · rw [hneither, reader_of_runCommands hlast]
        rfl

theorem reader_of_closeBlock {b : Block} {line : Line} {c : Console}
    (hstraight : Straight line) (hclosing : bracket line = .closing)
    (hok : (closeBlock s below b line c).failure = none) :
    (closeBlock s below b line c).reader = .idle := by
  have hdirective := (bracket_eq_closing.mp hclosing).1
  unfold closeBlock at hok ⊢
  cases hread : commands line with
  | error fault => simp [hread] at hok
  | ok ks =>
    simp only [hread] at hok ⊢
    cases hf : (replay (s.inside 1) below b c).failure with
    | some f => rfl
    | none =>
      rcases commands_of_straight hdirective hread hstraight with
        ⟨_, rest, rfl, hrest⟩ | ⟨hopening, _⟩ | ⟨hneither, _⟩
      · exact reader_of_runCommands hrest _
      · rw [hclosing] at hopening
        cases hopening
      · rw [hclosing] at hneither
        cases hneither

/-- A straight line that is taken opens and closes what its bracket says, unless it looks like a
bracket in the middle of a statement. -/
theorem shift_of_consumeLine {reader : Reader} {line : Line} {c : Console}
    (hstraight : Straight line)
    (hstatement : ∀ lines, reader = .unfinished lines → bracket line = .neither)
    (hok : (consumeLine s below reader line c).failure = none)
    (hrun : (consumeLine s below reader line c).console.running = true) :
    (bracket line).shift reader.nesting =
      some (consumeLine s below reader line c).reader.nesting := by
  cases reader with
  | idle => exact shift_of_takeFirst hstraight hok hrun
  | unfinished lines =>
    rw [hstatement lines rfl]
    simp only [consumeLine, nesting_takeStatement]
    rfl
  | capturing b =>
    cases hshift : (bracket line).shift b.depth with
    | some next =>
      have hcapture : b.capture? line = some (b.add line next) := by rw [capture_eq, hshift]; rfl
      simp only [consumeLine, hcapture]
      exact shift_succ hshift
    | none =>
      have hcapture : b.capture? line = none := by rw [capture_eq, hshift]; rfl
      obtain ⟨hclosing, hdepth⟩ := shift_eq_none hshift
      simp only [consumeLine, hcapture] at hok ⊢
      rw [reader_of_closeBlock hstraight hclosing hok, hclosing]
      simp only [Reader.nesting, hdepth]
      rfl

/-- The count after straight lines is the number of blocks that the reader has open. -/
theorem nesting_of_takeAll {lines : List Line} {p q : Prompt}
    (hstraight : ∀ line ∈ lines, Straight line) (hclear : (levelOver s below).Clear lines p)
    (h : (levelOver s below).takeAll lines p = some q) :
    nesting p.reader.nesting lines = some q.reader.nesting := by
  induction lines generalizing p with
  | nil =>
    obtain rfl := Option.some.inj h
    rfl
  | cons line lines ih =>
    have hrest := h
    simp only [Level.takeAll, Option.ite_none_right_eq_some] at hrest
    obtain ⟨⟨hok, hrun⟩, hrest⟩ := hrest
    have hfirst : ∀ lines, p.reader = .unfinished lines → bracket line = .neither :=
      fun pending hpending => hclear [] line lines p pending rfl rfl hpending
    have hshift := shift_of_consumeLine (hstraight line (List.mem_cons_self ..)) hfirst hok hrun
    rw [nesting_cons, hshift]
    refine ih (fun other hother => hstraight other (List.mem_cons_of_mem _ hother)) ?_ hrest
    intro front other back m pending hlines hfront hpending
    refine hclear (line :: front) other back m pending (by rw [hlines]; rfl) ?_ hpending
    simp only [Level.takeAll, hok, hrun, and_self, if_true]
    exact hfront

end Simulation

/-- A block of straight lines is its lines repeated, in all but two notes. -/
theorem loopBlock_of_straight {s : Setting} {count : Count} {lines : List Line} {p p' : Prompt}
    (hidle : p.reader = .idle) (hrun : p.console.running = true) (hcount : 1 ≤ count.value)
    (hstraight : ∀ line ∈ lines, Straight line) (hclear : (top s).Clear lines p)
    (hlines : (top s).takeRounds lines count.value p = some p')
    (hspare : (level (s.inside 3) (maxNesting - 1)).takeRounds lines count.value p =
      (top s).takeRounds lines count.value p) :
    ∃ events, p'.console.events = events ++ p.console.events ∧
      (top s).takeAll (loopBlock count lines) p = some ⟨.idle, { p'.console with
        events := events ++ .note (.replaying lines.length count.value) ::
          .note (.capturing count.value) :: p.console.events }⟩ := by
  obtain ⟨n, hn⟩ := Nat.exists_eq_add_of_le' hcount
  have hrounds := hlines
  rw [hn] at hrounds
  obtain ⟨m, hround, hmidle, _⟩ := takeRounds_succ hrounds
  have hbalanced : Balanced lines := by
    have hnesting := nesting_of_takeAll hstraight hclear hround
    rw [hidle, hmidle] at hnesting
    exact hnesting
  obtain ⟨reader, c⟩ := p
  obtain rfl : reader = .idle := hidle
  exact takeAll_loopBlock hrun (hspare.trans hlines) hbalanced

end CircuitConsole.Console
