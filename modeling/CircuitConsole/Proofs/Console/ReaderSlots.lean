import CircuitConsole.Proofs.Console.Brackets

/-!
A reader as two places, one for the loop block that is captured and one for the lines of a statement.
Nothing in the two places themselves keeps them from being filled at once; what does is the order in
which a line fills and clears them, a place being cleared before anything of it is carried out. Read
in this way, every line does what it does at a reader that is idle, captures, or holds a statement.
-/

namespace CircuitConsole.Console

open Statement

structure OpenBlock where
  rounds : Nat
  lines : List Line
  depth : Int
  deriving DecidableEq, Repr

structure Slots where
  block : Option OpenBlock
  statement : List Line
  deriving DecidableEq, Repr

def directiveWords (line : Line) : List (List Char) :=
  if isDirective line then phraseWords line else []

def closesBlock (line : Line) : Bool := (directiveWords line).head? = some "end".toList

def opensBlock (line : Line) : Bool :=
  !closesBlock line && (directiveWords line).getLast? = some "loop".toList

def openBlocks (lines : List Line) : Int := lines.countP opensBlock - lines.countP closesBlock

section Counts

variable {line : Line} {lines : List Line}

theorem bracket_of_blocks (line : Line) :
    bracket line =
      if closesBlock line then .closing else if opensBlock line then .opening else .neither := by
  rw [bracket_eq]
  unfold opensBlock closesBlock directiveWords
  by_cases hdirective : isDirective line = true
  · rw [if_pos hdirective, if_pos hdirective]
    by_cases hend : (phraseWords line).head? = some "end".toList
    · rw [if_pos hend, if_pos (decide_eq_true hend)]
    · rw [if_neg hend, if_neg (mt of_decide_eq_true hend), decide_eq_false hend]
      simp only [Bool.not_false, Bool.true_and, decide_eq_true_eq]
  · rw [if_neg hdirective, if_neg hdirective]
    rfl

theorem closesBlock_of_closing (h : bracket line = .closing) : closesBlock line = true := by
  obtain ⟨hdirective, hend⟩ := bracket_eq_closing.mp h
  unfold closesBlock directiveWords
  rw [if_pos hdirective]
  exact decide_eq_true hend

theorem openBlocks_cons (line : Line) (lines : List Line) :
    openBlocks (line :: lines) = openBlocks [line] + openBlocks lines := by
  unfold openBlocks
  rw [List.countP_cons, List.countP_cons, List.countP_singleton, List.countP_singleton]
  push_cast
  omega

/-- A line shifts the number of open blocks by those that it opens or closes. -/
theorem openBlocks_shift {depth next : Nat} (h : (bracket line).shift depth = some next) :
    (next : Int) = depth + openBlocks [line] := by
  rw [bracket_of_blocks] at h
  unfold openBlocks
  rw [List.countP_singleton, List.countP_singleton]
  by_cases hcloses : closesBlock line = true
  · have hopens : ¬ opensBlock line = true := by simp [opensBlock, hcloses]
    rw [if_pos hcloses] at h
    rw [if_pos hcloses, if_neg hopens]
    cases depth with
    | zero => cases h
    | succ depth =>
      obtain rfl := Option.some.inj h
      omega
  · rw [if_neg hcloses] at h
    rw [if_neg hcloses]
    by_cases hopens : opensBlock line = true
    · rw [if_pos hopens] at h
      obtain rfl := Option.some.inj h
      rw [if_pos hopens]
      rfl
    · rw [if_neg hopens] at h
      obtain rfl := Option.some.inj h
      rw [if_neg hopens]
      simp

/-- As many blocks are open after lines as the lines open beyond those they close. -/
theorem openBlocks_of_nesting {depth last : Nat} (h : nesting depth lines = some last) :
    (last : Int) = depth + openBlocks lines := by
  induction lines generalizing depth with
  | nil =>
    obtain rfl := Option.some.inj h
    exact (Int.add_zero _).symm
  | cons line lines ih =>
    rw [nesting_cons] at h
    obtain ⟨next, hshift, hrest⟩ := Option.bind_eq_some_iff.mp h
    have hnext := openBlocks_shift hshift
    have hlast := ih hrest
    rw [openBlocks_cons]
    omega

/-- No lines in front close more blocks than they open. -/
theorem openBlocks_prefix {front : List Line} {last : Nat} (h : nesting 0 lines = some last)
    (hfront : front <+: lines) : 0 ≤ openBlocks front := by
  obtain ⟨back, rfl⟩ := hfront
  rw [nesting_append] at h
  obtain ⟨depth, hdepth, -⟩ := Option.bind_eq_some_iff.mp h
  have hcount := openBlocks_of_nesting hdepth
  omega

end Counts

namespace Slots

def empty : Slots := ⟨none, []⟩

/-- Where a line leaves the two places and the console, and what was in the two places each time
that a command, a text or the lines of a block were carried out. -/
structure Passage where
  slots : Slots
  console : Console
  failure : Option Failure
  meanwhile : List Slots

def after (r : Slots) (e : Effect) : Passage := ⟨r, e.console, e.failure, [r]⟩

def Passage.andThen (q : Passage) (next : Console → Passage) : Passage :=
  match q.failure with
  | none => { next q.console with meanwhile := q.meanwhile ++ (next q.console).meanwhile }
  | some _ => q

def run (s : Setting) (below : Option (Setting → Level)) (r : Slots) :
    List Command → Console → Passage
  | [], c => ⟨r, c, none, []⟩
  | command :: rest, c =>
    if c.running then
      match command, rest with
      | .loop count, [] =>
        ⟨{ r with block := some ⟨count.value, [], 0⟩ }, c.note (.capturing count.value), none, []⟩
      | .loop count, rest => r.after (repeatInline s below count.value rest c)
      | command, rest => (r.after (perform s below c command)).andThen (run s below r rest)
    else ⟨r, c, none, []⟩

/-- Takes a line where a block is captured. The place of the block is cleared before the block is
replayed, and the line is read before that. -/
def capture (s : Setting) (below : Option (Setting → Level)) (r : Slots) (b : OpenBlock)
    (line : Line) (c : Console) : Passage :=
  if closesBlock line then
    if b.depth = 0 then
      match commands line with
      | .error fault => ⟨r, c, some (.closing fault), []⟩
      | .ok ks =>
        let cleared := { r with block := none }
        (cleared.after (replay (s.inside 2) below ⟨b.rounds, b.lines, 0⟩ c)).andThen
          (cleared.run (s.inside 2) below (ks.drop 1))
    else ⟨{ r with block := some ⟨b.rounds, b.lines ++ [line], b.depth - 1⟩ }, c, none, []⟩
  else if opensBlock line then
    ⟨{ r with block := some ⟨b.rounds, b.lines ++ [line], b.depth + 1⟩ }, c, none, []⟩
  else ⟨{ r with block := some ⟨b.rounds, b.lines ++ [line], b.depth⟩ }, c, none, []⟩

def extend (s : Setting) (r : Slots) (line : Line) (c : Console) : Passage :=
  let held := r.statement ++ [line]
  if openBraces held ≤ 0 then
    { r with statement := [] }.after (c.accept (s.room.inside 2) (joined held))
  else ⟨{ r with statement := held }, c, none, []⟩

def begin (s : Setting) (below : Option (Setting → Level)) (r : Slots) (line : Line)
    (c : Console) : Passage :=
  if Text.trim line = [] then ⟨r, c, none, []⟩
  else if isDirective line then
    match commands line with
    | .error fault => ⟨r, c, some (.directive fault), []⟩
    | .ok ks => r.run (s.inside 1) below ks c
  else if 0 < openBraces [line] then ⟨{ r with statement := [line] }, c, none, []⟩
  else r.after (c.accept (s.room.inside 2) line)

def consume (s : Setting) (below : Option (Setting → Level)) (r : Slots) (line : Line)
    (c : Console) : Passage :=
  match r.block with
  | some b => r.capture s below b line c
  | none => if r.statement = [] then r.begin s below line c else r.extend s line c

end Slots

def Reader.slots : Reader → Slots
  | .idle => .empty
  | .capturing b => ⟨some ⟨b.rounds, b.lines, b.depth⟩, []⟩
  | .unfinished lines => ⟨none, lines⟩

namespace Slots

/-- The two places come to hold what a reader does, and nothing is in them whenever something is
carried out. -/
structure Passage.Matches (q : Passage) (p : Progress) : Prop where
  slots : q.slots = p.reader.slots
  console : q.console = p.console
  failure : q.failure = p.failure
  meanwhile : ∀ r ∈ q.meanwhile, r = .empty

section Agreement

variable {s : Setting} {below : Option (Setting → Level)}

/-- A line that carries out nothing. -/
theorem matches_silent (reader : Reader) (c : Console) (failure : Option Failure) :
    Passage.Matches ⟨reader.slots, c, failure, []⟩ ⟨reader, c, failure⟩ :=
  ⟨rfl, rfl, rfl, fun _ h => absurd h List.not_mem_nil⟩

theorem matches_after (e : Effect) : (empty.after e).Matches e.idle :=
  ⟨rfl, rfl, rfl, fun _ h => List.mem_singleton.mp h⟩

theorem Passage.Matches.andThen {e : Effect} {next : Console → Passage} {p : Console → Progress}
    (h : ∀ c, (next c).Matches (p c)) :
    ((empty.after e).andThen next).Matches
      (match e.failure with
      | none => p e.console
      | some _ => e.idle) := by
  have hfirst := matches_after e
  unfold Passage.andThen
  cases hfailure : e.failure with
  | some f =>
    simp only [after, hfailure]
    rwa [after, hfailure] at hfirst
  | none =>
    have hnext := h e.console
    simp only [after, hfailure]
    exact ⟨hnext.slots, hnext.console, hnext.failure,
      List.forall_mem_append.mpr ⟨hfirst.meanwhile, hnext.meanwhile⟩⟩

/-- Commands are carried out with nothing in either place. -/
theorem run_matches (ks : List Command) (c : Console) :
    (empty.run s below ks c).Matches (runCommands s below ks c) := by
  induction ks generalizing c with
  | nil => exact matches_silent .idle c none
  | cons k rest ih =>
    unfold run runCommands
    by_cases hrun : c.running = true
    · rw [if_pos hrun, if_pos hrun]
      cases k with
      | loop count =>
        cases rest with
        | nil => exact matches_silent (.capturing ⟨count.value, [], 0⟩) _ none
        | cons next rest => exact matches_after _
      | close | tag _ | goto _ | untag _ | list | display _ | go | reset | load _ | help | quit =>
        exact Passage.Matches.andThen ih
    · rw [if_neg hrun, if_neg hrun]
      exact matches_silent .idle c none

theorem capture_matches (b : Block) (line : Line) (c : Console) :
    ((Reader.capturing b).slots.capture s below ⟨b.rounds, b.lines, b.depth⟩ line c).Matches
      (consumeLine s below (.capturing b) line c) := by
  obtain ⟨rounds, lines, depth⟩ := b
  have hcapture := capture_eq ⟨rounds, lines, depth⟩ line
  rw [bracket_of_blocks] at hcapture
  unfold capture consumeLine
  dsimp only at hcapture ⊢
  rw [hcapture]
  by_cases hcloses : closesBlock line = true
  · rw [if_pos hcloses, if_pos hcloses]
    cases depth with
    | zero =>
      rw [if_pos (show ((0 : Nat) : Int) = 0 from rfl)]
      dsimp only [Bracket.shift, Option.map]
      unfold closeBlock
      cases commands line with
      | error fault => exact matches_silent (.capturing ⟨rounds, lines, 0⟩) c _
      | ok ks => exact Passage.Matches.andThen (run_matches (ks.drop 1))
    | succ depth =>
      have hdepth : ((depth + 1 : Nat) : Int) - 1 = depth := by omega
      rw [if_neg (by omega), hdepth]
      exact matches_silent (.capturing ⟨rounds, lines ++ [line], depth⟩) c none
  · rw [if_neg hcloses, if_neg hcloses]
    by_cases hopens : opensBlock line = true
    · rw [if_pos hopens, if_pos hopens]
      exact matches_silent (.capturing ⟨rounds, lines ++ [line], depth + 1⟩) c none
    · rw [if_neg hopens, if_neg hopens]
      exact matches_silent (.capturing ⟨rounds, lines ++ [line], depth⟩) c none

theorem extend_matches (lines : List Line) (line : Line) (c : Console) :
    ((Reader.unfinished lines).slots.extend s line c).Matches
      (takeStatement s (lines ++ [line]) c) := by
  unfold extend takeStatement goesOn
  dsimp only [Reader.slots]
  by_cases hopen : 0 < openBraces (lines ++ [line])
  · rw [if_neg (Int.not_le.mpr hopen), if_pos (decide_eq_true hopen)]
    exact matches_silent (.unfinished (lines ++ [line])) c none
  · rw [if_pos (Int.not_lt.mp hopen), if_neg (mt of_decide_eq_true hopen)]
    exact matches_after _

theorem begin_matches (line : Line) (c : Console) :
    (empty.begin s below line c).Matches (takeFirst s below line c) := by
  unfold begin takeFirst
  by_cases hblank : Text.trim line = []
  · rw [if_pos hblank, if_pos hblank]
    exact matches_silent .idle c none
  · rw [if_neg hblank, if_neg hblank]
    by_cases hdirective : isDirective line = true
    · rw [if_pos hdirective, if_pos hdirective]
      cases commands line with
      | error fault => exact matches_silent .idle c _
      | ok ks => exact run_matches ks c
    · rw [if_neg hdirective, if_neg hdirective]
      unfold takeStatement goesOn
      by_cases hopen : 0 < openBraces [line]
      · rw [if_pos hopen, if_pos (decide_eq_true hopen)]
        exact matches_silent (.unfinished [line]) c none
      · have hjoined : joined [line] = line := List.intercalate_singleton
        rw [if_neg hopen, if_neg (mt of_decide_eq_true hopen), hjoined]
        exact matches_after _

/-- A line does at the two places of a reader what it does at the reader, unless that holds a
statement of no lines. -/
theorem consume_matches {reader : Reader} (h : reader ≠ .unfinished []) (line : Line) (c : Console) :
    (reader.slots.consume s below line c).Matches (consumeLine s below reader line c) := by
  cases reader with
  | idle => exact begin_matches line c
  | capturing b => exact capture_matches b line c
  | unfinished lines =>
    have hlines : lines ≠ [] := fun hnil => h (congrArg Reader.unfinished hnil)
    change Passage.Matches (if lines = [] then _ else _) _
    rw [if_neg hlines]
    exact extend_matches lines line c

end Agreement

end Slots

end CircuitConsole.Console
