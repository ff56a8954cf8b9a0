import CircuitConsole.Proofs.Console.ParsedTexts
import CircuitConsole.Proofs.Console.StraightLines

/-!
Loops in loops. The lines of the outermost block hold all the others, and each round of it captures
the next one afresh, one level further down. So the statements inside are read as often as the
counts multiply to, as long as there are levels left; where there are not, the loop beyond the last
level fails before any statement is read, if a round ever comes to it.
-/

namespace CircuitConsole.Console

open Moment

def nestedLoops (counts : List Count) (body : List Line) : List Line :=
  counts.map (fun count => Command.text (.loop count)) ++ body ++
    List.replicate counts.length (Command.text .close)

def repeated (counts : List Count) (body : List Line) : List Line :=
  (List.replicate (counts.foldr (fun count n => count.value * n) 1) body).flatten

/-- What the lines in the innermost of some loops find where the first is opened. -/
@[reducible]
def Setting.innermost (s : Setting) (counts : List Count) : Capacity :=
  s.room.inside (3 * counts.length + 2)

section Lines

variable {counts : List Count} {body : List Line}

theorem innermost_cons (s : Setting) (count : Count) (counts : List Count) :
    s.innermost (count :: counts) = (s.inside 3).innermost counts := by
  change s.room.inside _ = (s.room.inside 3).inside _
  rw [Capacity.inside_inside, List.length_cons]
  congr 1
  omega

theorem nestedLoops_cons (count : Count) (counts : List Count) (body : List Line) :
    nestedLoops (count :: counts) body = loopBlock count (nestedLoops counts body) := by
  rw [nestedLoops, nestedLoops, loopBlock, List.length_cons, List.replicate_succ', List.map_cons]
  simp only [List.cons_append, List.append_assoc]

theorem repeated_cons (count : Count) (counts : List Count) (body : List Line) :
    repeated (count :: counts) body =
      (List.replicate count.value (repeated counts body)).flatten := by
  unfold repeated
  rw [List.foldr_cons, ← List.flatten_replicate_replicate, List.flatten_flatten, List.map_replicate]

theorem repeated_nil (body : List Line) : repeated [] body = body := by
  simp [repeated]

/-- Lines that do not close the outermost block do not close one around it. -/
theorem nesting_succ {lines : List Line} {depth next : Nat} (h : nesting depth lines = some next) :
    nesting (depth + 1) lines = some (next + 1) := by
  induction lines generalizing depth with
  | nil =>
    obtain rfl := Option.some.inj h
    rfl
  | cons line lines ih =>
    rw [nesting_cons] at h ⊢
    obtain ⟨inner, hshift, hrest⟩ := Option.bind_eq_some_iff.mp h
    rw [shift_succ hshift]
    exact ih hrest

theorem bracket_loop (count : Count) : bracket (Command.text (.loop count)) = .opening := by
  have hwords := words_of_commands (Command.commands_loop count)
  have hdirective : isDirective (Command.text (.loop count)) = true := isDirective_marked _
  have hfirst : (some "loop".toList : Option (List Char)) ≠ some "end".toList := by decide
  rw [bracket_eq, hwords, if_pos hdirective]
  exact (if_neg hfirst).trans (if_pos rfl)

theorem balanced_loopBlock {count : Count} {lines : List Line} (h : Balanced lines) :
    Balanced (loopBlock count lines) := by
  have hclose : bracket (Command.text .close) = .closing := by decide
  have hinner : nesting 1 lines = some 1 := nesting_succ h
  rw [Balanced, loopBlock, List.cons_append, nesting_cons, bracket_loop, Bracket.shift,
    Option.bind_some, nesting_append, hinner, Option.bind_some, nesting_cons, hclose]
  rfl

theorem balanced_statements (h : ∀ line ∈ body, StatementLine line) : Balanced body := by
  induction body with
  | nil => rfl
  | cons line body ih =>
    obtain ⟨hline, hlater⟩ := List.forall_mem_cons.mp h
    rw [Balanced, nesting_cons, bracket_eq_neither hline.unmarked]
    exact ih hlater

theorem balanced_nestedLoops (h : ∀ line ∈ body, StatementLine line) (counts : List Count) :
    Balanced (nestedLoops counts body) := by
  induction counts with
  | nil => simpa [nestedLoops] using balanced_statements h
  | cons count counts ih =>
    rw [nestedLoops_cons]
    exact balanced_loopBlock ih

theorem length_nestedLoops_cons (count : Count) (counts : List Count) (body : List Line) :
    (nestedLoops (count :: counts) body).length = (nestedLoops counts body).length + 1 + 1 := by
  rw [nestedLoops_cons, loopBlock, List.length_append, List.length_cons]
  rfl

end Lines

section Admitted

variable {s : Setting} {counts : List Count} {body : List Line}

/-- A round that comes to loops for which there are levels reads the lines inside them as often as
the counts multiply to. -/
theorem round_nestedLoops (hbody : ∀ line ∈ body, StatementLine line) {n : Nat}
    (hcounts : counts.length ≤ n) (k : Nat) {c : Console} (hrun : c.running = true) {w : Workspace}
    (h : acceptAll (s.innermost counts) (repeated counts body) c.workspace = .ok w) :
    ∃ c', blockRound (level s n) ⟨k, nestedLoops counts body, 0⟩ c = c'.done ∧
      Parses (s.innermost counts) (repeated counts body) c c' := by
  induction counts generalizing s n k c w with
  | nil =>
    obtain ⟨below, hlevel⟩ := level_eq_levelOver n
    have hlines : nestedLoops [] body = body := by simp [nestedLoops]
    rw [repeated_nil] at h ⊢
    obtain ⟨c', hread, hparses⟩ := @readAll_statements s below body hbody 1 c hrun w h
    refine ⟨c', ?_, hparses⟩
    rw [hlevel, hlines, blockRound, hread]
    exact finish_idle c' _
  | cons count counts ih =>
    cases n with
    | zero => cases hcounts
    | succ m =>
      have hround (c : Console) (w : Workspace) (hrun : c.running = true)
          (h : acceptAll ((s.inside 3).innermost counts) (repeated counts body) c.workspace =
            .ok w) :=
        ih (Nat.le_of_succ_le_succ hcounts) count.value hrun h
      rw [repeated_cons, innermost_cons] at h ⊢
      rw [nestedLoops_cons, level,
        blockRound_loopBlock (balanced_nestedLoops hbody counts) _ _ hrun]
      exact replay_parses (s := s.inside 2) hround hrun h

end Admitted

section Capped

variable {s : Setting} {counts : List Count} {body : List Line} {c c' c'' : Console}

def Event.isLoopNote : Event → Bool
  | .note (.capturing _) | .note (.replaying ..) => true
  | _ => false

def Looped (c c' : Console) : Prop :=
  ∃ events, (∀ e ∈ events, Event.isLoopNote e = true) ∧
    c' = { c with events := events ++ c.events }

theorem Looped.trans (h : Looped c c') (h' : Looped c' c'') : Looped c c'' := by
  obtain ⟨events, hevents, rfl⟩ := h
  obtain ⟨events', hevents', rfl⟩ := h'
  refine ⟨events' ++ events, ?_, by rw [List.append_assoc]⟩
  exact fun e he => (List.mem_append.mp he).elim (hevents' e) (hevents e)

theorem looped_note {n : Note} (h : Event.isLoopNote (.note n) = true) (c : Console) :
    Looped c (c.note n) :=
  ⟨[.note n], by simpa using h, rfl⟩

theorem Looped.running (h : Looped c c') : c'.running = c.running := by
  obtain ⟨events, -, rfl⟩ := h
  rfl

/-- Rounds that fail, or do nothing, in the same way on every console: the first of them decides. -/
theorem rounds_looped {round : Console → Effect} {failure : Option Failure}
    (hround : ∀ c : Console, c.running = true → ∃ c', Looped c c' ∧ round c = ⟨c', failure⟩)
    (n : Nat) (hrun : c.running = true) :
    ∃ c', Looped c c' ∧ rounds round n c = ⟨c', if 1 ≤ n then failure else none⟩ := by
  induction n generalizing c with
  | zero => exact ⟨c, ⟨[], by simp, rfl⟩, rfl⟩
  | succ n ih =>
    obtain ⟨m, hm, hfirst⟩ := hround c hrun
    rw [rounds_succ _ _ hrun, hfirst, if_pos (Nat.succ_le_succ (Nat.zero_le n))]
    cases failure with
    | some f => exact ⟨m, hm, rfl⟩
    | none =>
      obtain ⟨c', hc', hrest⟩ := ih (hm.running.trans hrun)
      refine ⟨c', hm.trans hc', hrest.trans ?_⟩
      rw [ite_self]

/-- A replay of such rounds does as the first of them, if there is one. -/
theorem replay_looped {l : Setting → Level} {b : Block} {failure : Option Failure}
    (hround : ∀ c : Console, c.running = true →
      ∃ c', Looped c c' ∧ blockRound (l (s.inside 1)) b c = ⟨c', failure⟩)
    (hrun : c.running = true) :
    ∃ c', Looped c c' ∧ replay s (some l) b (c.note (.capturing b.rounds)) =
      ⟨c', if 1 ≤ b.rounds then failure else none⟩ := by
  have hnotes := (looped_note (n := .capturing b.rounds) rfl c).trans
    (looped_note (n := .replaying b.lines.length b.rounds) rfl _)
  obtain ⟨c', hc', hrounds⟩ := rounds_looped hround b.rounds (hnotes.running.trans hrun)
  exact ⟨c', hnotes.trans hc', hrounds⟩

/-- How a round ends that comes to loops of which only so many can be opened. -/
def cappedFailure (n : Nat) (counts : List Count) : Option Failure :=
  if ∀ count ∈ counts.take n, 1 ≤ count.value then some (.tooDeep .loop) else none

theorem cappedFailure_cons (n : Nat) (count : Count) (counts : List Count) :
    (if 1 ≤ count.value then cappedFailure n counts else none) =
      cappedFailure (n + 1) (count :: counts) := by
  unfold cappedFailure
  rw [List.take_succ_cons, ← ite_and]
  exact if_congr (List.forall_mem_cons (p := fun count : Count => 1 ≤ count.value)).symm rfl rfl

theorem settle_cappedFailure (n : Nat) (counts : List Count) (c : Console) :
    Prompt.settle ⟨.idle, c⟩ (cappedFailure n counts) =
      (⟨.idle, if ∀ count ∈ counts.take n, 1 ≤ count.value then
        c.emit (.report none (.tooDeep .loop)) else c⟩, none) := by
  unfold cappedFailure
  by_cases hrounds : ∀ count ∈ counts.take n, 1 ≤ count.value
  · rw [if_pos hrounds, if_pos hrounds]
    rfl
  · rw [if_neg hrounds, if_neg hrounds]
    rfl

/-- A round that comes to more loops than there are levels reads none of the lines inside them. It
fails if each loop for which there is a level has a round. -/
theorem round_tooDeep (hbody : ∀ line ∈ body, StatementLine line) {n : Nat}
    (hcounts : n < counts.length) (k : Nat) (hrun : c.running = true) :
    ∃ c', Looped c c' ∧
      blockRound (level s n) ⟨k, nestedLoops counts body, 0⟩ c = ⟨c', cappedFailure n counts⟩ := by
  induction counts generalizing s n k c with
  | nil => cases hcounts
  | cons count counts ih =>
    have hbalanced := balanced_nestedLoops hbody counts
    rw [nestedLoops_cons]
    cases n with
    | zero =>
      have hnotes := (looped_note (n := .capturing count.value) rfl c).trans
        (looped_note (n := .replaying (nestedLoops counts body).length count.value) rfl _)
      rw [level, blockRound_loopBlock hbalanced _ _ hrun, cappedFailure, if_pos (by simp)]
      exact ⟨_, hnotes, rfl⟩
    | succ m =>
      have hround (c : Console) (hrun : c.running = true) :=
        @ih (s.inside 3) c m (Nat.lt_of_succ_lt_succ hcounts) count.value hrun
      rw [level, blockRound_loopBlock hbalanced _ _ hrun, ← cappedFailure_cons]
      exact replay_looped (s := s.inside 2) hround hrun

end Capped

/-- Statements in loops that are nested no deeper than the cap are read as often as the counts
multiply to, one after the other, if they can be read so often; nothing is reported. In loops nested
deeper they are never read, and the loop beyond the cap is reported if every loop up to there has a
round. In either case every line ends with the counter of what is open back at nothing, and the
reader is idle behind the last. -/
theorem nested_loops_multiply {s : Setting} {p : Prompt} {counts : List Count} {body : List Line}
    (hidle : p.reader = .idle) (hrun : p.console.running = true) (hcounts : counts ≠ [])
    (hbody : ∀ line ∈ body, StatementLine line) :
    (counts.length ≤ maxNesting →
      ∀ w, acceptAll (s.innermost counts) (repeated counts body) p.console.workspace = .ok w →
        ∃ c, Parses (s.innermost counts) (repeated counts body) p.console c ∧
          p.answers s ((nestedLoops counts body).map .line) =
            (⟨.idle, c⟩, List.replicate (nestedLoops counts body).length none)) ∧
    (maxNesting < counts.length →
      (Failure.tooDeep .loop).label = "LoopError" ∧
      ∃ c, Looped p.console c ∧
        p.answers s ((nestedLoops counts body).map .line) =
          (⟨.idle, if ∀ count ∈ counts.take maxNesting, 1 ≤ count.value then
              c.emit (.report none (.tooDeep .loop)) else c⟩,
            List.replicate (nestedLoops counts body).length none)) ∧
    ∀ front line back, nestedLoops counts body = front ++ line :: back →
      (beginning s line (p.answers s (front.map .line)).1).Leads s
        (ending ((p.answers s (front.map .line)).1.execute s line)) ∧
      (ending ((p.answers s (front.map .line)).1.execute s line)).depth = 0 := by
  obtain ⟨reader, c⟩ := p
  obtain rfl : reader = .idle := hidle
  obtain ⟨count, counts, rfl⟩ := List.exists_cons_of_ne_nil hcounts
  -- the lines of the outermost loop are replayed at the level below that of the user
  have hanswers {e : Effect} (he : replay (s.inside 2) (some fun s => level s (maxNesting - 1))
      ⟨count.value, nestedLoops counts body, 0⟩ (c.note (.capturing count.value)) = e)
      {q : Prompt} (hsettled : Prompt.settle ⟨.idle, e.console⟩ e.failure = (q, none)) :
      Prompt.answers s ((nestedLoops (count :: counts) body).map .line) ⟨.idle, c⟩ =
        (q, List.replicate (nestedLoops (count :: counts) body).length none) := by
    rw [length_nestedLoops_cons, nestedLoops_cons,
      Prompt.answers_loopBlock (balanced_nestedLoops hbody counts) hrun he, hsettled]
    exact congrArg (q, ·) List.replicate_succ'.symm
  refine ⟨fun hlength w h => ?_, fun hlength => ⟨rfl, ?_⟩, fun front line back _ =>
    ⟨beginning_leads s _ line, rfl⟩⟩
  · have hround (c : Console) (w : Workspace) (hrun : c.running = true)
        (h : acceptAll ((s.inside 3).innermost counts) (repeated counts body) c.workspace =
          .ok w) :=
      round_nestedLoops hbody (Nat.le_pred_of_lt hlength) count.value hrun h
    rw [repeated_cons, innermost_cons] at h ⊢
    obtain ⟨c', hreplay, hparses⟩ := replay_parses (s := s.inside 2)
      (l := fun s => level s (maxNesting - 1)) hround hrun h
    exact ⟨c', hparses, hanswers hreplay rfl⟩
  · have hround (c : Console) (hrun : c.running = true) :=
      round_tooDeep (s := s.inside 3) hbody (Nat.lt_of_succ_lt_succ hlength) count.value hrun
    obtain ⟨c', hlooped, hreplay⟩ := replay_looped (s := s.inside 2)
      (l := fun s => level s (maxNesting - 1)) hround hrun
    rw [cappedFailure_cons] at hreplay
    exact ⟨c', hlooped, hanswers hreplay (settle_cappedFailure _ _ c')⟩

/-- Two statements in two rounds of three, and in sixty-five loops of one round each. -/
theorem statements_in_loops :
    let s : Setting := ⟨fun _ => .error .missing, fun _ => 0⟩
    let p := (Prompt.start.feed s "qreg q[1];".toList).1
    let body := ["x q[0];".toList, "z q[0];".toList]
    let one : Count := ⟨"1".toList, 1, by decide⟩
    let two : Count := ⟨"2".toList, 2, by decide⟩
    let three : Count := ⟨"3".toList, 3, by decide⟩
    (∃ c, Parses (s.innermost [two, three]) (repeated [two, three] body) p.console c ∧
      c.workspace.queue.length = 12 ∧
      p.answers s ((nestedLoops [two, three] body).map .line) =
        (⟨.idle, c⟩, List.replicate (nestedLoops [two, three] body).length none)) ∧
    ∃ c, Looped p.console c ∧
      p.answers s ((nestedLoops (List.replicate 65 one) body).map .line) =
        (⟨.idle, c.emit (.report none (.tooDeep .loop))⟩,
          List.replicate (nestedLoops (List.replicate 65 one) body).length none) := by
  intro s p body one two three
  have hidle : p.reader = .idle := by decide +kernel
  have hrun : p.console.running = true := by decide +kernel
  have hbody : ∀ line ∈ body, StatementLine line := by decide
  have hqueue : (acceptAll (s.innermost [two, three]) (repeated [two, three] body)
      p.console.workspace).toOption.map (·.queue.length) = some 12 := by decide +kernel
  constructor
  · cases haccept : acceptAll (s.innermost [two, three]) (repeated [two, three] body)
        p.console.workspace with
    | error fault =>
      rw [haccept] at hqueue
      cases hqueue
    | ok w =>
      obtain ⟨c, hparses, hanswers⟩ :=
        (@nested_loops_multiply s p [two, three] body hidle hrun (by simp) hbody).1 (by decide) w
          haccept
      rw [hparses.workspace] at hqueue
      exact ⟨c, hparses, Option.some.inj hqueue, hanswers⟩
  · have hrounds : ∀ count ∈ (List.replicate 65 one).take maxNesting, 1 ≤ count.value := by
      intro count hcount
      rw [List.eq_of_mem_replicate (List.mem_of_mem_take hcount)]
    obtain ⟨-, c, hlooped, hanswers⟩ :=
      (@nested_loops_multiply s p (List.replicate 65 one) body hidle hrun (by simp) hbody).2.1
        (by simp [maxNesting])
    rw [if_pos hrounds] at hanswers
    exact ⟨c, hlooped, hanswers⟩

end CircuitConsole.Console
