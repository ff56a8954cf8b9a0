import CircuitConsole.Proofs.Console.Feeding
import Mathlib.Data.List.Basic

/-!
Lines that are taken without a failure. A level takes them one after the other, or so many times
over, as a user enters them; a replay takes them in the same way, and it fails where a round leaves
something open.
-/

namespace CircuitConsole.Console

namespace Level

/-- Takes lines one after the other; nothing comes of it if one of them fails or stops the
console. -/
def takeAll (l : Level) : List Line → Prompt → Option Prompt
  | [], p => some p
  | line :: lines, p =>
    let e := l.consume p.reader line p.console
    if e.failure = none ∧ e.console.running then l.takeAll lines ⟨e.reader, e.console⟩ else none

def takeRounds (l : Level) (lines : List Line) : Nat → Prompt → Option Prompt
  | 0, p => some p
  | n + 1, p =>
    match l.takeAll lines p with
    | some q => if q.reader = .idle then l.takeRounds lines n q else none
    | none => none

end Level

variable {l : Level}

theorem takeAll_append (front back : List Line) (p : Prompt) :
    l.takeAll (front ++ back) p = (l.takeAll front p).bind (l.takeAll back) := by
  induction front generalizing p with
  | nil => rfl
  | cons line front ih =>
    simp only [List.cons_append, Level.takeAll]
    split
    · exact ih _
    · rfl

theorem running_of_takeAll {lines : List Line} {p q : Prompt} (h : l.takeAll lines p = some q)
    (hrun : p.console.running = true) : q.console.running = true := by
  induction lines generalizing p with
  | nil =>
    obtain rfl := Option.some.inj h
    exact hrun
  | cons line lines ih =>
    simp only [Level.takeAll, Option.ite_none_right_eq_some] at h
    exact ih h.2 h.1.2

theorem takeRounds_succ {lines : List Line} {n : Nat} {p q : Prompt}
    (h : l.takeRounds lines (n + 1) p = some q) :
    ∃ m, l.takeAll lines p = some m ∧ m.reader = .idle ∧ l.takeRounds lines n m = some q := by
  unfold Level.takeRounds at h
  cases hm : l.takeAll lines p with
  | none => simp [hm] at h
  | some m =>
    simp only [hm, Option.ite_none_right_eq_some] at h
    exact ⟨m, rfl, h.1, h.2⟩

/-- Lines that can be taken are read without a failure, and the lines behind them after that. -/
theorem readAll_append_of_takeAll {recover : Nat → Failure → Console → Effect} {number : Nat}
    {front : List Line} {p q : Prompt} (h : l.takeAll front p = some q)
    (hrun : p.console.running = true) (back : List Line) :
    l.readAll recover number p.reader (front ++ back) p.console =
      l.readAll recover (number + front.length) q.reader back q.console := by
  induction front generalizing number p with
  | nil =>
    obtain rfl := Option.some.inj h
    rfl
  | cons line front ih =>
    simp only [Level.takeAll, Option.ite_none_right_eq_some] at h
    obtain ⟨⟨hok, hnext⟩, hrest⟩ := h
    simp only [List.cons_append, Level.readAll, hrun, if_true, hok, done, List.length_cons]
    rw [Nat.add_comm front.length, ← Nat.add_assoc]
    exact ih hrest hnext

theorem readAll_of_takeAll {recover : Nat → Failure → Console → Effect} {number : Nat}
    {lines : List Line} {p q : Prompt} (h : l.takeAll lines p = some q)
    (hrun : p.console.running = true) :
    l.readAll recover number p.reader lines p.console = ⟨q.reader, q.console, none⟩ := by
  have hread := @readAll_append_of_takeAll l recover number lines p q h hrun []
  rwa [List.append_nil] at hread

/-- Lines that can be taken so many times over are a block that can be replayed. -/
theorem rounds_of_takeRounds {lines : List Line} {n : Nat} {p q : Prompt}
    (h : l.takeRounds lines n p = some q) (hidle : p.reader = .idle)
    (hrun : p.console.running = true) :
    q.reader = .idle ∧ q.console.running = true ∧
      rounds (fun c => (l.readAll (fun _ f c => c.fail f) 1 .idle lines c).finish .openInRound) n
        p.console = q.console.done := by
  induction n generalizing p with
  | zero =>
    obtain rfl := Option.some.inj h
    exact ⟨hidle, hrun, rfl⟩
  | succ n ih =>
    obtain ⟨m, hm, hmidle, hrest⟩ := takeRounds_succ h
    obtain ⟨hqidle, hqrun, hrounds⟩ := ih hrest hmidle (running_of_takeAll hm hrun)
    have hread := @readAll_of_takeAll l (fun _ f c => c.fail f) 1 lines p m hm hrun
    rw [hidle] at hread
    refine ⟨hqidle, hqrun, ?_⟩
    unfold rounds
    simpa [hrun, hread, Progress.finish, hmidle, done] using hrounds

/-- A block with a round that leaves something open fails. -/
theorem replay_of_open {s : Setting} {below : Setting → Level} {b : Block} {c : Console}
    {q : Prompt} (hrounds : 1 ≤ b.rounds)
    (h : (below (s.inside 1)).takeAll b.lines
      ⟨.idle, c.note (.replaying b.lines.length b.rounds)⟩ = some q)
    (hrun : c.running = true) (hopen : q.reader ≠ .idle) :
    (replay s (some below) b c).failure = some .openInRound := by
  obtain ⟨n, hn⟩ := Nat.exists_eq_add_of_le' hrounds
  have hrunNote : (c.note (.replaying b.lines.length b.rounds)).running = true := hrun
  have hread := @readAll_of_takeAll (below (s.inside 1)) (fun _ f c => c.fail f) 1 b.lines _ _ h
    hrun
  have hqrun := running_of_takeAll h hrun
  have hfinish : (Progress.mk q.reader q.console none).finish .openInRound =
      q.console.fail .openInRound := by simp [Progress.finish, hqrun, hopen]
  rw [hn] at hread hrunNote
  simp only [replay, nested, rounds, hn, hrunNote, if_true, hread, hfinish]
  rfl

theorem takeAll_after (hl : l.Forgetful) (lines : List Line) (earlier : List Event) (p : Prompt) :
    l.takeAll lines (p.after earlier) = (l.takeAll lines p).map (Prompt.after earlier) := by
  induction lines generalizing p with
  | nil => rfl
  | cons line lines ih =>
    have hline : l.consume (p.after earlier).reader line (p.after earlier).console =
        (l.consume p.reader line p.console).after earlier := hl.consume earlier _ line _
    simp only [Level.takeAll, hline]
    generalize l.consume p.reader line p.console = e
    by_cases hok : e.failure = none ∧ e.console.running = true
    · have hokAfter : (e.after earlier).failure = none ∧
          (e.after earlier).console.running = true := hok
      rw [if_pos hok, if_pos hokAfter]
      exact ih ⟨e.reader, e.console⟩
    · have hnotAfter : ¬ ((e.after earlier).failure = none ∧
          (e.after earlier).console.running = true) := hok
      rw [if_neg hok, if_neg hnotAfter]
      rfl

theorem takeRounds_after (hl : l.Forgetful) (lines : List Line) (n : Nat) (earlier : List Event)
    (p : Prompt) :
    l.takeRounds lines n (p.after earlier) =
      (l.takeRounds lines n p).map (Prompt.after earlier) := by
  induction n generalizing p with
  | zero => rfl
  | succ n ih =>
    unfold Level.takeRounds
    rw [takeAll_after hl]
    cases l.takeAll lines p with
    | none => rfl
    | some q =>
      have hreader : (q.after earlier).reader = q.reader := rfl
      simp only [Option.map_some, hreader]
      by_cases hidle : q.reader = .idle
      · rw [if_pos hidle, if_pos hidle]
        exact ih q
      · rw [if_neg hidle, if_neg hidle]
        rfl

end CircuitConsole.Console
