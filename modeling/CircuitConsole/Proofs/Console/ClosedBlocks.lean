import CircuitConsole.Proofs.Console.Feeding
import CircuitConsole.Proofs.Console.Completion
import CircuitConsole.Proofs.Console.LoopBlocks

/-!
Blocks that are closed. Lines that are balanced are captured without anything being done, and the
end behind them replays them: in a round of another block with what comes of the replay, at the
prompt with its failure settled.
-/

namespace CircuitConsole.Console

open Moment

variable {s : Setting} {below : Option (Setting → Level)} {count : Count} {lines : List Line}
  {c : Console}

/-- A single line is read as the level takes it. -/
theorem readAll_singleton (l : Level) (number : Nat) (reader : Reader) (line : Line)
    (hrun : c.running = true) :
    l.readAll (fun _ f c => c.fail f) number reader [line] c = l.consume reader line c := by
  simp only [Level.readAll, hrun, if_true]
  generalize l.consume reader line c = p
  obtain ⟨reader, c, failure⟩ := p
  cases failure <;> rfl

/-- A round of a closed block alone is the replay of its lines. -/
theorem blockRound_loopBlock (hbalanced : Balanced lines) (n depth : Nat)
    (hrun : c.running = true) :
    blockRound (levelOver s below) ⟨n, loopBlock count lines, depth⟩ c =
      replay (s.inside 2) below ⟨count.value, lines, 0⟩ (c.note (.capturing count.value)) := by
  have hcaptured := @takeAll_captured s below lines hbalanced count c hrun
  have hnote : (c.note (.capturing count.value)).running = true := hrun
  have hread := @readAll_append_of_takeAll (levelOver s below) (fun _ f c => c.fail f) 1 _
    ⟨.idle, c⟩ _ hcaptured hrun [Command.text .close]
  dsimp only at hread
  unfold blockRound loopBlock
  rw [hread, readAll_singleton _ _ _ _ hnote, consume_close rfl, finish_of_idle rfl]
  rfl

namespace Prompt

/-- Lines that the level of the user takes are answered with nothing to hand on. -/
theorem answers_of_takeAll {p q : Prompt} (h : (top s).takeAll lines p = some q) :
    p.answers s (lines.map .line) = (q, List.replicate lines.length none) := by
  induction lines generalizing p with
  | nil =>
    obtain rfl := Option.some.inj h
    rfl
  | cons line lines ih =>
    simp only [Level.takeAll, Option.ite_none_right_eq_some] at h
    obtain ⟨⟨hok, -⟩, hrest⟩ := h
    rw [List.map_cons, answers_line, feed_eq rfl, hok]
    exact congrArg (fun a => (a.1, none :: a.2)) (ih hrest)

/-- A closed block at an idle prompt is the replay of its lines, with the failure settled. -/
theorem answers_loopBlock (hbalanced : Balanced lines) (hrun : c.running = true) {e : Effect}
    (he : replay (s.inside 2) (some fun s => level s (maxNesting - 1)) ⟨count.value, lines, 0⟩
      (c.note (.capturing count.value)) = e) :
    answers s ((loopBlock count lines).map .line) ⟨.idle, c⟩ =
      ((settle ⟨.idle, e.console⟩ e.failure).1,
        List.replicate (lines.length + 1) none ++ [(settle ⟨.idle, e.console⟩ e.failure).2]) := by
  have hcaptured := answers_of_takeAll (s := s) (takeAll_captured hbalanced count hrun)
  have hfed : feed s (Command.text .close)
      ⟨.capturing ⟨count.value, lines, 0⟩, c.note (.capturing count.value)⟩ =
        settle ⟨.idle, e.console⟩ e.failure := by
    refine @feed_eq s ⟨_, _⟩ (Command.text .close) e.idle ?_
    rw [top_eq, consume_close rfl, he]
  rw [loopBlock, List.map_append, answers_append, hcaptured, List.map_singleton, answers_line]
  simp only [hfed, answers, List.length_cons]

end Prompt

end CircuitConsole.Console
