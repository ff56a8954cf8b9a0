import CircuitConsole.Proofs.Console.Taking
import CircuitConsole.Proofs.Console.WrittenCommands

/-!
Brackets of a loop block. The reader that captures a block counts line by line: a line closes if it
begins with an end, or else opens if it ends with a loop. Lines are balanced if they close what they
open.
-/

namespace CircuitConsole.Console

/-- How many blocks are open after a line, unless it closes the outermost one. -/
def Bracket.shift : Bracket → Nat → Option Nat
  | .closing, 0 => none
  | .closing, depth + 1 => some depth
  | .opening, depth => some (depth + 1)
  | .neither, depth => some depth

def nesting (depth : Nat) (lines : List Line) : Option Nat :=
  lines.foldlM (fun depth line => (bracket line).shift depth) depth

/-- Lines that close what they open, as a reader counts while it captures. -/
def Balanced (lines : List Line) : Prop := nesting 0 lines = some 0

instance (lines : List Line) : Decidable (Balanced lines) :=
  inferInstanceAs (Decidable (nesting 0 lines = some 0))

section Nesting

theorem nesting_cons (depth : Nat) (line : Line) (lines : List Line) :
    nesting depth (line :: lines) = ((bracket line).shift depth).bind (nesting · lines) :=
  List.foldlM_cons

theorem nesting_append (depth : Nat) (front back : List Line) :
    nesting depth (front ++ back) = (nesting depth front).bind (nesting · back) :=
  List.foldlM_append

theorem capture_eq (b : Block) (line : Line) :
    b.capture? line = ((bracket line).shift b.depth).map (b.add line) := by
  unfold Block.capture?
  cases bracket line with
  | closing => cases b.depth <;> rfl
  | opening => rfl
  | neither => rfl

/-- Only a line that closes the outermost block leaves no number of open blocks. -/
theorem shift_eq_none {m : Bracket} {depth : Nat} (h : m.shift depth = none) :
    m = .closing ∧ depth = 0 := by
  cases m with
  | closing =>
    cases depth with
    | zero => exact ⟨rfl, rfl⟩
    | succ depth => cases h
  | opening => cases h
  | neither => cases h

/-- Lines that close the outermost block have a first line that does so. -/
theorem exists_closing {lines : List Line} {depth : Nat} (h : nesting depth lines = none) :
    ∃ front line back, lines = front ++ line :: back ∧ nesting depth front = some 0 ∧
      bracket line = .closing := by
  induction lines generalizing depth with
  | nil => cases h
  | cons line lines ih =>
    rw [nesting_cons] at h
    cases hshift : (bracket line).shift depth with
    | none =>
      obtain ⟨hclosing, rfl⟩ := shift_eq_none hshift
      exact ⟨[], line, lines, rfl, rfl, hclosing⟩
    | some next =>
      rw [hshift] at h
      obtain ⟨front, last, back, rfl, hfront, hlast⟩ := ih h
      exact ⟨line :: front, last, back, rfl, by rw [nesting_cons, hshift]; exact hfront, hlast⟩

end Nesting

section Commands

variable {line : Line}

theorem bracket_eq (line : Line) :
    bracket line = if isDirective line then
      if (phraseWords line).head? = some "end".toList then .closing
      else if (phraseWords line).getLast? = some "loop".toList then .opening
      else .neither
    else .neither := rfl

theorem bracket_eq_closing :
    bracket line = .closing ↔
      isDirective line = true ∧ (phraseWords line).head? = some "end".toList := by
  rw [bracket_eq]
  constructor
  · intro h
    split at h
    · rename_i hdirective
      split at h
      · rename_i hend
        exact ⟨hdirective, hend⟩
      · split at h <;> cases h
    · cases h
  · rintro ⟨hdirective, hend⟩
    rw [if_pos hdirective, if_pos hend]

theorem bracket_eq_neither (h : isDirective line = false) : bracket line = .neither := by
  simp [bracket_eq, h]

/-- A line that closes begins with an end, if it can be read. -/
theorem commands_of_closing {ks : List Command} (h : bracket line = .closing)
    (hread : commands line = .ok ks) : ∃ rest, ks = .close :: rest := by
  have hend := (bracket_eq_closing.mp h).2
  rw [words_of_commands hread] at hend
  cases ks with
  | nil => simp at hend
  | cons k rest =>
    have hk : k.word.toList = "end".toList := Option.some.inj hend
    rw [Command.word_eq_end.mp hk]
    exact ⟨rest, rfl⟩

end Commands

end CircuitConsole.Console
