import CircuitConsole.Expression.Evaluation
import CircuitConsole.Proofs.Success

/-!
Room for the evaluation of expressions. What was evaluated, or refused, without being nested too
deep is evaluated or refused in the same way where there is more room.
-/

namespace CircuitConsole.Expression

section Spare

variable {α : Type} {room room' : Nat} {r : Except ValueFault α}

theorem spare_succ (room : Nat) (r : Except ValueFault α) : spare (room + 1) r = r :=
  if_neg (Nat.succ_ne_zero room)

theorem ok_of_spare {v : α} (h : spare room r = .ok v) : r = .ok v := by
  unfold spare at h
  split at h
  · cases h
  · exact h

theorem spare_more (hroom : room ≤ room') (h : spare room r ≠ .error .tooDeep) :
    spare room' r = spare room r := by
  unfold spare at h ⊢
  by_cases hzero : room = 0
  · exact absurd (if_pos hzero) h
  · rw [if_neg hzero, if_neg (by omega)]

end Spare

theorem ne_error_of_bind {ε α β : Type} {x : Except ε α} {f : α → Except ε β} {fault : ε}
    (h : (x >>= f) ≠ .error fault) : x ≠ .error fault := by
  rintro rfl
  exact h rfl

variable {env : Environment} {room room' : Nat}

/-- A tree that is not nested too deep has the same value, or fault, where there is more room. -/
theorem Tree.value_more {t : Tree} (hroom : room ≤ room')
    (h : t.value env room ≠ .error .tooDeep) : t.value env room' = t.value env room := by
  induction t generalizing room room' with
  | natural _ | decimal _ | other _ _ =>
    obtain _ | room := room
    · exact absurd (Tree.value.eq_def ..) h
    · obtain ⟨room', rfl⟩ : ∃ k, room' = k + 1 := ⟨room' - 1, by omega⟩
      exact spare_more (by omega) h
  | name s =>
    obtain _ | room := room
    · exact absurd rfl h
    · obtain ⟨room', rfl⟩ : ∃ k, room' = k + 1 := ⟨room' - 1, by omega⟩
      unfold Tree.value at h ⊢
      split
      · rfl
      · split
        · rfl
        · simp_all only [if_false]
          exact spare_more (by omega) h
  | sign negative t ih =>
    obtain _ | room := room
    · exact absurd rfl h
    · obtain ⟨room', rfl⟩ : ∃ k, room' = k + 1 := ⟨room' - 1, by omega⟩
      exact congrArg (· >>= _) (ih (by omega) (ne_error_of_bind h))
  | binary op l r ihl ihr =>
    obtain _ | room := room
    · exact absurd rfl h
    · obtain ⟨room', rfl⟩ : ∃ k, room' = k + 1 := ⟨room' - 1, by omega⟩
      unfold Tree.value at h ⊢
      rw [ihl (by omega) (ne_error_of_bind h)]
      cases hl : l.value env room with
      | error fault => rfl
      | ok x =>
        rw [hl] at h
        exact congrArg (· >>= _) (ihr (by omega) (ne_error_of_bind h))
  | call f t ih =>
    obtain _ | room := room
    · exact absurd rfl h
    · obtain ⟨room', rfl⟩ : ∃ k, room' = k + 1 := ⟨room' - 1, by omega⟩
      unfold Tree.value at h ⊢
      split
      · simp_all only
        exact spare_more (by omega) h
      · rename_i g hg
        simp only [hg] at h
        exact congrArg (· >>= _) (ih (by omega) (ne_error_of_bind h))

/-- The same of the text of an expression. -/
theorem evaluate_more {text : List Char} (hroom : room ≤ room')
    (h : evaluate env text room ≠ .error .tooDeep) :
    evaluate env text room' = evaluate env text room := by
  unfold evaluate at h ⊢
  dsimp only at h ⊢
  split
  · rfl
  · rename_i hnull
    rw [if_neg hnull] at h
    split
    · rfl
    · rfl
    · rename_i t htree
      simp only [htree] at h
      by_cases hdeep : 3 * (room - 1) ≤ t.depth
      · exact absurd (if_pos hdeep) h
      · rw [if_neg hdeep] at h ⊢
        rw [if_neg (by omega), Tree.value_more hroom]
        intro hvalue
        rw [hvalue] at h
        exact h rfl

end CircuitConsole.Expression
