import CircuitConsole.Proofs.Expression.FormulaTrees
import CircuitConsole.Proofs.Expression.Room

/-!
The value of the text of a formula. Whatever spaces are in it, a text is evaluated as the formula
that it spells is from the leaves up, and has no value exactly where the formula has none, for the
same reason.
-/

namespace CircuitConsole.Expression

open Decimal Text

def ArithmeticFault.failure? : ArithmeticFault → Option Failure
  | divisionByZero | zeroToNegativePower => some .divisionByZero
  | domain => some .domain
  | range | powerRange | complexRange | wholeNumberRange => some .range
  | nullCharacter => none

def ValueFault.failure? : ValueFault → Option Failure
  | unknownParameter name => some (.unbound name)
  | notReal => some .notReal
  | arithmetic fault => fault.failure?
  | tooDeep | unsupported => none

def Fault.failure? : Fault → Option Failure
  | unknownParameter name => some (.unbound name)
  | notReal => some .notReal
  | arithmetic _ fault => fault.failure?
  | malformed _ | tooDeep | unsupported => none

section Operations

theorem mapError_bind {ε ε' α β : Type} (g : ε → ε') (x : Except ε α) (f : α → Except ε β) :
    (x >>= f).mapError g = x.mapError g >>= fun a => (f a).mapError g := by
  cases x <;> rfl

/-- A power fails in no other way than these. -/
theorem raised_fault {x y : Float} {fault : ArithmeticFault} (h : raised x y = .error fault) :
    fault = .zeroToNegativePower ∨ fault = .powerRange ∨ fault = .complexRange := by
  have hpositive {x y : Float} {negate : Bool} (h : (powerOfPositive x y negate).map some =
      .error fault) : fault = .powerRange := by
    unfold powerOfPositive at h
    dsimp only at h
    split at h
    · cases h
    · split at h
      · cases h
        rfl
      · cases h
  unfold raised at h
  dsimp only at h
  split_ifs at h
  all_goals first
    | cases h; done
    | exact .inr (.inl (hpositive h))
    | (cases h; simp)

theorem apply_result (op : Operator) (x y : Float) :
    (op.apply x y).mapError ValueFault.failure? = (op.result x y).mapError some := by
  cases op with
  | add => rfl
  | subtract => rfl
  | multiply => rfl
  | divide =>
    simp only [Operator.apply, Operator.result, ratio]
    split <;> rfl
  | power =>
    simp only [Operator.apply, Operator.result]
    cases h : raised x y with
    | ok r => cases r <;> rfl
    | error fault =>
      obtain rfl | rfl | rfl := raised_fault h <;> rfl

theorem function?_word (f : Elementary) :
    ∃ g, function? f.word.name = some g ∧
      ∀ x, (lift (g x)).mapError ValueFault.failure? = (f.result x).mapError some := by
  have hcircular (g : Float → Float) (x : Float) :
      (lift (circular g x)).mapError ValueFault.failure? =
        (if x.isInf then .error Failure.domain else .ok (g x) : Except _ _).mapError some := by
    unfold circular
    split <;> rfl
  cases f with
  | sin => exact ⟨circular Float.sin, rfl, hcircular Float.sin⟩
  | cos => exact ⟨circular Float.cos, rfl, hcircular Float.cos⟩
  | tan => exact ⟨circular Float.tan, rfl, hcircular Float.tan⟩
  | exp =>
    refine ⟨exponential, rfl, fun x => ?_⟩
    simp only [exponential, Elementary.result]
    split <;> rfl
  | ln =>
    refine ⟨logarithm, rfl, fun x => ?_⟩
    simp only [logarithm, Elementary.result]
    split
    · rfl
    · split <;> rfl
  | sqrt =>
    refine ⟨squareRoot, rfl, fun x => ?_⟩
    simp only [squareRoot, Elementary.result]
    split <;> rfl

end Operations

section Trees

theorem Formula.depth_pos (t : Formula) : 0 < t.depth := by cases t <;> simp [depth]

theorem Formula.exists_room {t : Formula} {room : Nat} (h : t.depth < room) :
    ∃ k, room = k + 1 + 1 := by
  have hpos := t.depth_pos
  exact ⟨room - 2, by omega⟩

section Nodes

variable (env : Environment) (room : Nat)

theorem value_natural (n : Nat) : (Tree.natural n).value env (room + 1 + 1) =
    (naturalToFloat? n).elim (.error (.arithmetic .wholeNumberRange)) .ok := by
  rw [Tree.value.eq_def]
  dsimp only
  rw [spare_succ]
  cases naturalToFloat? n with
  | none => rfl
  | some x => rfl

theorem value_sign (negative : Bool) (t : Tree) : (Tree.sign negative t).value env (room + 1) =
    t.value env room >>= fun x => .ok (if negative then -x else x) := rfl

theorem value_binary (op : Operator) (l r : Tree) : (Tree.binary op l r).value env (room + 1) =
    l.value env room >>= fun x => r.value env room >>= fun y => op.apply x y := rfl

theorem value_call {f : String} {g : Float → Except ArithmeticFault Float}
    (hf : function? f = some g) (t : Tree) : (Tree.call f t).value env (room + 1) =
    t.value env room >>= fun x => lift (g x) := by
  rw [Tree.value.eq_def]
  simp only [hf]

theorem value_name {s : String} (hs : s ≠ "pi") : (Tree.name s).value env (room + 1) =
    (env.find? s).elim (spare room (.error (.unknownParameter s))) .ok := by
  rw [Tree.value.eq_def]
  dsimp only
  rw [if_neg hs]
  cases env.find? s <;> rfl

end Nodes

theorem tree_depth (t : Formula) : t.tree.depth = t.depth := by
  induction t with
  | numeral n =>
    rw [Formula.tree]
    cases n.number <;> rfl
  | pi => rfl
  | parameter w other => rfl
  | sign negative t ih => rw [Formula.tree, Tree.depth, ih, Formula.depth]
  | binary op l r ihl ihr => rw [Formula.tree, Tree.depth, ihl, ihr, Formula.depth]
  | call f t ih => rw [Formula.tree, Tree.depth, ih, Formula.depth]

/-- The tree of a formula has the value of the formula, where there is room for its depth. -/
theorem tree_value (t : Formula) (env : Environment) {room : Nat} (h : t.depth < room) :
    (t.tree.value env room).mapError ValueFault.failure? = (t.value env).mapError some := by
  induction t generalizing room with
  | numeral n =>
    obtain ⟨room, rfl⟩ := Formula.exists_room h
    rw [Formula.tree, Formula.value, Numeral.value]
    cases n.number with
    | inl k =>
      dsimp only
      rw [value_natural]
      cases naturalToFloat? k <;> rfl
    | inr d =>
      dsimp only
      rw [Tree.value, spare_succ]
      rfl
  | pi =>
    obtain ⟨room, rfl⟩ := Formula.exists_room h
    rfl
  | parameter w other =>
    obtain ⟨room, rfl⟩ := Formula.exists_room h
    rw [Formula.tree, Formula.value, value_name env (room + 1) other, spare_succ]
    cases env.find? w.name <;> rfl
  | sign negative t ih =>
    obtain ⟨room, rfl⟩ := Formula.exists_room h
    rw [Formula.depth] at h
    rw [Formula.tree, Formula.value, value_sign, mapError_bind, mapError_bind, ih (by omega)]
    rfl
  | binary op l r ihl ihr =>
    obtain ⟨room, rfl⟩ := Formula.exists_room h
    rw [Formula.depth] at h
    rw [Formula.tree, Formula.value, value_binary, mapError_bind, mapError_bind,
      ihl (by omega)]
    refine congrArg _ (funext fun x => ?_)
    rw [mapError_bind, mapError_bind, ihr (by omega)]
    exact congrArg _ (funext fun y => apply_result op x y)
  | call f t ih =>
    obtain ⟨room, rfl⟩ := Formula.exists_room h
    rw [Formula.depth] at h
    obtain ⟨g, hg, hvalue⟩ := function?_word f
    rw [Formula.tree, Formula.value, value_call env (room + 1) hg, mapError_bind, mapError_bind,
      ih (by omega)]
    exact congrArg _ (funext fun x => hvalue x)

end Trees

/-- The text of a formula has the value of the formula, the left operands evaluated first; and the
text is in error exactly where the formula meets an unbound name, a division by zero, an argument
outside the domain, a result out of range or a power that is not real, and for that reason. -/
theorem evaluate_spelled {t : Formula} {s : List Char} (h : t.Spells s) (hdepth : t.depth ≤ 200)
    {room : Nat} (hroom : t.depth < room) (env : Environment) :
    (evaluate env s room).mapError Fault.failure? = (t.value env).mapError some := by
  have hnull : (trim s).contains '\x00' = false := by
    refine Bool.eq_false_iff.mpr fun hcontains => ?_
    have hmem : '\x00' ∈ trim s := by simpa using hcontains
    obtain hspace | ⟨a, -, ha⟩ := (h.trim Lexeme.solid_text).mem hmem
    · cases hspace
    · obtain hwritten | hcaret := a.mem_text ha
      · cases hwritten
      · cases hcaret
  have htree : readTree (textNesting + 1) (withPowerSigns (trim s)) = .ok t.tree := by
    rw [readTree, tokens_of_spells h hdepth]
    refine treeOf_formula _ t ?_
    unfold stepCost stackSize
    omega
  have hshallow : ¬ 3 * (room - 1) ≤ t.tree.depth := by
    have hpos := t.depth_pos
    rw [tree_depth]
    omega
  have hvalue := tree_value t env hroom
  unfold evaluate
  simp only [hnull, htree, if_neg hshallow, Bool.false_eq_true, if_false]
  rw [← hvalue]
  cases t.tree.value env room with
  | ok x => rfl
  | error fault => cases fault <;> rfl

def offsetFormula : Formula :=
  .binary .add (.parameter ⟨['x'], by decide, by decide, by decide⟩ (by decide))
    (.binary .multiply
      (.sign true (.numeral (.pointed ⟨'0', [], rfl, by decide⟩ (some ⟨'5', [], rfl, by decide⟩) none)))
      (.parameter ⟨['y'], by decide, by decide, by decide⟩ (by decide)))

/-- Where only the first of the names has a value, the product has none. -/
theorem evaluate_offset_unbound :
    offsetFormula.Spells ['x', ' ', '+', '-', '0', '.', '5', '*', '\t', 'y'] ∧
      offsetFormula.depth ≤ 200 ∧ offsetFormula.depth < 988 ∧
      (evaluate [("x", 0.5)] ['x', ' ', '+', '-', '0', '.', '5', '*', '\t', 'y'] 988).mapError
        Fault.failure? = .error (some (.unbound "y")) := by
  have hspells : offsetFormula.Spells ['x', ' ', '+', '-', '0', '.', '5', '*', '\t', 'y'] := by
    have hnone : ∀ c ∈ [], isSpace c = true := List.forall_mem_nil _
    refine @Spaced.cons _ _ [] hnone _ _ _ (@Spaced.cons _ _ [' '] (List.all_eq_true.mp rfl) _ _ _ ?_)
    refine @Spaced.cons _ _ [] hnone _ _ _ (@Spaced.cons _ _ [] hnone _ _ _ ?_)
    refine @Spaced.cons _ _ [] hnone _ _ _ ?_
    exact @Spaced.cons _ _ ['\t'] (List.all_eq_true.mp rfl) _ _ _ (.nil hnone)
  have hdepth : offsetFormula.depth ≤ 200 := by decide
  have hroom : offsetFormula.depth < 988 := by decide
  refine ⟨hspells, hdepth, hroom, ?_⟩
  rw [evaluate_spelled hspells hdepth hroom]
  rfl

end CircuitConsole.Expression
