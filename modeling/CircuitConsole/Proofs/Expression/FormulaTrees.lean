import CircuitConsole.Proofs.Expression.FormulaTokens

/-!
Reading the tokens of a formula. Whatever may follow an operand of some level, the reader goes
through the tokens of the operand and stands behind them with its tree as the left operand. So the
tree of a row of tokens is that of the formula, with every operator where its level puts it.
-/

namespace CircuitConsole.Expression

def Formula.tree : Formula → Tree
  | numeral n =>
    match n.number with
    | .inl k => .natural k
    | .inr d => .decimal d
  | pi => .name "pi"
  | parameter w _ => .name w.name
  | sign negative t => .sign negative t.tree
  | binary op l r => .binary op l.tree r.tree
  | call f t => .call f.word.name t.tree

def tokensOf (row : List Lexeme) : List Token := row.map Lexeme.token

def Operator.token (op : Operator) : Token := .symbol op.mark.symbol

section Following

/-- What may follow an operand of a level: nothing, a closing parenthesis, or an operator whose left
operand it may be. -/
inductive Follows (level : Nat) : List Token → Prop
  | nil : Follows level []
  | closing (rest : List Token) : Follows level (.symbol ")" :: rest)
  | operator {op : Operator} (h : op.leftLevel ≤ level) (rest : List Token) :
      Follows level (op.token :: rest)

variable {level level' : Nat} {rest : List Token}

theorem Follows.mono (h : Follows level rest)
    (hle : ∀ op : Operator, op.leftLevel ≤ level → op.leftLevel ≤ level') : Follows level' rest := by
  cases h with
  | nil => exact .nil
  | closing rest => exact .closing rest
  | operator hop rest => exact .operator (hle _ hop) rest

/-- What follows an operation of a level may follow its right operand, and does not belong to it. -/
theorem Operator.right_follows (op op' : Operator) (h : op'.leftLevel ≤ op.level) :
    op'.leftLevel ≤ op.rightLevel ∧ op'.level < op.rightLevel := by
  revert h
  cases op <;> cases op' <;> decide

theorem Operator.sign_follows (op : Operator) (h : op.leftLevel ≤ signLevel) :
    op.level < signLevel := by
  revert h
  cases op <;> decide

theorem Operator.level_le_leftLevel (op : Operator) : op.level ≤ op.leftLevel := by
  cases op <;> decide

theorem infix?_operator (op : Operator) (rest : List Token) :
    infix? (op.token :: rest) = some ⟨op.level, op.rightLevel, some op, rest⟩ := by
  cases op <;> rfl

end Following

variable (field : List Char → Except Refusal Tree)

section Steps

variable {n room : Nat} {rest : List Token}

theorem operand_succ (n room level : Nat) (tokens : List Token) :
    operand field (n + 1) room level tokens =
      (leading field n room level tokens).bind fun (t, rest) =>
        operators field n room level 0 t rest := by
  rw [operand]
  rfl

theorem leading_sign (n room level : Nat) (negative : Bool) (rest : List Token) :
    leading field (n + 1) room level ((Lexeme.mark (signMark negative)).token :: rest) =
      if level ≤ signLevel then
        (enter 1 room).bind fun room => (operand field n room signLevel rest).bind fun (t, rest) =>
          .ok (.sign negative t, rest)
      else refuse := by
  cases negative <;> (rw [leading.eq_def]; rfl)

theorem operators_operator (n room level chain : Nat) (left : Tree) (op : Operator)
    (rest : List Token) (h : level ≤ op.level) :
    operators field (n + 1) room level chain left (op.token :: rest) =
      (enter (if op = .power then powerCost else 0) room).bind fun rightRoom =>
        (operand field n rightRoom op.rightLevel rest).bind fun (right, rest) =>
          operators field n room level op.level (.binary op left right) rest := by
  rw [operators.eq_def]
  simp only [infix?_operator, if_pos h, Infix.cost, Option.some.injEq, Infix.apply]
  rfl

/-- Operators of a lower level than asked for are left to others. -/
theorem operators_stop {level asked : Nat} (h : Follows level rest)
    (hstop : ∀ op : Operator, op.leftLevel ≤ level → op.level < asked) (chain : Nat) (t : Tree) :
    operators field (n + 1) room asked chain t rest = .ok (t, rest) := by
  rw [operators.eq_def]
  cases h with
  | nil => rfl
  | closing rest => rfl
  | @operator op hop rest =>
    have hlt := hstop op hop
    simp only [infix?_operator]
    rw [if_neg (by omega)]

theorem operators_end (asked chain : Nat) (t : Tree)
    (h : rest = [] ∨ ∃ more, rest = .symbol ")" :: more) :
    operators field (n + 1) room asked chain t rest = .ok (t, rest) := by
  rw [operators.eq_def]
  obtain rfl | ⟨more, rfl⟩ := h <;> rfl

theorem attachments_stop {level : Nat} (h : Follows level rest) (t : Tree) :
    attachments field (n + 1) room t rest = .ok (t, rest) := by
  rw [attachments.eq_def]
  cases h with
  | nil => rfl
  | closing rest => rfl
  | @operator op hop rest => cases op <;> rfl

theorem attachments_call (n room : Nat) (t : Tree) (rest : List Token) :
    attachments field (n + 1) room t (.symbol "(" :: rest) =
      (enter callCost room).bind fun inside =>
        (arguments field n inside true 0 rest).bind fun (args, rest) =>
          attachments field n room (callTree t args) rest := by
  rw [attachments.eq_def]
  rfl

inductive Leaf : Token → Tree → Prop
  | natural (k : Nat) : Leaf (.natural k) (.natural k)
  | decimal (d : Decimal.Scientific) : Leaf (.decimal d) (.decimal d)
  | name (s : String) : Leaf (.name s) (.name s)

theorem leading_leaf {token : Token} {t : Tree} (h : Leaf token t) (n room level : Nat)
    (rest : List Token) :
    leading field (n + 2) room level (token :: rest) = attachments field (n + 1) room t rest := by
  rw [leading.eq_def]
  cases h <;> (simp only [atom]; rfl)

theorem leading_parenthesis (n room level : Nat) (rest : List Token) :
    leading field (n + 2) room level (.symbol "(" :: rest) =
      (enter bracketCost room).bind fun inside =>
        (parenthesised field n inside rest).bind fun (t, rest) =>
          attachments field (n + 1) room t rest := by
  rw [leading.eq_def]
  change ((atom field (n + 1) room (.symbol "(" :: rest)).bind _) = _
  rw [atom.eq_def]
  change (((enter bracketCost room).bind _).bind _) = _
  cases enter bracketCost room <;> rfl

inductive BeginsOperand : Token → Prop
  | natural (k : Nat) : BeginsOperand (.natural k)
  | decimal (d : Decimal.Scientific) : BeginsOperand (.decimal d)
  | name (s : String) : BeginsOperand (.name s)
  | plus : BeginsOperand (.symbol "+")
  | minus : BeginsOperand (.symbol "-")
  | opening : BeginsOperand (.symbol "(")

structure Unnamed (tokens : List Token) : Prop where
  value : ∀ s rest, tokens ≠ .name s :: .symbol ":=" :: rest
  argument : ∀ s rest, tokens ≠ .name s :: .symbol "=" :: rest

variable {first : Token} {tokens : List Token}

theorem named_eq (hunnamed : Unnamed tokens) :
    named field (n + 1) room tokens = operand field n room 0 tokens := by
  rw [named]
  exact fun s rest heq => hunnamed.value s rest heq

theorem element_eq (hfirst : BeginsOperand first) :
    element field (n + 1) room (first :: tokens) =
      (named field n room (first :: tokens)).bind fun (t, rest) => .ok ((false, t), rest) := by
  rw [element.eq_def]
  cases hfirst <;> rfl

theorem parenthesised_eq (hfirst : BeginsOperand first) {t : Tree} {more : List Token}
    (helement : element field n room (first :: tokens) = .ok ((false, t), .symbol ")" :: more)) :
    parenthesised field (n + 1) room (first :: tokens) = .ok (t, more) := by
  rw [parenthesised.eq_def]
  cases hfirst <;> (simp only [helement]; rfl)

theorem arguments_eq (hfirst : BeginsOperand first) (hunnamed : Unnamed (first :: tokens))
    {t : Tree} {more : List Token}
    (hnamed : named field n room (first :: tokens) = .ok (t, .symbol ")" :: more)) :
    arguments field (n + 1) room true 0 (first :: tokens) =
      moreArguments field n room 0 ⟨true, t⟩ (.symbol ")" :: more) := by
  rw [arguments.eq_def]
  cases hfirst with
  | name s =>
    dsimp only
    split
    · rename_i heq
      cases heq
    · rename_i heq
      cases heq
    · rename_i heq
      cases heq
    · rename_i heq
      cases heq
      exact absurd rfl (hunnamed.argument _ _)
    · simp only [hnamed]
      rfl
  | natural | decimal | plus | minus | opening => simp only [hnamed]; rfl

theorem moreArguments_end (argument : Argument) (phase : Nat) (more : List Token) :
    moreArguments field (n + 1) room phase argument (.symbol ")" :: more) =
      .ok ([argument], more) := by
  rw [moreArguments.eq_def]
  rfl

end Steps

section Rows

theorem exists_beginsOperand {row : List Lexeme} (h : Row row) :
    ∃ first more, tokensOf row = first :: more ∧ BeginsOperand first := by
  obtain ⟨-, ⟨a, ha, hbegins⟩, -⟩ := h
  obtain ⟨more, rfl⟩ := List.head?_eq_some_iff.mp ha
  refine ⟨a.token, tokensOf more, rfl, ?_⟩
  cases a with
  | numeral n =>
    obtain ⟨k, hk⟩ | ⟨d, hd⟩ := n.token_cases
    · rw [Lexeme.token, hk]
      exact .natural k
    · rw [Lexeme.token, hd]
      exact .decimal d
  | word w => exact .name w.name
  | mark m =>
    cases m with
    | plus => exact .plus
    | minus => exact .minus
    | opening => exact .opening
    | times | slash | power | closing => cases hbegins

/-- No sign of a formula names anything. -/
theorem Lexeme.token_ne_naming (a : Lexeme) :
    a.token ≠ .symbol ":=" ∧ a.token ≠ .symbol "=" := by
  cases a with
  | numeral n =>
    obtain ⟨k, hk⟩ | ⟨d, hd⟩ := n.token_cases
    · rw [token, hk]
      constructor <;> rintro ⟨⟩
    · rw [token, hd]
      constructor <;> rintro ⟨⟩
  | word w => constructor <;> rintro ⟨⟩
  | mark m => cases m <;> decide

/-- A name between parentheses has no sign behind it that is not of the formula. -/
theorem unnamed_row (row : List Lexeme) (rest : List Token) :
    Unnamed (tokensOf row ++ .symbol ")" :: rest) := by
  have hsecond (s : String) (sign : Token) (more : List Token)
      (h : tokensOf row ++ .symbol ")" :: rest = .name s :: sign :: more) :
      sign = .symbol ")" ∨ ∃ a ∈ row, sign = a.token := by
    cases row with
    | nil => cases h
    | cons a row =>
      have htail := (List.cons.inj h).2
      cases row with
      | nil => exact .inl (List.cons.inj htail).1.symm
      | cons b row =>
        exact .inr ⟨b, List.mem_cons_of_mem a (List.mem_cons_self ..),
          (List.cons.inj htail).1.symm⟩
  constructor
  · intro s more h
    obtain h | ⟨a, -, h⟩ := hsecond s _ more h
    · exact absurd h (by decide)
    · exact a.token_ne_naming.1 h.symm
  · intro s more h
    obtain h | ⟨a, -, h⟩ := hsecond s _ more h
    · exact absurd h (by decide)
    · exact a.token_ne_naming.2 h.symm

end Rows

/-- The reader goes through the tokens of an operand of a level, with so much room, and stands
behind them with its tree. It takes as many steps for that as there are operators on the way down to
the left, and eight for each token are always enough. -/
def Leads (tokens : List Token) (t : Tree) (level cost : Nat) : Prop :=
  ∃ k, 0 < k ∧ k ≤ tokens.length ∧ ∀ {asked room n : Nat} {rest : List Token},
    asked ≤ level → cost ≤ room → Follows level rest → 8 * tokens.length ≤ n + k →
      ∃ chain, operand field (n + k) room asked (tokens ++ rest) =
        operators field n room asked chain t rest

namespace Leads

variable {field} {tokens : List Token} {t : Tree} {level cost : Nat}

theorem mono (h : Leads field tokens t level cost) {cost' : Nat} (hcost : cost ≤ cost') :
    Leads field tokens t level cost' := by
  obtain ⟨k, hpos, hle, hread⟩ := h
  exact ⟨k, hpos, hle, fun hasked hroom => hread hasked (hcost.trans hroom)⟩

/-- An operand is read to its end where nothing behind it belongs to it. -/
theorem read (h : Leads field tokens t level cost) {asked room n : Nat} {rest : List Token}
    (hasked : asked ≤ level) (hroom : cost ≤ room) (hfollows : Follows level rest)
    (hstop : ∀ n chain, operators field (n + 1) room asked chain t rest = .ok (t, rest))
    (hn : 8 * tokens.length ≤ n) :
    operand field n room asked (tokens ++ rest) = .ok (t, rest) := by
  obtain ⟨k, hpos, hle, hread⟩ := h
  obtain ⟨m, rfl⟩ : ∃ m, n = m + 1 + k := ⟨n - k - 1, by omega⟩
  obtain ⟨chain, hchain⟩ := hread hasked hroom hfollows hn
  rw [hchain, hstop]

/-- An operand is read to the end of the tokens, or to a closing parenthesis. -/
theorem read_whole (h : Leads field tokens t level cost) {room n : Nat} {rest : List Token}
    (hroom : cost ≤ room) (hrest : rest = [] ∨ ∃ more, rest = .symbol ")" :: more)
    (hn : 8 * tokens.length ≤ n) :
    operand field n room 0 (tokens ++ rest) = .ok (t, rest) := by
  refine h.read (Nat.zero_le level) hroom ?_ (fun n chain => ?_) hn
  · obtain rfl | ⟨more, rfl⟩ := hrest
    · exact .nil
    · exact .closing more
  · exact operators_end field 0 chain t hrest

theorem leaf {token : Token} (h : Leaf token t) : Leads field [token] t atomLevel 0 := by
  refine ⟨1, Nat.one_pos, le_refl 1, fun {asked room n rest} _ _ hfollows hn => ⟨0, ?_⟩⟩
  rw [List.length_singleton] at hn
  obtain ⟨m, rfl⟩ : ∃ m, n = m + 2 := ⟨n - 2, by omega⟩
  rw [List.singleton_append, operand_succ, leading_leaf field h, attachments_stop field hfollows]
  rfl

theorem enter_of_le {cost room : Nat} (h : cost ≤ room) : enter cost room = .ok (room - cost) :=
  if_pos h

/-- A whole operand between parentheses is read as an element. -/
theorem read_named {row : List Lexeme} (h : Leads field (tokensOf row) t level cost)
    {room n : Nat} (hroom : cost ≤ room) (hn : 8 * (tokensOf row).length ≤ n) (rest : List Token) :
    named field (n + 1) room (tokensOf row ++ .symbol ")" :: rest) =
      .ok (t, .symbol ")" :: rest) := by
  rw [named_eq field (unnamed_row row rest), h.read_whole hroom (.inr ⟨rest, rfl⟩) hn]

theorem parentheses {row : List Lexeme} (hrow : Row row)
    (h : Leads field (tokensOf row) t level cost) :
    Leads field (.symbol "(" :: (tokensOf row ++ [.symbol ")"])) t atomLevel
      (cost + bracketCost) := by
  refine ⟨1, Nat.one_pos, Nat.succ_pos _, fun {asked room n rest} _ hroom hfollows hn => ⟨0, ?_⟩⟩
  rw [List.length_cons, List.length_append, List.length_singleton] at hn
  obtain ⟨m, rfl⟩ : ∃ m, n = m + 5 := ⟨n - 5, by omega⟩
  obtain ⟨first, more, hfirst, hbegins⟩ := exists_beginsOperand hrow
  have hnamed : named field (m + 1) (room - bracketCost) (tokensOf row ++ .symbol ")" :: rest) =
      .ok (t, .symbol ")" :: rest) := h.read_named (by omega) (by omega) rest
  rw [List.cons_append, List.append_assoc, List.singleton_append, operand_succ,
    leading_parenthesis, enter_of_le (show bracketCost ≤ room by omega)]
  rw [hfirst, List.cons_append] at hnamed ⊢
  have helement : element field (m + 2) (room - bracketCost) (first :: (more ++ .symbol ")" :: rest))
      = .ok ((false, t), .symbol ")" :: rest) := by
    rw [element_eq field hbegins, hnamed]
    rfl
  change (((parenthesised field (m + 3) _ _).bind _).bind _) = _
  rw [parenthesised_eq field hbegins helement]
  change ((attachments field (m + 4) room t rest).bind _) = _
  rw [attachments_stop field hfollows]
  rfl

theorem call {row : List Lexeme} (hrow : Row row) (h : Leads field (tokensOf row) t level cost)
    (f : String) :
    Leads field (.name f :: .symbol "(" :: (tokensOf row ++ [.symbol ")"])) (.call f t) atomLevel
      (cost + callCost) := by
  refine ⟨1, Nat.one_pos, Nat.succ_pos _, fun {asked room n rest} _ hroom hfollows hn => ⟨0, ?_⟩⟩
  rw [List.length_cons, List.length_cons, List.length_append, List.length_singleton] at hn
  obtain ⟨m, rfl⟩ : ∃ m, n = m + 5 := ⟨n - 5, by omega⟩
  obtain ⟨first, more, hfirst, hbegins⟩ := exists_beginsOperand hrow
  have hnamed : named field (m + 2) (room - callCost) (tokensOf row ++ .symbol ")" :: rest) =
      .ok (t, .symbol ")" :: rest) := h.read_named (by omega) (by omega) rest
  have hunnamed := unnamed_row row rest
  rw [List.cons_append, List.cons_append, List.append_assoc, List.singleton_append, operand_succ,
    leading_leaf field (.name f), attachments_call, enter_of_le (show callCost ≤ room by omega)]
  rw [hfirst, List.cons_append] at hnamed hunnamed ⊢
  change (((arguments field (m + 2 + 1) _ true 0 _).bind _).bind _) = _
  rw [arguments_eq field hbegins hunnamed hnamed, moreArguments_end]
  change ((attachments field (m + 2 + 1) room (.call f t) rest).bind _) = _
  rw [attachments_stop field hfollows]
  rfl

theorem sign (negative : Bool) (h : Leads field tokens t level cost) (hlevel : signLevel ≤ level) :
    Leads field ((Lexeme.mark (signMark negative)).token :: tokens) (.sign negative t) signLevel
      (cost + 1) := by
  refine ⟨1, Nat.one_pos, Nat.succ_pos _,
    fun {asked room n rest} hasked hroom hfollows hn => ⟨0, ?_⟩⟩
  rw [List.length_cons] at hn
  obtain ⟨m, rfl⟩ : ∃ m, n = m + 1 := ⟨n - 1, by omega⟩
  have hbehind : Follows level rest := hfollows.mono fun op hop => hop.trans hlevel
  have hstop (n chain : Nat) :
      operators field (n + 1) (room - 1) signLevel chain t rest = .ok (t, rest) :=
    operators_stop field hfollows (fun op hop => op.sign_follows hop) chain t
  have hread : operand field m (room - 1) signLevel (tokens ++ rest) = .ok (t, rest) :=
    h.read hlevel (by omega) hbehind hstop (by omega)
  rw [List.cons_append, operand_succ, leading_sign, if_pos hasked,
    enter_of_le (show 1 ≤ room by omega)]
  change ((operand field m (room - 1) signLevel (tokens ++ rest)).bind _).bind _ = _
  rw [hread]
  rfl

def rightCost (op : Operator) : Nat := if op = .power then powerCost else 0

/-- Two operands with an operator between them. Behind the left one the reader stands in front of
the operator, reads the right one to its end, and goes on with the operation as the left operand. -/
theorem binary (op : Operator) {right : List Token} {r : Tree} {level' cost' : Nat}
    (h : Leads field tokens t level cost) (hlevel : op.leftLevel ≤ level)
    (h' : Leads field right r level' cost') (hlevel' : op.rightLevel ≤ level') :
    Leads field (tokens ++ op.token :: right) (.binary op t r) op.level
      (max cost (cost' + rightCost op)) := by
  obtain ⟨k, hpos, hle, hlead⟩ := h
  refine ⟨k + 1, Nat.succ_pos k, ?_, fun {asked room n rest} hasked hroom hfollows hn =>
    ⟨op.level, ?_⟩⟩
  · rw [List.length_append, List.length_cons]
    omega
  rw [List.length_append, List.length_cons] at hn
  have hbehind : Follows level' rest := hfollows.mono fun op' hop =>
    (op.right_follows op' hop).1.trans hlevel'
  have hstop (n chain : Nat) :
      operators field (n + 1) (room - rightCost op) op.rightLevel chain r rest = .ok (r, rest) :=
    operators_stop field hfollows (fun op' hop => (op.right_follows op' hop).2) chain r
  have hread : operand field n (room - rightCost op) op.rightLevel (right ++ rest) = .ok (r, rest) :=
    h'.read hlevel' (by omega) hbehind hstop (by omega)
  obtain ⟨chain, hchain⟩ : ∃ chain,
      operand field (n + 1 + k) room asked (tokens ++ op.token :: (right ++ rest)) =
        operators field (n + 1) room asked chain t (op.token :: (right ++ rest)) :=
    hlead (hasked.trans (op.level_le_leftLevel.trans hlevel)) (by omega)
      (Follows.operator hlevel (right ++ rest)) (by omega)
  have henter : enter (rightCost op) room = .ok (room - rightCost op) := enter_of_le (by omega)
  rw [List.append_assoc, List.cons_append, show n + (k + 1) = n + 1 + k by omega, hchain,
    operators_operator field n room asked chain t op _ hasked]
  change ((enter (rightCost op) room).bind _) = _
  rw [henter]
  change ((operand field n (room - rightCost op) op.rightLevel (right ++ rest)).bind _) = _
  rw [hread]
  rfl

end Leads

/-- What a step down in a formula takes of the stack at most: a power sign and parentheses. -/
def stepCost : Nat := 30

/-- In front of parentheses that are there only if needed, an operand is of the level asked for. -/
theorem leads_enclose {t : Formula} {cost : Nat}
    (h : Leads field (tokensOf t.lexemes) t.tree t.level cost) (asked : Nat)
    (hasked : asked ≤ atomLevel) :
    ∃ level, asked ≤ level ∧
      Leads field (tokensOf (enclose asked t.level t.lexemes)) t.tree level
        (cost + bracketCost) := by
  unfold enclose
  split
  · refine ⟨atomLevel, hasked, ?_⟩
    have hparentheses := h.parentheses t.row
    simpa [tokensOf, Lexeme.token, Mark.symbol] using hparentheses
  · rename_i hlevel
    exact ⟨t.level, Nat.le_of_not_lt hlevel, h.mono (Nat.le_add_right cost bracketCost)⟩

theorem Operator.levels_le (op : Operator) :
    op.leftLevel ≤ atomLevel ∧ op.rightLevel ≤ atomLevel ∧ Leads.rightCost op ≤ 2 := by
  cases op <;> decide

/-- A formula is read as its tree. -/
theorem leads_formula (t : Formula) :
    Leads field (tokensOf t.lexemes) t.tree t.level (stepCost * (t.depth - 1)) := by
  have hstep {depth : Nat} (h : 0 < depth) : stepCost * (depth + 1 - 1) =
      stepCost * (depth - 1) + stepCost := by
    unfold stepCost
    omega
  have hpos (t : Formula) : 0 < t.depth := by cases t <;> simp [Formula.depth]
  induction t with
  | numeral n =>
    have hleaf : Leaf n.token (Formula.numeral n).tree := by
      unfold Numeral.token Formula.tree
      cases n.number with
      | inl k => exact .natural k
      | inr d => exact .decimal d
    exact .leaf hleaf
  | pi => exact .leaf (.name "pi")
  | parameter w other => exact .leaf (.name w.name)
  | sign negative t ih =>
    obtain ⟨level, hlevel, hlead⟩ := leads_enclose field ih signLevel (by decide)
    refine (hlead.sign negative hlevel).mono ?_
    rw [Formula.depth, hstep (hpos t)]
    unfold bracketCost stepCost
    omega
  | binary op l r ihl ihr =>
    obtain ⟨hleft, hright, hcost⟩ := op.levels_le
    obtain ⟨level, hlevel, hlead⟩ := leads_enclose field ihl op.leftLevel hleft
    obtain ⟨level', hlevel', hlead'⟩ := leads_enclose field ihr op.rightLevel hright
    have hboth := hlead.binary op hlevel hlead' hlevel'
    have hdepths := hpos l
    have hdepths' := hpos r
    have htokens : tokensOf (Formula.binary op l r).lexemes =
        tokensOf (enclose op.leftLevel l.level l.lexemes) ++
          op.token :: tokensOf (enclose op.rightLevel r.level r.lexemes) := by
      simp [tokensOf, Formula.lexemes, Operator.token, Lexeme.token]
    rw [htokens]
    refine hboth.mono ?_
    rw [Formula.depth]
    unfold bracketCost stepCost
    omega
  | call f t ih =>
    have hcall := ih.call t.row f.word.name
    have htokens : tokensOf (Formula.call f t).lexemes =
        .name f.word.name :: .symbol "(" :: (tokensOf t.lexemes ++ [.symbol ")"]) := by
      simp [tokensOf, Formula.lexemes, Lexeme.token, Mark.symbol]
    rw [htokens]
    refine hcall.mono ?_
    rw [Formula.depth, hstep (hpos t)]
    unfold callCost stepCost
    omega

/-- The tokens of a formula that fits on the stack make its tree. -/
theorem treeOf_formula (t : Formula) (h : stepCost * (t.depth - 1) ≤ stackSize) :
    treeOf field (tokensOf t.lexemes) = .ok t.tree := by
  have hread : operand field (8 * (tokensOf t.lexemes).length + 7) stackSize 0
      (tokensOf t.lexemes ++ []) = .ok (t.tree, []) :=
    (leads_formula field t).read_whole h (.inl rfl) (by omega)
  rw [List.append_nil] at hread
  rw [treeOf, expressions, hread]
  rfl

end CircuitConsole.Expression
