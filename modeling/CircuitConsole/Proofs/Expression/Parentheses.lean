import CircuitConsole.Proofs.Expression.FormulaTrees
import CircuitConsole.Proofs.Expression.Room

/-!
The tokens of expressions with a value. Nothing but arithmetic has one, so that its tokens are those
of arithmetic too. Every parenthesis is closed, and a comma stands only where one is open, behind the
argument of a call.
-/

namespace CircuitConsole.Expression

def Tree.IsArithmetic : Tree → Prop
  | .natural _ | .decimal _ | .name _ => True
  | .sign _ t => t.IsArithmetic
  | .binary _ l r => l.IsArithmetic ∧ r.IsArithmetic
  | .call _ t => t.IsArithmetic
  | .other _ _ => False

theorem Tree.isArithmetic_of_value {env : Environment} {room : Nat} {t : Tree} {v : Float}
    (h : t.value env room = .ok v) : t.IsArithmetic := by
  fun_induction Tree.value env room t generalizing v with
  | case1 => cases h
  | case2 | case3 | case4 | case5 | case6 => trivial
  | case7 room negative t ih =>
    obtain ⟨x, hx, -⟩ := bind_eq_ok.mp h
    exact ih hx
  | case8 room op l r ihl ihr =>
    obtain ⟨x, hx, h⟩ := bind_eq_ok.mp h
    obtain ⟨y, hy, -⟩ := bind_eq_ok.mp h
    exact ⟨ihl hx, ihr hy⟩
  | case10 room f t g hg ih =>
    obtain ⟨x, hx, -⟩ := bind_eq_ok.mp h
    exact ih hx
  | case9 | case11 => cases ok_of_spare h

def Token.isTerm : Token → Bool
  | .natural _ | .decimal _ | .name _ => true
  | .word s => s = "True" || s = "False"
  | .symbol s => ["+", "-", "*", "/", "**"].contains s
  | _ => false

/-- How many parentheses are open behind tokens in front of which so many were open, if no other
tokens than those of arithmetic are among them and no comma stands outside of parentheses. -/
def openAfter? : Nat → List Token → Option Nat
  | depth, [] => some depth
  | depth, token :: rest =>
    if token = .symbol "(" then openAfter? (depth + 1) rest
    else if token = .symbol ")" then
      match depth with
      | 0 => none
      | depth + 1 => openAfter? depth rest
    else if token = .symbol "," then if depth = 0 then none else openAfter? depth rest
    else if token.isTerm then openAfter? depth rest
    else none

section Tokens

variable {token : Token} {tokens rest : List Token} {depth : Nat}

theorem openAfter?_term (h : token.isTerm = true) (depth : Nat) (rest : List Token) :
    openAfter? depth (token :: rest) = openAfter? depth rest := by
  have hne (s : String) (hs : (Token.symbol s).isTerm = false) : token ≠ .symbol s := by
    rintro rfl
    rw [hs] at h
    cases h
  rw [openAfter?.eq_def]
  dsimp only
  rw [if_neg (hne "(" rfl), if_neg (hne ")" rfl), if_neg (hne "," rfl), if_pos h]

theorem openAfter?_opening (depth : Nat) (rest : List Token) :
    openAfter? depth (.symbol "(" :: rest) = openAfter? (depth + 1) rest := rfl

theorem openAfter?_closing (depth : Nat) (rest : List Token) :
    openAfter? (depth + 1) (.symbol ")" :: rest) = openAfter? depth rest := rfl

theorem openAfter?_comma (depth : Nat) (rest : List Token) :
    openAfter? (depth + 1) (.symbol "," :: rest) = openAfter? (depth + 1) rest := rfl

theorem symbolAfter?_eq_some {s : String} (h : symbolAfter? s tokens = some rest) :
    tokens = .symbol s :: rest := by
  unfold symbolAfter? at h
  split at h
  · split at h
    · rename_i ht
      cases h
      rw [ht]
    · cases h
  · cases h

theorem expect_eq_ok {s : String} (h : expect s tokens = .ok rest) : tokens = .symbol s :: rest := by
  unfold expect at h
  split at h
  · rename_i hafter
    cases h
    exact symbolAfter?_eq_some hafter
  · cases h

end Tokens

section Signs

variable {tokens : List Token}

/-- Of the signs only plus and minus are arithmetic. -/
theorem sign?_arithmetic {sign : Sign} {t : Tree} (h : sign? tokens = some sign)
    (ht : (sign.apply t).IsArithmetic) :
    t.IsArithmetic ∧ ∀ depth, openAfter? depth tokens = openAfter? depth sign.rest := by
  unfold sign? at h
  split at h <;> cases h
  · exact ⟨ht, fun depth => openAfter?_term rfl depth _⟩
  · exact ⟨ht, fun depth => openAfter?_term rfl depth _⟩
  · cases ht
  · cases ht
  · cases ht

/-- An operation is arithmetic if its operator and its operands are. -/
theorem Infix.isArithmetic_apply {i : Infix} {chain : Nat} {left right : Tree}
    (h : (i.apply chain left right).IsArithmetic) :
    ∃ op, i.operator? = some op ∧ left.IsArithmetic ∧ right.IsArithmetic := by
  unfold Infix.apply at h
  split at h
  · rename_i op hop
    exact ⟨op, hop, h⟩
  · split at h <;> cases h

theorem infix?_arithmetic {i : Infix} {op : Operator} (h : infix? tokens = some i)
    (hop : i.operator? = some op) (depth : Nat) :
    openAfter? depth tokens = openAfter? depth i.rest := by
  unfold infix? at h
  split at h
  case h_7 s rest =>
    split_ifs at h with hplus hminus htimes hover hpower hcompare hor hand hshift hother
    · cases h
      subst hplus
      exact openAfter?_term rfl depth rest
    · cases h
      subst hminus
      exact openAfter?_term rfl depth rest
    · cases h
      subst htimes
      exact openAfter?_term rfl depth rest
    · cases h
      subst hover
      exact openAfter?_term rfl depth rest
    · cases h
      subst hpower
      exact openAfter?_term rfl depth rest
    all_goals (cases h; cases hop)
  all_goals (cases h; try cases hop)

end Signs

/-- A call is arithmetic if it is that of a name with one plain argument that is. -/
theorem isArithmetic_callTree {callee : Tree} {args : List Argument}
    (h : (callTree callee args).IsArithmetic) :
    callee.IsArithmetic ∧ ∃ t, args = [⟨true, t⟩] ∧ t.IsArithmetic := by
  unfold callTree at h
  split at h
  · rename_i t
    exact ⟨trivial, t, rfl, h⟩
  · cases h

section Braces

variable {field : List Char → Except Refusal Tree} {n room : Nat} {tokens rest : List Token}
  {entry t : Tree}

/-- Nothing between braces is arithmetic. -/
theorem not_isArithmetic_moreEntries (h : moreEntries field n room entry tokens = .ok (t, rest)) :
    ¬ t.IsArithmetic := by
  cases n with
  | zero =>
    rw [moreEntries] at h
    cases h
  | succ n =>
    rw [moreEntries.eq_def] at h
    dsimp only at h
    split at h
    · cases h
      exact id
    · obtain ⟨behind, -, h⟩ := bind_eq_ok.mp h
      split at h
      · cases h
        exact id
      · obtain ⟨⟨more, behind⟩, -, h⟩ := bind_eq_ok.mp h
        cases h
        exact id

theorem not_isArithmetic_entries (h : entries field n room tokens = .ok (t, rest)) :
    ¬ t.IsArithmetic := by
  cases n with
  | zero =>
    rw [entries] at h
    cases h
  | succ n =>
    rw [entries.eq_def] at h
    dsimp only at h
    split at h
    · obtain ⟨⟨value, behind⟩, -, h⟩ := bind_eq_ok.mp h
      exact not_isArithmetic_moreEntries h
    · obtain ⟨⟨key, behind⟩, -, h⟩ := bind_eq_ok.mp h
      obtain ⟨behind, -, h⟩ := bind_eq_ok.mp h
      obtain ⟨⟨value, behind⟩, -, h⟩ := bind_eq_ok.mp h
      exact not_isArithmetic_moreEntries h

theorem not_isArithmetic_braced (h : braced field n room tokens = .ok (t, rest)) :
    ¬ t.IsArithmetic := by
  cases n with
  | zero =>
    rw [braced] at h
    cases h
  | succ n =>
    rw [braced.eq_def] at h
    dsimp only at h
    split at h
    · cases h
      exact id
    · exact not_isArithmetic_entries h
    · obtain ⟨⟨⟨starred, first⟩, behind⟩, -, h⟩ := bind_eq_ok.mp h
      dsimp only at h
      split at h
      · obtain ⟨⟨⟨parts, bindable⟩, behind⟩, -, h⟩ := bind_eq_ok.mp h
        cases h
        exact id
      · obtain ⟨⟨value, behind⟩, -, h⟩ := bind_eq_ok.mp h
        dsimp only at h
        split at h
        · obtain ⟨⟨parts, behind⟩, -, h⟩ := bind_eq_ok.mp h
          obtain ⟨behind, -, h⟩ := bind_eq_ok.mp h
          cases h
          exact id
        · exact not_isArithmetic_moreEntries h

end Braces

variable (field : List Char → Except Refusal Tree)

/-- What the readers do to the count of parentheses in so many steps, as long as what they make of
the tokens is arithmetic. -/
structure Counts (n : Nat) : Prop where
  operand : ∀ {room level tokens t rest}, operand field n room level tokens = .ok (t, rest) →
    t.IsArithmetic → ∀ depth, openAfter? depth tokens = openAfter? depth rest
  leading : ∀ {room level tokens t rest}, leading field n room level tokens = .ok (t, rest) →
    t.IsArithmetic → ∀ depth, openAfter? depth tokens = openAfter? depth rest
  operators : ∀ {room level chain left tokens t rest},
    operators field n room level chain left tokens = .ok (t, rest) → t.IsArithmetic →
      left.IsArithmetic ∧ ∀ depth, openAfter? depth tokens = openAfter? depth rest
  attachments : ∀ {room left tokens t rest}, attachments field n room left tokens = .ok (t, rest) →
    t.IsArithmetic → left.IsArithmetic ∧
      ∀ depth, openAfter? depth tokens = openAfter? depth rest
  atom : ∀ {room tokens t rest}, atom field n room tokens = .ok (t, rest) →
    t.IsArithmetic → ∀ depth, openAfter? depth tokens = openAfter? depth rest
  named : ∀ {room tokens t rest}, named field n room tokens = .ok (t, rest) →
    t.IsArithmetic → ∀ depth, openAfter? depth tokens = openAfter? depth rest
  element : ∀ {room tokens starred t rest},
    element field n room tokens = .ok ((starred, t), rest) →
      t.IsArithmetic → ∀ depth, openAfter? depth tokens = openAfter? depth rest
  parenthesised : ∀ {room tokens t rest}, parenthesised field n room tokens = .ok (t, rest) →
    t.IsArithmetic → ∀ depth, openAfter? (depth + 1) tokens = openAfter? depth rest
  noArguments : ∀ {room first phase tokens rest},
    arguments field n room first phase tokens = .ok ([], rest) → tokens = .symbol ")" :: rest
  arguments : ∀ {room first phase tokens t rest},
    arguments field n room first phase tokens = .ok ([⟨true, t⟩], rest) →
      t.IsArithmetic → ∀ depth, openAfter? (depth + 1) tokens = openAfter? depth rest
  moreArguments : ∀ {room phase argument tokens args rest},
    moreArguments field n room phase argument tokens = .ok (args, rest) →
      ∃ more, args = argument :: more ∧
        (more = [] → ∀ depth, openAfter? (depth + 1) tokens = openAfter? depth rest)

namespace Counts

variable {field} {n room level chain phase : Nat} {tokens rest : List Token} {left t : Tree}

theorem operand_succ (hn : Counts field n)
    (h : Expression.operand field (n + 1) room level tokens = .ok (t, rest)) (ht : t.IsArithmetic)
    (depth : Nat) : openAfter? depth tokens = openAfter? depth rest := by
  rw [Expression.operand_succ] at h
  obtain ⟨⟨left, behind⟩, hleft, h⟩ := bind_eq_ok.mp h
  obtain ⟨hleftArithmetic, hbehind⟩ := hn.operators h ht
  rw [hn.leading hleft hleftArithmetic, hbehind]

theorem leading_succ (hn : Counts field n)
    (h : Expression.leading field (n + 1) room level tokens = .ok (t, rest))
    (ht : t.IsArithmetic) (depth : Nat) : openAfter? depth tokens = openAfter? depth rest := by
  rw [leading.eq_def] at h
  dsimp only at h
  split at h
  · rename_i sign hsign
    split at h
    · obtain ⟨inside, -, h⟩ := bind_eq_ok.mp h
      obtain ⟨⟨operand, behind⟩, hoperand, h⟩ := bind_eq_ok.mp h
      cases h
      obtain ⟨hinner, hrest⟩ := sign?_arithmetic hsign ht
      rw [hrest, hn.operand hoperand hinner]
    · cases h
  · split at h
    · obtain ⟨inside, -, h⟩ := bind_eq_ok.mp h
      obtain ⟨⟨defaults, behind⟩, -, h⟩ := bind_eq_ok.mp h
      obtain ⟨⟨body, behind⟩, -, h⟩ := bind_eq_ok.mp h
      cases h
      cases ht
    · cases h
  · obtain ⟨⟨first, behind⟩, hfirst, h⟩ := bind_eq_ok.mp h
    obtain ⟨hfirstArithmetic, hbehind⟩ := hn.attachments h ht
    rw [hn.atom hfirst hfirstArithmetic, hbehind]

theorem operators_succ (hn : Counts field n)
    (h : Expression.operators field (n + 1) room level chain left tokens = .ok (t, rest))
    (ht : t.IsArithmetic) :
    left.IsArithmetic ∧ ∀ depth, openAfter? depth tokens = openAfter? depth rest := by
  rw [operators.eq_def] at h
  dsimp only at h
  split at h
  · rename_i i hinfix
    split at h
    · obtain ⟨rightRoom, -, h⟩ := bind_eq_ok.mp h
      obtain ⟨⟨right, behind⟩, hright, h⟩ := bind_eq_ok.mp h
      obtain ⟨happly, hbehind⟩ := hn.operators h ht
      obtain ⟨op, hop, hleft, hrightArithmetic⟩ := Infix.isArithmetic_apply happly
      refine ⟨hleft, fun depth => ?_⟩
      rw [infix?_arithmetic hinfix hop, hn.operand hright hrightArithmetic, hbehind]
    · cases h
      exact ⟨ht, fun depth => rfl⟩
  · split at h
    · obtain ⟨⟨condition, behind⟩, -, h⟩ := bind_eq_ok.mp h
      obtain ⟨behind, -, h⟩ := bind_eq_ok.mp h
      obtain ⟨inside, -, h⟩ := bind_eq_ok.mp h
      obtain ⟨⟨otherwise, behind⟩, -, h⟩ := bind_eq_ok.mp h
      cases h
      cases ht
    · cases h
      exact ⟨ht, fun depth => rfl⟩
  · cases h
    exact ⟨ht, fun depth => rfl⟩

theorem attachments_succ (hn : Counts field n)
    (h : Expression.attachments field (n + 1) room left tokens = .ok (t, rest))
    (ht : t.IsArithmetic) :
    left.IsArithmetic ∧ ∀ depth, openAfter? depth tokens = openAfter? depth rest := by
  rw [attachments.eq_def] at h
  dsimp only at h
  split at h
  · cases (hn.attachments h ht).1
  · obtain ⟨inside, -, h⟩ := bind_eq_ok.mp h
    obtain ⟨⟨args, behind⟩, hargs, h⟩ := bind_eq_ok.mp h
    obtain ⟨hcall, hbehind⟩ := hn.attachments h ht
    obtain ⟨hleft, argument, rfl, hargument⟩ := isArithmetic_callTree hcall
    refine ⟨hleft, fun depth => ?_⟩
    rw [openAfter?_opening, hn.arguments hargs hargument, hbehind]
  · obtain ⟨inside, -, h⟩ := bind_eq_ok.mp h
    obtain ⟨⟨parts, behind⟩, -, h⟩ := bind_eq_ok.mp h
    cases (hn.attachments h ht).1
  · cases h
  · cases h
    exact ⟨ht, fun depth => rfl⟩

theorem atom_succ (hn : Counts field n)
    (h : Expression.atom field (n + 1) room tokens = .ok (t, rest)) (ht : t.IsArithmetic)
    (depth : Nat) : openAfter? depth tokens = openAfter? depth rest := by
  rw [atom.eq_def] at h
  dsimp only at h
  split at h
  · cases h
    exact openAfter?_term rfl depth rest
  · cases h
    exact openAfter?_term rfl depth rest
  · cases h
    cases ht
  · cases h
    exact openAfter?_term rfl depth rest
  · cases h
    exact openAfter?_term rfl depth rest
  · cases h
    exact openAfter?_term rfl depth rest
  · cases h
    cases ht
  · cases h
    cases ht
  · obtain ⟨⟨more, behind⟩, -, h⟩ := bind_eq_ok.mp h
    obtain ⟨parts, -, h⟩ := bind_eq_ok.mp h
    cases h
    cases ht
  · obtain ⟨inside, -, h⟩ := bind_eq_ok.mp h
    exact hn.parenthesised h ht depth
  · obtain ⟨inside, -, h⟩ := bind_eq_ok.mp h
    obtain ⟨⟨⟨parts, bindable⟩, behind⟩, -, h⟩ := bind_eq_ok.mp h
    cases h
    cases bindable <;> cases ht
  · obtain ⟨inside, -, h⟩ := bind_eq_ok.mp h
    exact absurd ht (not_isArithmetic_braced h)
  · cases h

theorem named_succ (hn : Counts field n)
    (h : Expression.named field (n + 1) room tokens = .ok (t, rest)) (ht : t.IsArithmetic)
    (depth : Nat) : openAfter? depth tokens = openAfter? depth rest := by
  rw [named.eq_def] at h
  split at h
  · cases h
  · obtain ⟨⟨value, behind⟩, -, h⟩ := bind_eq_ok.mp h
    cases h
    cases ht
  · rename_i heq _
    cases heq
    exact hn.operand h ht depth

theorem element_succ (hn : Counts field n) {starred : Bool}
    (h : Expression.element field (n + 1) room tokens = .ok ((starred, t), rest))
    (ht : t.IsArithmetic) (depth : Nat) : openAfter? depth tokens = openAfter? depth rest := by
  rw [element.eq_def] at h
  split at h
  · cases h
  · obtain ⟨⟨value, behind⟩, -, h⟩ := bind_eq_ok.mp h
    cases h
    split at ht <;> cases ht
  · rename_i heq _
    cases heq
    obtain ⟨⟨value, behind⟩, hvalue, h⟩ := bind_eq_ok.mp h
    cases h
    exact hn.named hvalue ht depth

theorem parenthesised_succ (hn : Counts field n)
    (h : Expression.parenthesised field (n + 1) room tokens = .ok (t, rest))
    (ht : t.IsArithmetic) (depth : Nat) :
    openAfter? (depth + 1) tokens = openAfter? depth rest := by
  rw [parenthesised.eq_def] at h
  dsimp only at h
  split at h
  · cases h
    cases ht
  · obtain ⟨⟨value, behind⟩, -, h⟩ := bind_eq_ok.mp h
    obtain ⟨behind, -, h⟩ := bind_eq_ok.mp h
    cases h
    cases ht
  · split at h
    · cases h
      cases ht
    · obtain ⟨⟨parts, behind⟩, -, h⟩ := bind_eq_ok.mp h
      cases h
      cases ht
  · obtain ⟨⟨⟨starred, value⟩, behind⟩, hvalue, h⟩ := bind_eq_ok.mp h
    dsimp only at h
    split at h
    · rename_i hclose
      split at h
      · cases h
      · cases h
        rw [hn.element hvalue ht, symbolAfter?_eq_some hclose, openAfter?_closing]
    · split at h
      · split at h
        · cases h
        · obtain ⟨⟨parts, behind⟩, -, h⟩ := bind_eq_ok.mp h
          obtain ⟨behind, -, h⟩ := bind_eq_ok.mp h
          cases h
          cases ht
      · obtain ⟨behind, -, h⟩ := bind_eq_ok.mp h
        obtain ⟨⟨more, behind⟩, -, h⟩ := bind_eq_ok.mp h
        cases h
        split at ht <;> cases ht

theorem noArguments_succ (hn : Counts field n) {first : Bool}
    (h : Expression.arguments field (n + 1) room first phase tokens = .ok ([], rest)) :
    tokens = .symbol ")" :: rest := by
  have hsome {phase : Nat} {argument : Argument} {tokens : List Token}
      (h : Expression.moreArguments field n room phase argument tokens = .ok ([], rest)) : False := by
    obtain ⟨more, hmore, -⟩ := hn.moreArguments h
    cases hmore
  rw [arguments.eq_def] at h
  dsimp only at h
  split at h
  · cases h
    rfl
  · obtain ⟨⟨value, behind⟩, -, h⟩ := bind_eq_ok.mp h
    exact (hsome h).elim
  · split at h
    · obtain ⟨⟨value, behind⟩, -, h⟩ := bind_eq_ok.mp h
      exact (hsome h).elim
    · cases h
  · obtain ⟨⟨value, behind⟩, -, h⟩ := bind_eq_ok.mp h
    exact (hsome h).elim
  · split at h
    · cases h
    · obtain ⟨⟨value, behind⟩, -, h⟩ := bind_eq_ok.mp h
      dsimp only at h
      split at h
      · split at h
        · obtain ⟨⟨parts, behind⟩, -, h⟩ := bind_eq_ok.mp h
          obtain ⟨behind, -, h⟩ := bind_eq_ok.mp h
          cases h
        · cases h
      · exact (hsome h).elim

theorem arguments_succ (hn : Counts field n) {first : Bool}
    (h : Expression.arguments field (n + 1) room first phase tokens = .ok ([⟨true, t⟩], rest))
    (ht : t.IsArithmetic) (depth : Nat) :
    openAfter? (depth + 1) tokens = openAfter? depth rest := by
  have hplain {phase : Nat} {value : Tree} {tokens : List Token}
      (h : Expression.moreArguments field n room phase ⟨false, value⟩ tokens =
        .ok ([⟨true, t⟩], rest)) : False := by
    obtain ⟨more, hmore, -⟩ := hn.moreArguments h
    cases hmore
  rw [arguments.eq_def] at h
  dsimp only at h
  split at h
  · cases h
  · obtain ⟨⟨value, behind⟩, -, h⟩ := bind_eq_ok.mp h
    exact (hplain h).elim
  · split at h
    · obtain ⟨⟨value, behind⟩, -, h⟩ := bind_eq_ok.mp h
      exact (hplain h).elim
    · cases h
  · obtain ⟨⟨value, behind⟩, -, h⟩ := bind_eq_ok.mp h
    exact (hplain h).elim
  · split at h
    · cases h
    · obtain ⟨⟨value, behind⟩, hvalue, h⟩ := bind_eq_ok.mp h
      dsimp only at h
      split at h
      · split at h
        · obtain ⟨⟨parts, behind⟩, -, h⟩ := bind_eq_ok.mp h
          obtain ⟨behind, -, h⟩ := bind_eq_ok.mp h
          cases h
          cases ht
        · cases h
      · obtain ⟨more, hmore, hbehind⟩ := hn.moreArguments h
        cases hmore
        rw [hn.named hvalue ht, hbehind rfl]

theorem moreArguments_succ (hn : Counts field n) {argument : Argument} {args : List Argument}
    (h : Expression.moreArguments field (n + 1) room phase argument tokens = .ok (args, rest)) :
    ∃ more, args = argument :: more ∧
      (more = [] → ∀ depth, openAfter? (depth + 1) tokens = openAfter? depth rest) := by
  rw [moreArguments.eq_def] at h
  dsimp only at h
  split at h
  · rename_i hclose
    cases h
    refine ⟨[], rfl, fun _ depth => ?_⟩
    rw [symbolAfter?_eq_some hclose, openAfter?_closing]
  · obtain ⟨behind, hcomma, h⟩ := bind_eq_ok.mp h
    obtain ⟨⟨more, last⟩, hmore, h⟩ := bind_eq_ok.mp h
    cases h
    refine ⟨more, rfl, ?_⟩
    rintro rfl depth
    -- a comma behind the only argument
    rw [expect_eq_ok hcomma, openAfter?_comma, hn.noArguments hmore, openAfter?_closing]

/-- Without a step nothing is read. -/
theorem zero : Counts field 0 where
  operand h := by
    rw [Expression.operand] at h
    cases h
  leading h := by
    rw [Expression.leading] at h
    cases h
  operators h := by
    rw [Expression.operators] at h
    cases h
  attachments h := by
    rw [Expression.attachments] at h
    cases h
  atom h := by
    rw [Expression.atom] at h
    cases h
  named h := by
    rw [Expression.named] at h
    cases h
  element h := by
    rw [Expression.element] at h
    cases h
  parenthesised h := by
    rw [Expression.parenthesised] at h
    cases h
  noArguments h := by
    rw [Expression.arguments] at h
    cases h
  arguments h := by
    rw [Expression.arguments] at h
    cases h
  moreArguments h := by
    rw [Expression.moreArguments] at h
    cases h

end Counts

/-- The readers keep the count in any number of steps. -/
theorem counts (n : Nat) : Counts field n := by
  induction n with
  | zero => exact .zero
  | succ n ih =>
    exact ⟨ih.operand_succ, ih.leading_succ, ih.operators_succ, ih.attachments_succ, ih.atom_succ,
      ih.named_succ, ih.element_succ, ih.parenthesised_succ, ih.noArguments_succ, ih.arguments_succ,
      ih.moreArguments_succ⟩

theorem expressions_ne_nil {n : Nat} {tokens : List Token} {trees : List Tree}
    (h : expressions field n tokens = .ok trees) : trees ≠ [] := by
  cases n with
  | zero => cases h
  | succ n =>
    rw [expressions] at h
    obtain ⟨⟨t, rest⟩, -, h⟩ := bind_eq_ok.mp h
    dsimp only at h
    split at h
    · cases h
      exact List.cons_ne_nil _ _
    · obtain ⟨behind, -, h⟩ := bind_eq_ok.mp h
      split at h
      · cases h
        exact List.cons_ne_nil _ _
      · obtain ⟨more, -, h⟩ := bind_eq_ok.mp h
        cases h
        exact List.cons_ne_nil _ _

/-- The tokens of an expression that is arithmetic are those of arithmetic, with every parenthesis
closed and no comma outside of parentheses. -/
theorem openAfter?_of_treeOf {tokens : List Token} {t : Tree} (h : treeOf field tokens = .ok t)
    (ht : t.IsArithmetic) : openAfter? 0 tokens = some 0 := by
  rw [treeOf] at h
  obtain ⟨trees, htrees, h⟩ := bind_eq_ok.mp h
  split at h
  · cases h
    rw [expressions] at htrees
    obtain ⟨⟨first, rest⟩, hfirst, htrees⟩ := bind_eq_ok.mp htrees
    dsimp only at htrees
    split at htrees
    · cases htrees
      exact (counts field _).operand hfirst ht 0
    · obtain ⟨behind, -, htrees⟩ := bind_eq_ok.mp htrees
      split at htrees
      · cases htrees
        cases ht
      · obtain ⟨more, hmore, htrees⟩ := bind_eq_ok.mp htrees
        cases htrees
        exact absurd rfl (expressions_ne_nil field hmore)
  · cases h
    cases ht

end CircuitConsole.Expression
