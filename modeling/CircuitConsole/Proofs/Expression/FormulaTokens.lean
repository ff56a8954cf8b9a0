import CircuitConsole.Proofs.Expression.Lexemes

/-!
The tokens of a formula. Each lexeme is read as one token, whatever follows it in a row, since no
longer sign, number or name is there; the text of a formula is read as the tokens of its lexemes.
-/

namespace CircuitConsole.Expression

open Text

def Mark.symbol : Mark → String
  | plus => "+"
  | minus => "-"
  | times => "*"
  | slash => "/"
  | power => "**"
  | opening => "("
  | closing => ")"

def Lexeme.token : Lexeme → Token
  | numeral n => n.token
  | word w => .name w.name
  | mark m => .symbol m.symbol

section Following

def startsOperand (c : Char) : Bool :=
  isSpace c || isAsciiLetter c || isAsciiDigit c || ['_', '.', '+', '-', '('].contains c

def startsMark (c : Char) : Bool :=
  isSpace c || ['+', '-', '*', '/', '(', ')'].contains c

def Lexeme.Allows (a : Lexeme) (s : List Char) : Prop :=
  s.head?.all (if a.ends then startsMark else startsOperand) = true

theorem startsOperand_of_begins {b : Lexeme} (h : b.begins = true) (s : List Char) :
    (b.lexed ++ s).head?.all startsOperand = true := by
  cases b with
  | numeral n =>
    obtain ⟨c, rest, heq, hc⟩ := n.starts s
    change (n.text ++ s).head?.all startsOperand = true
    rw [heq]
    obtain hdigit | ⟨rfl, -⟩ : isAsciiDigit c = true ∨ c = '.' ∧ _ := by simpa using hc
    · simp [startsOperand, hdigit]
    · rfl
  | word w =>
    obtain ⟨c, cs, heq, -, hall⟩ := w.letters_eq
    change (w.letters ++ s).head?.all startsOperand = true
    have hc := hall c (heq ▸ List.mem_cons_self ..)
    rw [heq]
    obtain hletter | hdigit | rfl := hc
    · simp [startsOperand, hletter]
    · simp [startsOperand, hdigit]
    · rfl
  | mark m =>
    cases m
    case times | slash | power | closing => cases h
    all_goals rfl

theorem startsMark_of_isMark {b : Lexeme} (h : b.isMark = true) (s : List Char) :
    (b.lexed ++ s).head?.all startsMark = true := by
  cases b with
  | numeral n => cases h
  | word w => cases h
  | mark m => cases m <;> rfl

theorem allows_of_adjacent {a b : Lexeme} (h : Adjacent a b) (s : List Char) :
    a.Allows (b.lexed ++ s) := by
  unfold Adjacent at h
  unfold Lexeme.Allows
  cases hends : a.ends with
  | true =>
    rw [hends] at h
    exact startsMark_of_isMark h s
  | false =>
    rw [hends] at h
    exact startsOperand_of_begins h s

theorem allows_space (a : Lexeme) {c : Char} (hc : isSpace c = true) (s : List Char) :
    a.Allows (c :: s) := by
  unfold Lexeme.Allows
  cases a.ends <;> simp [startsMark, startsOperand, hc]

/-- Behind a lexeme of a row stands what it allows: a space, the next lexeme, or nothing. -/
theorem allows_of_spaced {a : Lexeme} {row : List Lexeme} {s : List Char}
    (hchain : (a :: row).IsChain Adjacent) (h : Spaced Lexeme.lexed row s) : a.Allows s := by
  cases h with
  | nil hgap =>
    cases s with
    | nil => exact rfl
    | cons c s => exact allows_space a (hgap c (List.mem_cons_self ..)) s
  | @cons gap hgap b row s hs =>
    cases gap with
    | nil => exact allows_of_adjacent (List.isChain_cons_cons.mp hchain).1 s
    | cons c gap => exact allows_space a (hgap c (List.mem_cons_self ..)) _

end Following

section Symbols

/-- Whether a sign is no start of a text that goes on as told, or ends, behind some characters. -/
def isBarred (next : Char → Bool) : List Char → List Char → Bool
  | [], [] => false
  | [], d :: _ => !next d
  | _ :: _, [] => false
  | c :: w, d :: x => c ≠ d || isBarred next w x

theorem not_prefix_of_isBarred {next : Char → Bool} {w x s : List Char}
    (h : isBarred next w x = true) (hs : s.head?.all next = true) : ¬ x <+: w ++ s := by
  induction w generalizing x with
  | nil =>
    intro hprefix
    cases x with
    | nil => cases h
    | cons d x =>
      obtain ⟨rest, rfl⟩ := hprefix
      have hd : next d = true := hs
      rw [isBarred, hd] at h
      cases h
  | cons c w ih =>
    intro hprefix
    cases x with
    | nil => cases h
    | cons d x =>
      obtain ⟨rfl, hrest⟩ := List.cons_prefix_cons.mp hprefix
      refine ih ?_ hrest
      simpa [isBarred] using h

/-- A sign between operands or before one is read as such, and not as the start of a longer one. -/
theorem symbol?_mark (m : Mark) (hopen : m ≠ .opening ∧ m ≠ .closing) {s : List Char}
    (hs : s.head?.all startsOperand = true) :
    symbol? ((Lexeme.mark m).lexed ++ s) = some (.symbol m.symbol, s) := by
  have hnone (n : Nat) {symbols : List String} {w : List Char}
      (h : ∀ x ∈ symbols, isBarred startsOperand w x.toList = true) :
      symbolOf? n symbols (w ++ s) = none :=
    symbolOf?_eq_none fun x hx => not_prefix_of_isBarred (h x hx) hs
  have hsome (n : Nat) {symbols : List String} {x : String} (hx : x ∈ symbols)
      (hlength : x.toList.length = n) :
      symbolOf? n symbols (x.toList ++ s) = some (.symbol x, s) := symbolOf?_append hx hlength s
  have hsingle {c : Char} {x : String} (h3 : ∀ y ∈ symbols3, isBarred startsOperand [c] y.toList)
      (h2 : ∀ y ∈ symbols2, isBarred startsOperand [c] y.toList) (hx : x ∈ symbols1)
      (heq : x.toList = [c]) : symbol? ([c] ++ s) = some (.symbol x, s) := by
    rw [symbol?_eq, hnone 3 h3, hnone 2 h2, Option.none_or, Option.none_or, ← heq]
    exact hsome 1 hx (by rw [heq]; rfl)
  cases m with
  | plus => exact hsingle (x := "+") (by decide) (by decide) (by decide) rfl
  | minus => exact hsingle (x := "-") (by decide) (by decide) (by decide) rfl
  | times => exact hsingle (x := "*") (by decide) (by decide) (by decide) rfl
  | slash => exact hsingle (x := "/") (by decide) (by decide) (by decide) rfl
  | power =>
    change symbol? (['*', '*'] ++ s) = _
    rw [symbol?_eq, hnone 3 (by decide), Option.none_or]
    rw [show ['*', '*'] ++ s = "**".toList ++ s from rfl, hsome 2 (by decide) rfl]
    rfl
  | opening => exact absurd rfl hopen.1
  | closing => exact absurd rfl hopen.2

end Symbols

section Reading

variable {s : List Char}

theorem endsNumeral_of_startsMark (h : s.head?.all startsMark = true) : EndsNumeral s := by
  cases s with
  | nil => rfl
  | cons c s =>
    have hc : startsMark c = true := h
    simp only [startsMark, isSpace, Bool.or_eq_true, decide_eq_true_eq, List.contains_iff_mem] at hc
    have hnone : ([' ', '\t', '\x0c', '+', '-', '*', '/', '(', ')'].all
        fun d => !(continuesName d || d = '.')) = true := rfl
    have hend (hmem : c ∈ [' ', '\t', '\x0c', '+', '-', '*', '/', '(', ')']) :
        (continuesName c || c = '.') = false := by
      simpa only [Bool.not_eq_true'] using List.all_eq_true.mp hnone c hmem
    refine hend ?_
    rcases hc with ((rfl | rfl) | rfl) | hc
    · decide
    · decide
    · decide
    · exact List.mem_cons_of_mem _ (List.mem_cons_of_mem _ (List.mem_cons_of_mem _ hc))

theorem not_quote_of_startsMark (h : s.head?.all startsMark = true) :
    s.head? ≠ some '\'' ∧ s.head? ≠ some '"' := by
  constructor <;> intro hhead <;> rw [hhead] at h <;> cases h

theorem continuesName_of_letter {c : Char}
    (h : isAsciiLetter c = true ∨ isAsciiDigit c = true ∨ c = '_') : continuesName c = true := by
  obtain h | h | rfl := h
  · simp [continuesName, h]
  · exact continuesName_of_digit h
  · rfl

theorem Word.isName_letters (w : Word) : isName w.letters = true := by
  obtain ⟨c, cs, heq, hstart, hall⟩ := w.letters_eq
  have hascii := w.lt_of_mem
  rw [heq] at hall hascii ⊢
  refine Bool.and_eq_true_iff.mpr ⟨?_, List.all_eq_true.mpr fun d hd => ?_⟩
  · rw [isNameStart, if_pos (hascii c (List.mem_cons_self ..))]
    exact hstart
  · have hd' := hascii d (List.mem_cons_of_mem c hd)
    have hletter := hall d (List.mem_cons_of_mem c hd)
    rw [isNameContinue, if_pos hd', isWord, if_pos hd']
    simpa only [Bool.or_eq_true, beq_iff_eq, or_assoc] using hletter

theorem Word.normalForm_letters (w : Word) : normalForm w.letters = w.letters := by
  rw [normalForm, if_pos w.ascii]

/-- A word is read up to where it ends. -/
theorem wordToken?_letters (w : Word) (h : s.head?.all startsMark = true) :
    wordToken? (w.letters ++ s) = some (.name w.name, s) := by
  obtain ⟨-, -, -, -, hall⟩ := w.letters_eq
  have hletters : ∀ c ∈ w.letters, continuesName c = true := fun c hc =>
    continuesName_of_letter (hall c hc)
  have hstop : s.head?.any continuesName = false :=
    (endsNumeral_of_startsMark h).not_any fun _ hc => hc
  have htake : s.takeWhile continuesName = [] ∧ s.dropWhile continuesName = s := by
    cases s with
    | nil => exact ⟨rfl, rfl⟩
    | cons c s =>
      have hc : ¬ continuesName c = true := by simpa using hstop
      exact ⟨List.takeWhile_cons_of_neg hc, List.dropWhile_cons_of_neg hc⟩
  have hdropped : (w.letters ++ s).dropWhile continuesName = s := by
    rw [List.dropWhile_append_of_pos hletters, htake.2]
  have htaken : (w.letters ++ s).takeWhile continuesName = w.letters := by
    rw [List.takeWhile_append_of_pos hletters, htake.1, List.append_nil]
  have hquote := not_quote_of_startsMark h
  have hfree : reservedWords.contains (String.ofList w.letters) = false := by
    simpa using w.free
  rw [wordToken?_of_unquoted (by rw [hdropped]; exact hquote.1) (by rw [hdropped]; exact hquote.2),
    hdropped, htaken, plainWord?, w.isName_letters, hfree, w.normalForm_letters]
  rfl

theorem token?_numeral {c : Char} {s : List Char}
    (h : (isAsciiDigit c || (c = '.' && s.head?.any isAsciiDigit)) = true) :
    token? (c :: s) = numeral? (c :: s) := if_pos h

theorem token?_word {c : Char} (h : isIdentifierStart c = true) (s : List Char) :
    token? (c :: s) = wordToken? (c :: s) := by
  have hstart : isAsciiLetter c = true ∨ c = '_' := by simpa [isIdentifierStart] using h
  have hletter : continuesName c = true :=
    continuesName_of_letter (hstart.imp_right Or.inr)
  have hnumeral : (isAsciiDigit c || (c = '.' && s.head?.any isAsciiDigit)) = false := by
    have hpoint : c ≠ '.' := by
      rintro rfl
      cases h
    have hdigit : isAsciiDigit c = false := by
      have hle {a b : Char} (h : a ≤ b) : a.toNat ≤ b.toNat := h
      obtain hletter | rfl := hstart
      · by_contra hdigit
        simp only [isAsciiDigit, isAsciiLetter, Bool.not_eq_false, Bool.or_eq_true,
          Bool.and_eq_true, decide_eq_true_eq] at hdigit hletter
        have hnine : c.toNat ≤ 57 := hle hdigit.2
        obtain ⟨hlow, -⟩ | ⟨hlow, -⟩ := hletter
        · have : 97 ≤ c.toNat := hle hlow
          omega
        · have : 65 ≤ c.toNat := hle hlow
          omega
      · rfl
    simp [hdigit, hpoint]
  unfold token?
  simp only [hnumeral, hletter, Bool.true_or, if_true, Bool.false_eq_true, if_false]

theorem token?_mark (m : Mark) (h : (Lexeme.mark m).Allows s) :
    token? ((Lexeme.mark m).lexed ++ s) = some (.symbol m.symbol, s) := by
  have hplain (hopen : m ≠ .opening ∧ m ≠ .closing) (c : Char) (rest : List Char)
      (hlexed : (Lexeme.mark m).lexed = c :: rest)
      (hends : (Lexeme.mark m).ends = false)
      (hc : (isAsciiDigit c || c = '.' || continuesName c || c = '\'' || c = '"') = false) :
      token? ((Lexeme.mark m).lexed ++ s) = some (.symbol m.symbol, s) := by
    simp only [Bool.or_eq_false_iff] at hc
    have hread : token? ((Lexeme.mark m).lexed ++ s) = symbol? ((Lexeme.mark m).lexed ++ s) := by
      rw [hlexed, List.cons_append]
      unfold token?
      simp [hc]
    unfold Lexeme.Allows at h
    rw [hends] at h
    rw [hread, symbol?_mark m hopen h]
  cases m with
  | opening => exact token?_bracket (.inl rfl) s
  | closing => exact token?_bracket (.inr rfl) s
  | plus => exact hplain (by decide) '+' [] rfl rfl rfl
  | minus => exact hplain (by decide) '-' [] rfl rfl rfl
  | times => exact hplain (by decide) '*' [] rfl rfl rfl
  | slash => exact hplain (by decide) '/' [] rfl rfl rfl
  | power => exact hplain (by decide) '*' ['*'] rfl rfl rfl

/-- A lexeme is read as its token. -/
theorem token?_lexeme (a : Lexeme) (h : a.Allows s) :
    token? (a.lexed ++ s) = some (a.token, s) := by
  cases a with
  | numeral n =>
    have hread := n.numeral?_text (endsNumeral_of_startsMark h)
    obtain ⟨c, rest, heq, hc⟩ := n.starts s
    change token? (n.text ++ s) = _
    rw [heq, token?_numeral hc, ← heq, hread]
    rfl
  | word w =>
    have hread := wordToken?_letters w h
    obtain ⟨c, cs, heq, hstart, -⟩ := w.letters_eq
    change token? (w.letters ++ s) = some (.name w.name, s)
    rw [← hread, heq, List.cons_append, token?_word hstart]
  | mark m => exact token?_mark m h

theorem Numeral.token_cases (n : Numeral) : (∃ k, n.token = .natural k) ∨ ∃ d, n.token = .decimal d := by
  unfold token
  cases n.number with
  | inl k => exact .inl ⟨k, rfl⟩
  | inr d => exact .inr ⟨d, rfl⟩

theorem bracketsAfter?_lexeme (a : Lexeme) (depth : Nat) :
    bracketsAfter? (List.replicate depth ")") a.token =
      (a.open? depth).map fun depth => List.replicate depth ")" := by
  cases a with
  | numeral n =>
    obtain ⟨k, hk⟩ | ⟨d, hd⟩ := n.token_cases
    · rw [Lexeme.token, hk]
      rfl
    · rw [Lexeme.token, hd]
      rfl
  | word w => rfl
  | mark m =>
    cases m with
    | opening =>
      simp only [Lexeme.token, Mark.symbol, bracketsAfter?, Lexeme.open?, List.length_replicate]
      split <;> rfl
    | closing => cases depth <;> rfl
    | plus | minus | times | slash | power => rfl

theorem tokensFrom_gap {gap : List Char} (hgap : ∀ c ∈ gap, isSpace c = true) (n : Nat)
    (brackets : List String) :
    tokensFrom (n + gap.length) brackets (gap ++ s) = tokensFrom n brackets s := by
  induction gap with
  | nil => rfl
  | cons c gap ih =>
    obtain ⟨hc, hgap⟩ := List.forall_mem_cons.mp hgap
    rw [List.length_cons, List.cons_append, ← Nat.add_assoc, tokensFrom_space hc, ih hgap]

/-- A row of lexemes is read as the row of their tokens. The induction is on the row as it is
spaced: its spaces are gone over, and behind each lexeme stands what it allows. -/
theorem tokensFrom_spaced {row : List Lexeme} (h : Spaced Lexeme.lexed row s)
    (hchain : row.IsChain Adjacent) {depth : Nat} (hdepth : openBehind? depth row = some 0) {n : Nat}
    (hn : s.length < n) :
    tokensFrom n (List.replicate depth ")") s = row.map Lexeme.token := by
  induction h generalizing depth n with
  | @nil gap hgap =>
    obtain rfl : depth = 0 := Option.some.inj hdepth
    obtain ⟨k, rfl⟩ : ∃ k, n = k + 1 + gap.length := ⟨n - gap.length - 1, by omega⟩
    have hskip := tokensFrom_gap (s := []) hgap (k + 1) []
    rw [List.append_nil] at hskip
    exact hskip
  | @cons gap hgap a row s hs ih =>
    obtain ⟨c, w, hlexed⟩ : ∃ c w, a.lexed = c :: w := by
      refine List.exists_cons_of_ne_nil fun hnil => ?_
      rw [← a.withPowerSigns_text] at hnil
      obtain ⟨d, t, ht⟩ := List.exists_cons_of_ne_nil a.text_ne_nil
      rw [ht, withPowerSigns_cons] at hnil
      split at hnil <;> cases hnil
    rw [List.length_append, List.length_append, hlexed, List.length_cons] at hn
    obtain ⟨k, rfl⟩ : ∃ k, n = k + 1 + gap.length := ⟨n - gap.length - 1, by omega⟩
    have hwritten : isWritten c = true := a.isWritten_lexed c (hlexed ▸ List.mem_cons_self ..)
    have hsign : c ≠ '#' ∧ c ≠ '\n' ∧ c ≠ '\\' := by
      refine ⟨?_, ?_, ?_⟩ <;> rintro rfl <;> cases hwritten
    have hread := token?_lexeme a (allows_of_spaced hchain hs)
    rw [tokensFrom_gap hgap]
    rw [hlexed, List.cons_append] at hread ⊢
    rw [tokensFrom_cons (not_isSpace_of_isWritten hwritten) hsign, hread, Option.elim_some,
      bracketsAfter?_lexeme]
    rw [openBehind?_cons] at hdepth
    obtain ⟨opened, hopened, hbehind⟩ := Option.bind_eq_some_iff.mp hdepth
    rw [hopened, Option.map_some, Option.elim_some, List.map_cons,
      ih hchain.tail hbehind (by omega)]

end Reading

/-- A row of lexemes, with any spaces around them, is cut into their tokens. -/
theorem tokens_of_spaced {row : List Lexeme} {s : List Char} (h : Spaced Lexeme.text row s)
    (hrow : Row row) (hclosed : openBehind? 0 row = some 0) :
    tokens (withPowerSigns (trim s)) = row.map Lexeme.token := by
  have hspaced := (h.trim Lexeme.solid_text).withPowerSigns
  have hreturn : '\r' ∉ withPowerSigns (trim s) := by
    intro hc
    obtain hspace | ⟨a, -, ha⟩ := hspaced.mem hc
    · cases hspace
    · cases a.isWritten_lexed _ ha
  have hsolid := any_head_withPowerSigns (p := isBlank) (by decide) (trim s)
  rw [head_trim] at hsolid
  have hmargin : fromMargin true false (withPowerSigns (trim s)) = some (withPowerSigns (trim s)) := by
    cases hlist : withPowerSigns (trim s) with
    | nil => rfl
    | cons c rest =>
      have hmem : c ∈ withPowerSigns (trim s) := hlist ▸ List.mem_cons_self ..
      rw [hlist] at hsolid
      have hne : c ≠ '#' ∧ c ≠ '\\' := by
        obtain hspace | ⟨a, -, ha⟩ := hspaced.mem hmem
        · constructor <;> rintro rfl <;> cases hspace
        · constructor <;> rintro rfl <;> cases a.isWritten_lexed _ ha
      rw [fromMargin_solid hsolid (fun h => absurd h hne.1) (fun h => absurd h hne.2),
        if_neg hne.1]
  rw [tokens, unifyLineEnds_of_not_mem hreturn, hmargin]
  exact tokensFrom_spaced hspaced hrow.chain hclosed (Nat.lt_succ_self _)

theorem tokens_of_spells {t : Formula} {s : List Char} (h : t.Spells s)
    (hdepth : t.depth ≤ bracketLimit) :
    tokens (withPowerSigns (trim s)) = t.lexemes.map Lexeme.token :=
  tokens_of_spaced h t.row (openBehind?_lexemes t 0 (by omega))

end CircuitConsole.Expression
