import CircuitConsole.Proofs.Expression.Parentheses
import CircuitConsole.Proofs.Text.Collapsing

/-!
The characters of expressions with a value. Every token of arithmetic is read from characters that
no sign of a statement is among. So an expression in which no comment begins has a value only if its
parentheses are closed, a comma stands only inside of them, and no two slashes stand side by side.
-/

namespace CircuitConsole.Expression

open Text

variable {α β : Type} {c : Char} {s w : List Char}

section Reading

def isBare (c : Char) : Bool := continuesName c || ['.', '+', '-'].contains c

inductive ReadsBare (P : α → Prop) : List Char → Option (α × List Char) → Prop
  | none (s : List Char) : ReadsBare P s none
  | some {w : List Char} (hw : ∀ c ∈ w, isBare c = true) {a : α} (ha : P a) (rest : List Char) :
      ReadsBare P (w ++ rest) (some (a, rest))

namespace ReadsBare

variable {P : α → Prop} {Q : β → Prop} {o : Option (α × List Char)}

theorem start {a : α} (ha : P a) (s : List Char) : ReadsBare P s (Option.some (a, s)) :=
  .some (w := []) (List.forall_mem_nil _) ha s

theorem append (hw : ∀ c ∈ w, isBare c = true) (h : ReadsBare P s o) :
    ReadsBare P (w ++ s) o := by
  cases h with
  | none => exact .none _
  | @some v hv a ha rest =>
    rw [← List.append_assoc]
    exact .some (List.forall_mem_append.mpr ⟨hw, hv⟩) ha rest

theorem cons (hc : isBare c = true) (h : ReadsBare P s o) : ReadsBare P (c :: s) o :=
  append (List.forall_mem_singleton.mpr hc) h

theorem map {f : α → β} (hf : ∀ a, P a → Q (f a)) (h : ReadsBare P s o) :
    ReadsBare Q s (o.map fun (a, rest) => (f a, rest)) := by
  cases h with
  | none => exact .none _
  | some hw ha rest => exact .some hw (hf _ ha) rest

theorem bind {k : α × List Char → Option (β × List Char)} (h : ReadsBare P s o)
    (hk : ∀ a rest, ReadsBare Q rest (k (a, rest))) : ReadsBare Q s (o.bind k) := by
  cases h with
  | none => exact .none _
  | some hw ha rest => exact (hk _ rest).append hw

end ReadsBare

end Reading

section Numerals

def Unsigned (token : Token) : Prop := ∀ x, token ≠ .symbol x

variable {digit : Char → Bool}

theorem isBare_of_continuesName (h : continuesName c = true) : isBare c = true := by
  rw [isBare, h, Bool.true_or]

theorem isBare_of_isAsciiDigit (h : isAsciiDigit c = true) : isBare c = true :=
  isBare_of_continuesName (by simp [continuesName, h])

theorem digitTail_bare (hdigit : ∀ c, digit c = true → isBare c = true) (s : List Char) :
    ReadsBare (fun _ => True) s (digitTail digit s) := by
  fun_induction digitTail digit s with
  | case1 => exact .start trivial []
  | case2 => exact .none _
  | case3 c rest hc ih =>
    have hrest := ih.map (Q := fun _ => True) (f := (c :: ·)) fun _ _ => trivial
    exact (hrest.cons (hdigit c hc)).cons (by decide)
  | case4 => exact .none _
  | case5 c rest _ _ hc ih =>
    have hrest := ih.map (Q := fun _ => True) (f := (c :: ·)) fun _ _ => trivial
    exact hrest.cons (hdigit c hc)
  | case6 => exact .start trivial _

theorem finishNumeral_bare {token : Token} (h : Unsigned token) (s : List Char) :
    ReadsBare Unsigned s (finishNumeral token s) := by
  unfold finishNumeral
  split
  · exact .start h s
  · exact .none s

theorem unsigned_natural (n : Nat) : Unsigned (.natural n) := by
  rintro x ⟨⟩

theorem unsigned_decimal (d : Decimal.Scientific) : Unsigned (.decimal d) := by
  rintro x ⟨⟩

theorem unsigned_imaginary : Unsigned .imaginary := by
  rintro x ⟨⟩

theorem basedDigits?_bare (hdigit : ∀ c, digit c = true → isBare c = true) (base : Nat)
    (s : List Char) : ReadsBare Unsigned s (basedDigits? base digit s) := by
  unfold basedDigits?
  split
  · exact .none s
  · have h := digitTail_bare hdigit s
    generalize digitTail digit s = o at h ⊢
    cases h with
    | none => exact .none s
    | @some _ hw ds _ rest =>
      cases ds with
      | nil => exact .none _
      | cons c ds => exact (finishNumeral_bare (unsigned_natural _) rest).append hw

theorem basedNumeral?_bare (hdigit : ∀ c, digit c = true → isBare c = true) (base : Nat)
    (s : List Char) : ReadsBare Unsigned s (basedNumeral? base digit s) := by
  by_cases h : s.head? = some '_'
  · obtain ⟨s, rfl⟩ := List.head?_eq_some_iff.mp h
    exact (basedDigits?_bare hdigit base s).cons (by decide)
  · rw [basedNumeral?_of_ne h]
    exact basedDigits?_bare hdigit base s

theorem orImaginary_bare {o : Option (Token × List Char)} (allowed : Bool)
    (h : ReadsBare Unsigned s o) : ReadsBare Unsigned s (orImaginary allowed s o) := by
  unfold orImaginary
  split
  · rename_i hmark
    obtain ⟨c, rest, rfl, hc⟩ : ∃ c rest, s = c :: rest ∧ isBare c = true := by
      rcases (by simpa using hmark : s.head? = some 'j' ∨ s.head? = some 'J') with hmark | hmark
      · obtain ⟨rest, rfl⟩ := List.head?_eq_some_iff.mp hmark
        exact ⟨'j', rest, rfl, by decide⟩
      · obtain ⟨rest, rfl⟩ := List.head?_eq_some_iff.mp hmark
        exact ⟨'J', rest, rfl, by decide⟩
    split
    · exact (finishNumeral_bare unsigned_imaginary rest).cons hc
    · exact .none _
  · exact h

theorem plainDecimal_bare (whole places : List Char) (pointed : Bool) (s : List Char) :
    ReadsBare Unsigned s (plainDecimal whole places pointed s) := by
  unfold plainDecimal
  dsimp only
  split
  · exact finishNumeral_bare (unsigned_decimal _) s
  · split
    · exact .none s
    · split
      · exact .none s
      · exact finishNumeral_bare (unsigned_natural _) s

theorem exponent?_bare {token : Nat → Token} (h : ∀ e, Unsigned (token e)) (s : List Char) :
    ReadsBare Unsigned s (exponent? token s) :=
  (digitTail_bare (fun _ => isBare_of_isAsciiDigit) s).bind fun _ rest =>
    orImaginary_bare _ (finishNumeral_bare (h _) rest)

theorem markedDecimal_bare (whole places : List Char) (pointed : Bool) (s : List Char) :
    ReadsBare Unsigned s (markedDecimal whole places pointed s) := by
  have hscaled (negative : Bool) (e : Nat) : Unsigned (scaled whole places negative e) :=
    unsigned_decimal _
  unfold markedDecimal
  split
  · rename_i c d rest
    split
    · rename_i hmark
      have hc : isBare c = true := by
        rcases (by simpa using hmark : c = 'e' ∨ c = 'E') with rfl | rfl <;> decide
      split
      · exact (exponent?_bare (hscaled false) _).cons hc
      · split
        · rename_i hsign
          have hd : isBare d = true := by
            rcases (by simpa using hsign : d = '+' ∨ d = '-') with rfl | rfl <;> decide
          split
          · exact ((exponent?_bare (hscaled _) rest).cons hd).cons hc
          · exact .none _
        · exact plainDecimal_bare whole places pointed _
    · exact plainDecimal_bare whole places pointed _
  · exact plainDecimal_bare whole places pointed s

theorem finishDecimal_bare (whole places : List Char) (pointed : Bool) (s : List Char) :
    ReadsBare Unsigned s (finishDecimal whole places pointed s) := by
  rw [finishDecimal_eq]
  exact orImaginary_bare true (markedDecimal_bare whole places pointed s)

theorem afterWhole_bare (whole rest : List Char) :
    ReadsBare Unsigned rest (afterWhole whole rest) := by
  unfold afterWhole
  split
  · rename_i hpoint
    obtain ⟨rest, rfl⟩ := List.head?_eq_some_iff.mp hpoint
    refine ReadsBare.cons (by decide) ?_
    split
    · exact (digitTail_bare (fun _ => isBare_of_isAsciiDigit) rest).bind fun places rest =>
        finishDecimal_bare whole places true rest
    · exact finishDecimal_bare whole [] true rest
  · exact finishDecimal_bare whole [] false rest

theorem marked_bare {m : Char} (hm : m ∈ baseMarks) (rest : List Char) :
    ReadsBare Unsigned ('0' :: m :: rest) (numeral? ('0' :: m :: rest)) := by
  have hdigits (base : Base) (radix : Nat) :
      ReadsBare Unsigned rest (basedNumeral? radix base.digit rest) :=
    basedNumeral?_bare (fun _ hc => isBare_of_continuesName (base.continuesName_of_digit hc)) radix
      rest
  have hmarks : baseMarks.all isBare = true := rfl
  have hmark : isBare m = true := List.all_eq_true.mp hmarks m hm
  refine ReadsBare.cons (by decide) (ReadsBare.cons hmark ?_)
  simp only [baseMarks, List.mem_cons, List.not_mem_nil, or_false] at hm
  rcases hm with rfl | rfl | rfl | rfl | rfl | rfl
  · exact hdigits .hexadecimal 16
  · exact hdigits .hexadecimal 16
  · exact hdigits .octal 8
  · exact hdigits .octal 8
  · exact hdigits .binary 2
  · exact hdigits .binary 2

theorem numeral?_bare (hc : isAsciiDigit c = true ∨ c = '.') (s : List Char) :
    ReadsBare Unsigned (c :: s) (numeral? (c :: s)) := by
  by_cases hpoint : c = '.'
  · subst hpoint
    refine ReadsBare.cons (by decide) ?_
    exact (digitTail_bare (fun _ => isBare_of_isAsciiDigit) s).bind fun places rest =>
      finishDecimal_bare [] places true rest
  by_cases hmark : ∃ m rest, c :: s = '0' :: m :: rest ∧ m ∈ baseMarks
  · obtain ⟨m, rest, hs, hm⟩ := hmark
    rw [hs]
    exact marked_bare hm rest
  · rw [numeral?_of_unmarked (fun m rest hs hm => hmark ⟨m, rest, hs, hm⟩) (by simpa using hpoint)]
    exact (digitTail_bare (fun _ => isBare_of_isAsciiDigit) (c :: s)).bind afterWhole_bare

end Numerals

section Texts

def isTermCharacter (c : Char) : Bool := isBare c || isBlank c || ['*', '/', '^'].contains c

/-- How many parentheses are open behind a text in front of which so many were open, if all its
characters are those of arithmetic, no comma stands outside of parentheses and no two slashes stand
side by side. -/
def textOpenAfter? : Nat → List Char → Option Nat
  | depth, [] => some depth
  | depth, c :: rest =>
    if c = '(' then textOpenAfter? (depth + 1) rest
    else if c = ')' then
      match depth with
      | 0 => none
      | depth + 1 => textOpenAfter? depth rest
    else if c = ',' then if depth = 0 then none else textOpenAfter? depth rest
    else if isTermCharacter c && !(c = '/' && rest.head? = some '/') then textOpenAfter? depth rest
    else none

variable {depth depth' : Nat} {rest : List Char}

theorem textOpenAfter?_term (hc : isTermCharacter c = true)
    (hslash : c = '/' → rest.head? ≠ some '/') (depth : Nat) :
    textOpenAfter? depth (c :: rest) = textOpenAfter? depth rest := by
  have hne (d : Char) (hd : isTermCharacter d = false) : c ≠ d := by
    rintro rfl
    rw [hd] at hc
    cases hc
  have hplain : (isTermCharacter c && !(c = '/' && rest.head? = some '/')) = true := by
    simpa [hc, or_iff_not_imp_left] using hslash
  rw [textOpenAfter?.eq_def]
  dsimp only
  rw [if_neg (hne '(' (by decide)), if_neg (hne ')' (by decide)), if_neg (hne ',' (by decide)),
    if_pos hplain]

theorem textOpenAfter?_append (hw : ∀ c ∈ w, isTermCharacter c = true ∧ c ≠ '/') (depth : Nat)
    (rest : List Char) : textOpenAfter? depth (w ++ rest) = textOpenAfter? depth rest := by
  induction w with
  | nil => rfl
  | cons c w ih =>
    obtain ⟨⟨hc, hslash⟩, hw⟩ := List.forall_mem_cons.mp hw
    rw [List.cons_append, textOpenAfter?_term hc fun h => absurd h hslash, ih hw]

theorem textOpenAfter?_sign (hw : w.all (fun c => isTermCharacter c && c != '/') = true)
    (depth : Nat) (rest : List Char) :
    textOpenAfter? depth (w ++ rest) = textOpenAfter? depth rest :=
  textOpenAfter?_append (by simpa using hw) depth rest

theorem isTermCharacter_of_isBare (h : isBare c = true) : isTermCharacter c = true ∧ c ≠ '/' := by
  refine ⟨by simp [isTermCharacter, h], ?_⟩
  rintro rfl
  cases h

theorem isTermCharacter_of_isBlank (h : isBlank c = true) : isTermCharacter c = true ∧ c ≠ '/' := by
  refine ⟨by simp [isTermCharacter, h], ?_⟩
  rintro rfl
  cases h

end Texts

section Tokens

variable {token : Token} {rest : List Char} {depth depth' : Nat}

theorem openAfter?_cons (depth : Nat) (token : Token) (tokens : List Token) :
    openAfter? depth (token :: tokens) =
      (openAfter? depth [token]).bind fun depth => openAfter? depth tokens := by
  rw [openAfter?.eq_def, openAfter?.eq_def depth [token]]
  dsimp only
  split
  · rfl
  · split
    · cases depth <;> rfl
    · split
      · split <;> rfl
      · split <;> rfl

def arithmeticSigns : List String := ["(", ")", ",", "+", "-", "*", "/", "**"]

theorem mem_arithmeticSigns {x : String} (h : openAfter? depth [.symbol x] = some depth') :
    x ∈ arithmeticSigns := by
  by_contra hx
  have hne (y : String) (hy : y ∈ arithmeticSigns) : x ≠ y := fun heq => hx (heq ▸ hy)
  have hterm : (Token.symbol x).isTerm = false := by
    simp [Token.isTerm, hne "+" (by decide), hne "-" (by decide), hne "*" (by decide),
      hne "/" (by decide), hne "**" (by decide)]
  simp [openAfter?, hterm, hne "(" (by decide), hne ")" (by decide), hne "," (by decide)] at h

/-- A sign of so many characters stands at the start of the text. -/
theorem symbolOf?_eq_some {n : Nat} {symbols : List String}
    (h : symbolOf? n symbols s = some (token, rest)) :
    ∃ x ∈ symbols, token = .symbol x ∧ s = x.toList ++ rest := by
  unfold symbolOf? at h
  dsimp only at h
  split at h
  · rename_i hlead
    cases h
    refine ⟨_, by simpa using hlead, rfl, ?_⟩
    rw [String.toList_ofList, List.take_append_drop]
  · cases h

/-- Reading a token of arithmetic: the count goes on behind it where the token leaves it. -/
def ReadsToken (s : List Char) (token : Token) (rest : List Char) : Prop :=
  ∀ depth depth', openAfter? depth [token] = some depth' →
    rest <:+ s ∧ textOpenAfter? depth s = textOpenAfter? depth' rest

theorem symbol?_reads (h : symbol? s = some (token, rest)) : ReadsToken s token rest := by
  intro depth depth' hcount
  rw [symbol?_eq, Option.or_eq_some_iff, Option.or_eq_some_iff] at h
  rcases h with h | ⟨-, h | ⟨htwo, h⟩⟩ <;> obtain ⟨x, hx, rfl, rfl⟩ := symbolOf?_eq_some h <;>
    refine ⟨List.suffix_append _ _, ?_⟩ <;> have hmem := mem_arithmeticSigns hcount
  · exact absurd hmem ((by decide : ∀ x ∈ symbols3, x ∉ arithmeticSigns) x hx)
  · obtain rfl : x = "**" :=
      (by decide : ∀ x ∈ symbols2, x ∈ arithmeticSigns → x = "**") x hx hmem
    cases hcount
    exact textOpenAfter?_sign (by decide) _ rest
  · simp only [arithmeticSigns, List.mem_cons, List.not_mem_nil, or_false] at hmem
    rcases hmem with rfl | rfl | rfl | rfl | rfl | rfl | rfl | rfl
    · cases hcount
      rfl
    · cases depth <;> cases hcount
      rfl
    · cases depth <;> cases hcount
      rfl
    · cases hcount
      exact textOpenAfter?_sign (by decide) _ rest
    · cases hcount
      exact textOpenAfter?_sign (by decide) _ rest
    · cases hcount
      exact textOpenAfter?_sign (by decide) _ rest
    · cases hcount
      refine textOpenAfter?_term (by decide) (fun _ hslash => ?_) _
      -- two slashes are a sign of their own
      obtain ⟨rest, rfl⟩ := List.head?_eq_some_iff.mp hslash
      cases htwo
    · exact absurd hx (by decide)

/-- A token that is no sign does not change the count. -/
theorem eq_of_openAfter? (hsign : Unsigned token)
    (h : openAfter? depth [token] = some depth') : token.isTerm = true ∧ depth' = depth := by
  simp only [openAfter?, hsign _, if_false] at h
  split at h
  · rename_i hterm
    exact ⟨hterm, (Option.some.inj h).symm⟩
  · cases h

theorem ReadsBare.readsToken (h : ReadsBare Unsigned s (Option.some (token, rest))) :
    ReadsToken s token rest := by
  intro depth depth' hcount
  generalize ho : Option.some (token, rest) = o at h
  cases h with
  | none => cases ho
  | @some w hw a ha rest =>
    cases ho
    obtain ⟨-, rfl⟩ := eq_of_openAfter? ha hcount
    exact ⟨List.suffix_append _ _,
      textOpenAfter?_append (fun c hc => isTermCharacter_of_isBare (hw c hc)) _ _⟩

theorem literalToken?_eq_some {kind : LiteralKind} {content : List Char}
    (h : literalToken? kind content = some token) : ∃ bytes fields, token = .text bytes fields := by
  unfold literalToken? at h
  split at h
  · cases h
  · split at h
    · cases h
    · split at h
      · obtain ⟨fields, -, rfl⟩ := Option.map_eq_some_iff.mp h
        exact ⟨_, _, rfl⟩
      · cases h
        exact ⟨_, _, rfl⟩

theorem wordToken?_reads (h : wordToken? s = some (token, rest)) : ReadsToken s token rest := by
  have hletters {token : Token} (htoken : Unsigned token) :
      ReadsToken s token (s.dropWhile continuesName) := by
    have hbare : ∀ c ∈ s.takeWhile continuesName, isBare c = true := fun c hc =>
      isBare_of_continuesName (List.mem_takeWhile_imp hc)
    have hread := ReadsBare.some hbare htoken (s.dropWhile continuesName)
    rw [List.takeWhile_append_dropWhile] at hread
    exact hread.readsToken
  unfold wordToken? at h
  dsimp only at h
  split at h
  · obtain ⟨⟨content, behind⟩, -, h⟩ := Option.bind_eq_some_iff.mp h
    obtain ⟨literal, hliteral, h⟩ := Option.bind_eq_some_iff.mp h
    cases h
    obtain ⟨bytes, fields, rfl⟩ := literalToken?_eq_some hliteral
    intro depth depth' hcount
    cases (eq_of_openAfter? (by rintro x ⟨⟩) hcount).1
  · split at h
    · cases h
    · rw [ite_eq_iff, ite_eq_iff] at h
      rcases h with ⟨-, h⟩ | ⟨-, ⟨-, h⟩ | ⟨-, h⟩⟩ <;> cases h
      · exact hletters (by rintro x ⟨⟩)
      · exact hletters (by rintro x ⟨⟩)

theorem token?_reads (h : token? s = some (token, rest)) : ReadsToken s token rest := by
  cases s with
  | nil => cases h
  | cons c s =>
    rw [token?] at h
    split at h
    · rename_i hnumeral
      have hstart : isAsciiDigit c = true ∨ c = '.' := by
        simp only [Bool.or_eq_true, Bool.and_eq_true, decide_eq_true_eq] at hnumeral
        exact hnumeral.imp_right And.left
      have hbare := numeral?_bare hstart s
      rw [h] at hbare
      exact hbare.readsToken
    · split at h
      · exact wordToken?_reads h
      · exact symbol?_reads h

/-- The tokens of a text in which no comment begins are counted as its characters are. -/
theorem textOpenAfter?_of_tokensFrom {steps : Nat} {brackets : List String} (hsharp : '#' ∉ s)
    (hfeed : '\n' ∉ s) (h : openAfter? depth (tokensFrom steps brackets s) = some depth') :
    textOpenAfter? depth s = some depth' := by
  induction steps generalizing s depth brackets with
  | zero => cases h
  | succ steps ih =>
    cases s with
    | nil =>
      rw [tokensFrom.eq_def] at h
      dsimp only at h
      split at h
      · exact h
      · cases h
    | cons c s =>
      obtain ⟨hc, hs⟩ : '#' ≠ c ∧ '#' ∉ s := by simpa using hsharp
      obtain ⟨hc', hs'⟩ : '\n' ≠ c ∧ '\n' ∉ s := by simpa using hfeed
      cases hspace : isSpace c with
      | true =>
        have hblank : ∀ d ∈ [c], isBlank d = true :=
          List.forall_mem_singleton.mpr (isBlank_of_isSpace hspace)
        rw [tokensFrom_space hspace] at h
        rw [← ih hs hs' h]
        exact textOpenAfter?_append (fun d hd => isTermCharacter_of_isBlank (hblank d hd)) depth s
      | false =>
        by_cases hjoin : c = '\\'
        · subst hjoin
          rw [tokensFrom_backslash fun hhead => hs' (List.mem_of_head? hhead)] at h
          cases h
        · rw [tokensFrom_cons hspace ⟨hc.symm, hc'.symm, hjoin⟩] at h
          cases hread : token? (c :: s) with
          | none =>
            rw [hread] at h
            cases h
          | some read =>
            obtain ⟨token, rest⟩ := read
            rw [hread, Option.elim_some] at h
            cases hbrackets : bracketsAfter? brackets token with
            | none =>
              rw [hbrackets] at h
              cases h
            | some brackets =>
              rw [hbrackets, Option.elim_some, openAfter?_cons] at h
              obtain ⟨between, hbetween, h⟩ := Option.bind_eq_some_iff.mp h
              obtain ⟨hsuffix, hcount⟩ := token?_reads hread depth between hbetween
              rw [hcount]
              exact ih (fun hmem => hsharp (hsuffix.subset hmem))
                (fun hmem => hfeed (hsuffix.subset hmem)) h

end Tokens

section Values

variable {depth : Nat} {b : List Char}

theorem textOpenAfter?_blanks (hb : ∀ c ∈ b, isBlank c = true) (depth : Nat) (s : List Char) :
    textOpenAfter? depth (b ++ s) = textOpenAfter? depth s :=
  textOpenAfter?_append (fun c hc => isTermCharacter_of_isBlank (hb c hc)) depth s

/-- The count looks at single characters, but for a slash behind a slash. -/
theorem textOpenAfter?_congr {s t : List Char}
    (hrest : ∀ depth, textOpenAfter? depth s = textOpenAfter? depth t)
    (hhead : s.head? = some '/' ↔ t.head? = some '/') (depth : Nat) (c : Char) :
    textOpenAfter? depth (c :: s) = textOpenAfter? depth (c :: t) := by
  rw [textOpenAfter?.eq_def, textOpenAfter?.eq_def depth (c :: t)]
  simp only [hrest, hhead]

theorem textOpenAfter?_blanks_right (hb : ∀ c ∈ b, isBlank c = true) (depth : Nat) (s : List Char) :
    textOpenAfter? depth (s ++ b) = textOpenAfter? depth s := by
  induction s generalizing depth with
  | nil =>
    have h := textOpenAfter?_blanks hb depth []
    rwa [List.append_nil] at h
  | cons c s ih =>
    refine textOpenAfter?_congr ih ?_ depth c
    cases s with
    | cons d s => exact Iff.rfl
    | nil =>
      refine iff_of_false (fun h => ?_) (by simp)
      exact absurd (hb '/' (List.mem_of_head? h)) (by decide)

theorem textOpenAfter?_trim (depth : Nat) (s : List Char) :
    textOpenAfter? depth (trim s) = textOpenAfter? depth s := by
  obtain ⟨b, b', hb, hb', hs⟩ := exists_blanks_trim s
  conv => rhs; rw [hs]
  rw [textOpenAfter?_blanks hb, textOpenAfter?_blanks_right hb']

/-- A power sign counts as much in either spelling. -/
theorem textOpenAfter?_withPowerSigns (depth : Nat) (s : List Char) :
    textOpenAfter? depth (withPowerSigns s) = textOpenAfter? depth s := by
  induction s generalizing depth with
  | nil => rfl
  | cons c s ih =>
    rw [withPowerSigns_cons]
    split
    · rename_i hcaret
      subst hcaret
      rw [textOpenAfter?_sign (by decide), ih, textOpenAfter?_term (by decide) (by simp)]
    · refine textOpenAfter?_congr ih ?_ depth c
      have hany (o : Option Char) : o = some '/' ↔ o.any (· = '/') = true := by
        cases o <;> simp
      rw [hany, hany, any_head_withPowerSigns (by decide)]

theorem mem_of_mem_withPowerSigns (hc : c ≠ '*') (h : c ∈ withPowerSigns s) : c ∈ s := by
  obtain ⟨d, hd, h⟩ := List.mem_flatMap.mp h
  split at h
  · simp [hc] at h
  · rwa [List.mem_singleton.mp h]

/-- Of a text in one line that begins with no blank nothing is left out before it is cut. -/
theorem tokens_of_line (hsharp : '#' ∉ s) (hfeed : '\n' ∉ s) (hreturn : '\r' ∉ s)
    (hhead : s.head?.any isBlank = false) : tokens s = tokensFrom (s.length + 1) [] s := by
  unfold tokens
  rw [unifyLineEnds_of_not_mem hreturn]
  cases s with
  | nil => rfl
  | cons c s =>
    have hc : c ≠ '#' := fun h => hsharp (h ▸ List.mem_cons_self ..)
    have hs : '\n' ∉ s := fun h => hfeed (List.mem_cons_of_mem c h)
    rw [fromMargin_solid hhead (fun h => absurd h hc) fun _ h => hs (List.mem_of_head? h),
      if_neg hc]

/-- An expression with a value in which no comment begins, written in one line: its characters are
those of arithmetic, its parentheses are closed, and no comma stands outside of them. -/
theorem textOpenAfter?_of_evaluate {env : Environment} {room : Nat} {v : Float}
    (h : evaluate env s room = .ok v) (hsharp : '#' ∉ s) (hfeed : '\n' ∉ s) (hreturn : '\r' ∉ s) :
    textOpenAfter? 0 s = some 0 := by
  unfold evaluate at h
  dsimp only at h
  split at h
  · cases h
  · split at h
    · cases h
    · cases h
    · rename_i t htree
      split at h
      · cases h
      · have ht : t.IsArithmetic := by
          cases hvalue : t.value env room with
          | error fault =>
            rw [hvalue] at h
            cases h
          | ok x => exact Tree.isArithmetic_of_value hvalue
        have hnone {c : Char} (hc : c ≠ '*') (hs : c ∉ s) : c ∉ withPowerSigns (trim s) :=
          fun hmem => hs (mem_of_mem_trim (mem_of_mem_withPowerSigns hc hmem))
        have hhead : (withPowerSigns (trim s)).head?.any isBlank = false := by
          rw [any_head_withPowerSigns (by decide), head_trim]
        have hsharp := hnone (by decide) hsharp
        have hfeed := hnone (by decide) hfeed
        have hreturn := hnone (by decide) hreturn
        rw [textNesting, readTree, tokens_of_line hsharp hfeed hreturn hhead] at htree
        rw [← textOpenAfter?_trim, ← textOpenAfter?_withPowerSigns]
        exact textOpenAfter?_of_tokensFrom hsharp hfeed (openAfter?_of_treeOf _ htree ht)

/-- No expression without anything in it has a value. -/
theorem trim_ne_nil_of_evaluate {env : Environment} {room : Nat} {v : Float}
    (h : evaluate env s room = .ok v) : trim s ≠ [] := by
  intro hnil
  have hnone : readTree (textNesting + 1) (withPowerSigns []) = .error .malformed := by
    decide +kernel
  unfold evaluate at h
  simp only [hnil, hnone] at h
  cases h

end Values

section Counted

variable {depth depth' : Nat} {rest : List Char}

inductive Counted (depth : Nat) (c : Char) (rest : List Char) : Nat → Prop
  | opening (hc : c = '(') : Counted depth c rest (depth + 1)
  | closing {between : Nat} (hc : c = ')') (hdepth : depth = between + 1) :
      Counted depth c rest between
  | comma (hc : c = ',') (hdepth : 0 < depth) : Counted depth c rest depth
  | term (hc : isTermCharacter c = true) (hslash : c = '/' → rest.head? ≠ some '/') :
      Counted depth c rest depth

theorem counted_of_cons (h : textOpenAfter? depth (c :: rest) = some depth') :
    ∃ between, Counted depth c rest between ∧ textOpenAfter? between rest = some depth' := by
  rw [textOpenAfter?.eq_def] at h
  dsimp only at h
  split at h
  · exact ⟨depth + 1, .opening ‹_›, h⟩
  · split at h
    · split at h
      · cases h
      · exact ⟨_, .closing ‹_› rfl, h⟩
    · split at h
      · split at h
        · cases h
        · exact ⟨depth, .comma ‹_› (by omega), h⟩
      · split at h
        · rename_i hterm
          obtain ⟨hc, hslash⟩ := Bool.and_eq_true_iff.mp hterm
          exact ⟨depth, .term hc (by simpa [or_iff_not_imp_left] using hslash), h⟩
        · cases h

theorem mem_counted (h : textOpenAfter? depth s = some depth') :
    ∀ c ∈ s, isTermCharacter c = true ∨ c = '(' ∨ c = ')' ∨ c = ',' := by
  induction s generalizing depth with
  | nil => exact List.forall_mem_nil _
  | cons c s ih =>
    obtain ⟨between, hc, h⟩ := counted_of_cons h
    refine List.forall_mem_cons.mpr ⟨?_, ih h⟩
    cases hc with
    | opening hc => exact .inr (.inl hc)
    | closing hc hdepth => exact .inr (.inr (.inl hc))
    | comma hc hdepth => exact .inr (.inr (.inr hc))
    | term hc hslash => exact .inl hc

/-- No two slashes stand side by side. -/
theorem not_slashes_of_counted (h : textOpenAfter? depth s = some depth') :
    ¬ ['/', '/'] <:+: s := by
  induction s generalizing depth with
  | nil => simp
  | cons c s ih =>
    obtain ⟨between, hc, h⟩ := counted_of_cons h
    intro hslashes
    rcases List.infix_cons_iff.mp hslashes with hfirst | hlater
    · obtain ⟨rfl, hrest⟩ := List.cons_prefix_cons.mp hfirst
      obtain ⟨rest, rfl⟩ := hrest
      cases hc with
      | opening hc => cases hc
      | closing hc hdepth => cases hc
      | comma hc hdepth => cases hc
      | term hc hslash => exact hslash rfl rfl
    · exact ih h hlater

end Counted

end CircuitConsole.Expression
