import CircuitConsole.Proofs.Expression.Formulas
import CircuitConsole.Proofs.Expression.Layout
import CircuitConsole.Proofs.Text.Trimming
import CircuitConsole.Proofs.Text.Words
import Mathlib.Data.List.Chain

/-!
Reading the lexemes of a formula. In a row of lexemes an operand is followed by a sign, and a sign
by an operand, so that no two lexemes run together where no space is between them. The text of a
formula that is not nested too deep is cut into the tokens of its lexemes.
-/

namespace CircuitConsole.Expression

open Text

section Characters

def isWritten (c : Char) : Bool :=
  isAsciiLetter c || isAsciiDigit c || ['_', '.', '+', '-', '*', '/', '(', ')'].contains c

theorem isWritten_range {c : Char} (h : isWritten c = true) : 33 ≤ c.toNat ∧ c.toNat < 128 := by
  have hle {a b : Char} (h : a ≤ b) : a.toNat ≤ b.toNat := h
  simp only [isWritten, isAsciiLetter, isAsciiDigit, Bool.or_eq_true, Bool.and_eq_true,
    decide_eq_true_eq, List.contains_iff_mem] at h
  rcases h with ((⟨hlow, hhigh⟩ | ⟨hlow, hhigh⟩) | ⟨hlow, hhigh⟩) | h
  · exact ⟨le_trans (by decide) (hle hlow), lt_of_le_of_lt (hle hhigh) (by decide)⟩
  · exact ⟨le_trans (by decide) (hle hlow), lt_of_le_of_lt (hle hhigh) (by decide)⟩
  · exact ⟨le_trans (by decide) (hle hlow), lt_of_le_of_lt (hle hhigh) (by decide)⟩
  · have hsigns : (['_', '.', '+', '-', '*', '/', '(', ')'].all
        fun d => 33 ≤ d.toNat && d.toNat < 128) = true := rfl
    simpa using List.all_eq_true.mp hsigns c h

theorem not_isBlank_of_isWritten {c : Char} (h : isWritten c = true) : isBlank c = false := by
  obtain ⟨hlow, hhigh⟩ := isWritten_range h
  simp only [isBlank, Bool.or_eq_false_iff, Bool.and_eq_false_iff, decide_eq_false_iff_not,
    beq_eq_false_iff_ne]
  omega

theorem isBlank_of_isSpace {c : Char} (h : isSpace c = true) : isBlank c = true := by
  simp only [isSpace, Bool.or_eq_true, decide_eq_true_eq] at h
  rcases h with (rfl | rfl) | rfl <;> rfl

theorem not_isSpace_of_isWritten {c : Char} (h : isWritten c = true) : isSpace c = false := by
  by_contra hspace
  have hblank := isBlank_of_isSpace (by simpa using hspace)
  rw [not_isBlank_of_isWritten h] at hblank
  cases hblank

theorem isWritten_of_digit {c : Char} (h : isAsciiDigit c = true) : isWritten c = true := by
  simp [isWritten, h]

theorem Base.isWritten_of_digit (base : Base) {c : Char} (h : base.digit c = true) :
    isWritten c = true := by
  rcases base.letter_or_digit h with h | h
  · simp [isWritten, h]
  · exact Expression.isWritten_of_digit h

end Characters

section Texts

def Lexeme.lexed : Lexeme → List Char
  | mark .power => ['*', '*']
  | a => a.text

theorem isWritten_spelled {digit : Char → Bool} (hdigit : ∀ c, digit c = true → isWritten c = true)
    {more : List (Bool × Char)} (hmore : ∀ d ∈ more, digit d.2 = true) :
    ∀ c ∈ DigitRow.spelled more, isWritten c = true := by
  intro c hc
  obtain ⟨⟨underscore, d⟩, hd, hc⟩ := List.mem_flatMap.mp hc
  have hwritten := hdigit d (hmore _ hd)
  cases underscore with
  | true =>
    obtain rfl | rfl : c = '_' ∨ c = d := by simpa using hc
    · rfl
    · exact hwritten
  | false =>
    obtain rfl : c = d := by simpa using hc
    exact hwritten

theorem DigitRow.isWritten_text {digit : Char → Bool} (row : DigitRow digit)
    (hdigit : ∀ c, digit c = true → isWritten c = true) : ∀ c ∈ row.text, isWritten c = true := by
  refine List.forall_mem_cons.mpr ⟨hdigit _ row.first_digit, ?_⟩
  exact isWritten_spelled hdigit row.more_digit

theorem Exponent.isWritten_text (e : Exponent) : ∀ c ∈ e.text, isWritten c = true := by
  obtain ⟨capital, sign, row⟩ := e
  refine List.forall_mem_cons.mpr ⟨by cases capital <;> rfl, List.forall_mem_append.mpr ⟨?_, ?_⟩⟩
  · cases sign with
    | none => exact List.forall_mem_nil _
    | some negative =>
      exact List.forall_mem_singleton.mpr (by cases negative <;> rfl)
  · exact row.isWritten_text fun _ => isWritten_of_digit

theorem isWritten_exponentText (e : Option Exponent) :
    ∀ c ∈ exponentText e, isWritten c = true := by
  cases e with
  | none => exact List.forall_mem_nil _
  | some e => exact e.isWritten_text

theorem Numeral.isWritten_text (n : Numeral) : ∀ c ∈ n.text, isWritten c = true := by
  have hrow (row : DigitRow isAsciiDigit) : ∀ c ∈ row.text, isWritten c = true :=
    row.isWritten_text fun _ => isWritten_of_digit
  cases n with
  | whole row nonzero length => exact hrow row
  | based base capital underscore row =>
    refine List.forall_mem_cons.mpr ⟨rfl, List.forall_mem_cons.mpr ⟨?_, ?_⟩⟩
    · cases base <;> cases capital <;> rfl
    · refine List.forall_mem_append.mpr ⟨?_, row.isWritten_text fun _ => base.isWritten_of_digit⟩
      cases underscore
      · exact List.forall_mem_nil _
      · exact List.forall_mem_singleton.mpr rfl
  | pointed row places exponent =>
    refine List.forall_mem_append.mpr ⟨hrow row, List.forall_mem_cons.mpr ⟨rfl, ?_⟩⟩
    refine List.forall_mem_append.mpr ⟨?_, isWritten_exponentText exponent⟩
    cases places with
    | none => exact List.forall_mem_nil _
    | some places => exact hrow places
  | fraction places exponent =>
    refine List.forall_mem_cons.mpr ⟨rfl, ?_⟩
    exact List.forall_mem_append.mpr ⟨hrow places, isWritten_exponentText exponent⟩
  | scaled row exponent =>
    exact List.forall_mem_append.mpr ⟨hrow row, exponent.isWritten_text⟩

/-- A word is a letter or underscore with letters, digits and underscores behind it. -/
theorem Word.letters_eq (w : Word) : ∃ c cs, w.letters = c :: cs ∧ isIdentifierStart c = true ∧
    (∀ d ∈ w.letters, isAsciiLetter d = true ∨ isAsciiDigit d = true ∨ d = '_') := by
  have hidentifier := w.identifier
  have hascii := w.lt_of_mem
  cases hletters : w.letters with
  | nil =>
    rw [hletters] at hidentifier
    cases hidentifier
  | cons c cs =>
    rw [hletters] at hidentifier hascii
    obtain ⟨hstart, hword⟩ := Bool.and_eq_true_iff.mp hidentifier
    refine ⟨c, cs, rfl, hstart, List.forall_mem_cons.mpr ⟨?_, fun d hd => ?_⟩⟩
    · simp only [isIdentifierStart, Bool.or_eq_true, beq_iff_eq] at hstart
      exact hstart.imp_right Or.inr
    · have hd' : isWord d = true := List.all_eq_true.mp hword d hd
      rw [isWord, if_pos (hascii d (List.mem_cons_of_mem _ hd))] at hd'
      simpa only [Bool.or_eq_true, beq_iff_eq, or_assoc] using hd'

theorem Word.isWritten_letters (w : Word) : ∀ c ∈ w.letters, isWritten c = true := by
  obtain ⟨-, -, -, -, hall⟩ := w.letters_eq
  intro c hc
  obtain h | h | rfl := hall c hc
  · simp [isWritten, h]
  · exact isWritten_of_digit h
  · rfl

/-- Behind the other spelling of powers there is no caret. -/
theorem Lexeme.isWritten_lexed (a : Lexeme) : ∀ c ∈ a.lexed, isWritten c = true := by
  cases a with
  | numeral n => exact n.isWritten_text
  | word w => exact w.isWritten_letters
  | mark m => exact List.all_eq_true.mp (by cases m <;> rfl)

theorem withPowerSigns_append (s t : List Char) :
    withPowerSigns (s ++ t) = withPowerSigns s ++ withPowerSigns t := List.flatMap_append

theorem withPowerSigns_of_not_mem {s : List Char} (h : '^' ∉ s) : withPowerSigns s = s := by
  induction s with
  | nil => rfl
  | cons c s ih =>
    obtain ⟨hc, hs⟩ : '^' ≠ c ∧ '^' ∉ s := by simpa using h
    rw [withPowerSigns_cons, if_neg hc.symm, ih hs]
    rfl

theorem Lexeme.withPowerSigns_text (a : Lexeme) : withPowerSigns a.text = a.lexed := by
  have hcaret {s : List Char} (h : ∀ c ∈ s, isWritten c = true) : withPowerSigns s = s :=
    withPowerSigns_of_not_mem fun hc => absurd (h _ hc) (by decide)
  cases a with
  | numeral n => exact hcaret n.isWritten_text
  | word w => exact hcaret w.isWritten_letters
  | mark m => cases m <;> rfl

/-- The first character of a numeral is a digit, or a point in front of a digit. -/
theorem Numeral.starts (n : Numeral) (rest : List Char) : ∃ c s, n.text ++ rest = c :: s ∧
    (isAsciiDigit c || (c = '.' && s.head?.any isAsciiDigit)) = true := by
  have hrow (row : DigitRow isAsciiDigit) (more : List Char) :
      ∃ c s, row.text ++ more = c :: s ∧
        (isAsciiDigit c || (c = '.' && s.head?.any isAsciiDigit)) = true :=
    ⟨row.first, _, rfl, by simp [row.first_digit]⟩
  cases n with
  | whole row nonzero length => exact hrow row rest
  | based base capital underscore row => exact ⟨'0', _, rfl, rfl⟩
  | pointed row places exponent =>
    simp only [text, List.append_assoc]
    exact hrow row _
  | fraction places exponent =>
    exact ⟨'.', _, rfl, by simp [DigitRow.text, places.first_digit]⟩
  | scaled row exponent =>
    simp only [text, List.append_assoc]
    exact hrow row _

theorem Lexeme.text_ne_nil (a : Lexeme) : a.text ≠ [] := by
  cases a with
  | numeral n =>
    obtain ⟨c, s, heq, -⟩ := n.starts []
    rw [List.append_nil] at heq
    rw [text, heq]
    exact List.cons_ne_nil c s
  | word w =>
    obtain ⟨c, cs, heq, -⟩ := w.letters_eq
    rw [text, heq]
    exact List.cons_ne_nil c cs
  | mark m => cases m <;> exact List.cons_ne_nil _ _

theorem Lexeme.mem_text (a : Lexeme) {c : Char} (hc : c ∈ a.text) : isWritten c = true ∨ c = '^' := by
  cases a with
  | numeral n => exact .inl (n.isWritten_text c hc)
  | word w => exact .inl (w.isWritten_letters c hc)
  | mark m =>
    have hmark : (m.text.all fun c => isWritten c || c = '^') = true := by cases m <;> rfl
    simpa using List.all_eq_true.mp hmark c hc

theorem Lexeme.solid_text (a : Lexeme) : Solid a.text := by
  refine ⟨a.text_ne_nil, fun c hc => ?_⟩
  obtain hwritten | rfl := a.mem_text hc
  · exact not_isBlank_of_isWritten hwritten
  · rfl

end Texts

section Spacing

variable {α : Type} {spell : α → List Char} {row : List α} {s : List Char}

theorem Spaced.mem (h : Spaced spell row s) {c : Char} (hc : c ∈ s) :
    isSpace c = true ∨ ∃ a ∈ row, c ∈ spell a := by
  induction h with
  | nil hgap => exact .inl (hgap c hc)
  | cons hgap a _ ih =>
    rw [List.mem_append, List.mem_append] at hc
    obtain hc | hc | hc := hc
    · exact .inl (hgap c hc)
    · exact .inr ⟨a, List.mem_cons_self .., hc⟩
    · obtain hspace | ⟨b, hb, hc⟩ := ih hc
      · exact .inl hspace
      · exact .inr ⟨b, List.mem_cons_of_mem a hb, hc⟩

theorem trimRight_of_blank {gap : List Char} (hgap : ∀ c ∈ gap, isSpace c = true) :
    trimRight gap = [] := by
  have hblank : ∀ c ∈ gap, isBlank c = true := fun c hc => isBlank_of_isSpace (hgap c hc)
  exact trimRight_append [] hblank

/-- Trimming takes off spaces only. -/
theorem Spaced.trimRight (hsolid : ∀ a, Solid (spell a)) (h : Spaced spell row s) :
    Spaced spell row (Text.trimRight s) := by
  induction h with
  | nil hgap =>
    rw [trimRight_of_blank hgap]
    exact .nil (List.forall_mem_nil _)
  | @cons gap hgap a row s hs ih =>
    have hnonempty : spell a ++ Text.trimRight s ≠ [] :=
      List.append_ne_nil_of_left_ne_nil (hsolid a).nonempty _
    rw [trimRight_append_eq, trimRight_solid (hsolid a), if_neg hnonempty]
    exact .cons hgap a ih

theorem Spaced.trim (hsolid : ∀ a, Solid (spell a)) (h : Spaced spell row s) :
    Spaced spell row (Text.trim s) := by
  refine Spaced.trimRight hsolid ?_
  cases h with
  | nil hgap =>
    have hblank : trimLeft s = [] :=
      trimLeft_eq_nil.mpr fun c hc => isBlank_of_isSpace (hgap c hc)
    rw [hblank]
    exact .nil (List.forall_mem_nil _)
  | @cons gap hgap a row s hs =>
    have hsame : trimLeft (spell a ++ s) = spell a ++ s := by
      obtain ⟨c, w, hw⟩ := List.exists_cons_of_ne_nil (hsolid a).nonempty
      have hc : isBlank c = false := (hsolid a).solid c (hw ▸ List.mem_cons_self ..)
      rw [hw, List.cons_append, trimLeft, List.dropWhile_cons_of_neg (by simp [hc])]
    rw [trimLeft_append fun c hc => isBlank_of_isSpace (hgap c hc), hsame]
    exact @Spaced.cons _ _ [] (List.forall_mem_nil _) a row s hs

theorem Spaced.withPowerSigns {row : List Lexeme} (h : Spaced Lexeme.text row s) :
    Spaced Lexeme.lexed row (Expression.withPowerSigns s) := by
  have hcaret {gap : List Char} (hgap : ∀ c ∈ gap, isSpace c = true) :
      Expression.withPowerSigns gap = gap :=
    withPowerSigns_of_not_mem fun hc => absurd (hgap _ hc) (by decide)
  induction h with
  | nil hgap =>
    rw [hcaret hgap]
    exact .nil hgap
  | cons hgap a _ ih =>
    rw [withPowerSigns_append, withPowerSigns_append, hcaret hgap, a.withPowerSigns_text]
    exact .cons hgap a ih

end Spacing

section Rows

def Mark.begins : Mark → Bool
  | plus | minus | opening => true
  | _ => false

def Lexeme.begins : Lexeme → Bool
  | mark m => m.begins
  | _ => true

def Lexeme.ends : Lexeme → Bool
  | mark .closing => true
  | mark _ => false
  | _ => true

def Lexeme.isMark : Lexeme → Bool
  | mark _ => true
  | _ => false

/-- What may follow a lexeme: a sign the end of an operand, and the beginning of one any other. -/
def Adjacent (a b : Lexeme) : Prop := (if a.ends then b.isMark else b.begins) = true

structure Row (row : List Lexeme) : Prop where
  chain : row.IsChain Adjacent
  begins : ∃ a, row.head? = some a ∧ a.begins = true
  ends : ∃ a, row.getLast? = some a ∧ a.ends = true

namespace Row

variable {a : Lexeme} {row row' : List Lexeme}

theorem single (hbegins : a.begins = true) (hends : a.ends = true) : Row [a] :=
  ⟨.singleton a, ⟨a, rfl, hbegins⟩, ⟨a, rfl, hends⟩⟩

theorem prepend (hbegins : a.begins = true) (hopen : a.ends = false) (h : Row row) :
    Row (a :: row) := by
  obtain ⟨hchain, ⟨b, hb, hbegins'⟩, ⟨d, hd, hends⟩⟩ := h
  refine ⟨List.isChain_cons.mpr ⟨?_, hchain⟩, ⟨a, rfl, hbegins⟩, ⟨d, ?_, hends⟩⟩
  · intro x hx
    obtain rfl : b = x := Option.some.inj (hb.symm.trans hx)
    rw [Adjacent, hopen]
    exact hbegins'
  · rw [List.getLast?_cons, hd]
    rfl

theorem append (h : Row row) {m : Mark} (hopen : (Lexeme.mark m).ends = false) (h' : Row row') :
    Row (row ++ .mark m :: row') := by
  obtain ⟨hchain, ⟨b, hb, hbegins⟩, ⟨d, hd, hends⟩⟩ := h
  obtain ⟨hchain', ⟨b', hb', hbegins'⟩, ⟨d', hd', hends'⟩⟩ := h'
  refine ⟨?_, ⟨b, ?_, hbegins⟩, ⟨d', ?_, hends'⟩⟩
  · refine List.isChain_append.mpr ⟨hchain, List.isChain_cons.mpr ⟨?_, hchain'⟩, ?_⟩
    · intro x hx
      obtain rfl : b' = x := Option.some.inj (hb'.symm.trans hx)
      rw [Adjacent, hopen]
      exact hbegins'
    · intro x hx y hy
      obtain rfl : d = x := Option.some.inj (hd.symm.trans hx)
      obtain rfl : .mark m = y := Option.some.inj hy
      rw [Adjacent, hends]
      rfl
  · rw [List.head?_append, hb]
    rfl
  · rw [List.getLast?_append, List.getLast?_cons, hd']
    rfl

theorem close (h : Row row) : Row (row ++ [.mark .closing]) := by
  obtain ⟨hchain, ⟨b, hb, hbegins⟩, ⟨d, hd, hends⟩⟩ := h
  refine ⟨?_, ⟨b, ?_, hbegins⟩, ⟨.mark .closing, List.getLast?_concat, rfl⟩⟩
  · refine List.isChain_append.mpr ⟨hchain, .singleton _, ?_⟩
    intro x hx y hy
    obtain rfl : d = x := Option.some.inj (hd.symm.trans hx)
    obtain rfl : .mark .closing = y := Option.some.inj hy
    rw [Adjacent, hends]
    rfl
  · rw [List.head?_append, hb]
    rfl

theorem enclose (asked level : Nat) (h : Row row) : Row (enclose asked level row) := by
  unfold Expression.enclose
  split
  · exact h.close.prepend rfl rfl
  · exact h

end Row

/-- A formula is written as an operand. -/
theorem Formula.row (t : Formula) : Row t.lexemes := by
  induction t with
  | numeral n => exact .single rfl rfl
  | pi => exact .single rfl rfl
  | parameter w other => exact .single rfl rfl
  | sign negative t ih =>
    refine (ih.enclose _ _).prepend ?_ ?_ <;> cases negative <;> rfl
  | binary op l r ihl ihr =>
    refine (ihl.enclose _ _).append ?_ (ihr.enclose _ _)
    cases op <;> rfl
  | call f t ih =>
    exact (Row.single (a := .word f.word) rfl rfl).append rfl ih.close

end Rows

section Depths

def Lexeme.open? (depth : Nat) : Lexeme → Option Nat
  | mark .opening => if depth < bracketLimit then some (depth + 1) else none
  | mark .closing => if 0 < depth then some (depth - 1) else none
  | _ => some depth

def openBehind? (depth : Nat) (row : List Lexeme) : Option Nat := row.foldlM Lexeme.open? depth

variable {depth : Nat} {row row' : List Lexeme}

theorem openBehind?_cons (a : Lexeme) :
    openBehind? depth (a :: row) = (a.open? depth).bind (openBehind? · row) := List.foldlM_cons

theorem openBehind?_append :
    openBehind? depth (row ++ row') = (openBehind? depth row).bind (openBehind? · row') :=
  List.foldlM_append

theorem openBehind?_parentheses (hdepth : depth < bracketLimit)
    (hrow : openBehind? (depth + 1) row = some (depth + 1)) :
    openBehind? depth (.mark .opening :: (row ++ [.mark .closing])) = some depth := by
  have hopening : (Lexeme.mark .opening).open? depth = some (depth + 1) := if_pos hdepth
  rw [openBehind?_cons, hopening, Option.bind_some, openBehind?_append, hrow, Option.bind_some]
  rfl

/-- A formula that is not nested too deep closes all parentheses that it opens. The depth of a
formula bounds that of its parentheses, one pair for each step down at most. -/
theorem openBehind?_lexemes (t : Formula) (depth : Nat) (h : depth + t.depth ≤ bracketLimit) :
    openBehind? depth t.lexemes = some depth := by
  have henclose {t : Formula} (ih : ∀ depth, depth + t.depth ≤ bracketLimit →
      openBehind? depth t.lexemes = some depth) {depth : Nat}
      (h : depth + 1 + t.depth ≤ bracketLimit) (asked : Nat) :
      openBehind? depth (enclose asked t.level t.lexemes) = some depth := by
    unfold enclose
    split
    · exact openBehind?_parentheses (by omega) (ih (depth + 1) h)
    · exact ih depth (by omega)
  induction t generalizing depth with
  | numeral n => rfl
  | pi => rfl
  | parameter w other => rfl
  | sign negative t ih =>
    rw [Formula.depth] at h
    have hsign : (Lexeme.mark (signMark negative)).open? depth = some depth := by
      cases negative <;> rfl
    rw [Formula.lexemes, openBehind?_cons, hsign, Option.bind_some, henclose ih (by omega)]
  | binary op l r ihl ihr =>
    rw [Formula.depth] at h
    have hop : (Lexeme.mark op.mark).open? depth = some depth := by cases op <;> rfl
    rw [Formula.lexemes, openBehind?_append, henclose ihl (by omega), Option.bind_some,
      openBehind?_cons, hop, Option.bind_some, henclose ihr (by omega)]
  | call f t ih =>
    rw [Formula.depth] at h
    have hword : (Lexeme.word f.word).open? depth = some depth := rfl
    rw [Formula.lexemes, openBehind?_cons, hword, Option.bind_some,
      openBehind?_parentheses (by omega) (ih (depth + 1) (by omega))]

end Depths

end CircuitConsole.Expression
