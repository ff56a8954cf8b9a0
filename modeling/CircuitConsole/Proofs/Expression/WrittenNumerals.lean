import CircuitConsole.Proofs.Expression.Numerals
import Mathlib.Data.List.Basic
import Mathlib.Data.Nat.Digits.Defs

/-!
Numerals as they are written. A row of digits may hold underscores, a whole number may stand in
another base behind a mark, and a decimal fraction may have an exponent. Every one of them, unless a
name or a point follows, is read as the number that its digits make.
-/

namespace CircuitConsole.Expression

open Decimal Text

structure DigitRow (digit : Char → Bool) where
  first : Char
  more : List (Bool × Char)
  first_digit : digit first = true
  more_digit : ∀ d ∈ more, digit d.2 = true

namespace DigitRow

variable {digit : Char → Bool}

def spelled (more : List (Bool × Char)) : List Char :=
  more.flatMap fun d => if d.1 then ['_', d.2] else [d.2]

def text (row : DigitRow digit) : List Char := row.first :: spelled row.more

def digits (row : DigitRow digit) : List Char := row.first :: row.more.map (·.2)

def value (base : Nat) (row : DigitRow digit) : Nat :=
  Nat.ofDigits base (row.digits.reverse.map hexValue)

theorem digit_of_mem (row : DigitRow digit) {c : Char} (hc : c ∈ row.digits) :
    digit c = true := by
  obtain rfl | hc := List.mem_cons.mp hc
  · exact row.first_digit
  · obtain ⟨d, hd, rfl⟩ := List.mem_map.mp hc
    exact row.more_digit d hd

end DigitRow

variable {rest : List Char}

/-- Digits that make a number do so from the left. -/
theorem ofDigits_reverse (base : Nat) (digits : List Char) :
    Nat.ofDigits base (digits.reverse.map hexValue) =
      digits.foldl (fun n d => base * n + hexValue d) 0 := by
  rw [Nat.ofDigits_eq_foldr, ← List.map_reverse.symm, List.foldr_reverse, List.foldl_map]
  exact congrArg (fun f => digits.foldl f 0) (funext fun n => funext fun d => Nat.add_comm _ _)

theorem decimalNatural_eq {digits : List Char} (h : ∀ c ∈ digits, isAsciiDigit c = true) :
    decimalNatural digits = Nat.ofDigits 10 (digits.reverse.map hexValue) := by
  rw [ofDigits_reverse]
  refine List.foldl_ext _ _ 0 fun n c hc => ?_
  rw [hexValue, if_pos (h c hc)]

section Reading

variable {digit : Char → Bool}

def EndsDigits (digit : Char → Bool) (rest : List Char) : Prop :=
  rest.head?.any digit = false ∧ rest.head? ≠ some '_'

theorem digitTail_spelled {more : List (Bool × Char)} (hmore : ∀ d ∈ more, digit d.2 = true)
    (hunderscore : digit '_' = false) (hrest : EndsDigits digit rest) :
    digitTail digit (DigitRow.spelled more ++ rest) = some (more.map (·.2), rest) := by
  induction more with
  | nil => exact digitTail_stop hrest.1 hrest.2
  | cons d more ih =>
    obtain ⟨underscore, c⟩ := d
    obtain ⟨hc, hmore⟩ := List.forall_mem_cons.mp hmore
    have hne : c ≠ '_' := by
      rintro rfl
      rw [hunderscore] at hc
      cases hc
    have hread := ih hmore
    cases underscore with
    | true =>
      change digitTail digit ('_' :: c :: (DigitRow.spelled more ++ rest)) = _
      rw [digitTail, if_pos hc, hread]
      rfl
    | false =>
      change digitTail digit (c :: (DigitRow.spelled more ++ rest)) = _
      rw [digitTail_digit hne hc, hread]
      rfl

theorem digitTail_text (row : DigitRow digit) (hunderscore : digit '_' = false)
    (hrest : EndsDigits digit rest) :
    digitTail digit (row.text ++ rest) = some (row.digits, rest) := by
  have hne : row.first ≠ '_' := by
    intro hfirst
    have hdigit := row.first_digit
    rw [hfirst, hunderscore] at hdigit
    cases hdigit
  change digitTail digit (row.first :: (DigitRow.spelled row.more ++ rest)) = _
  rw [digitTail_digit hne row.first_digit, digitTail_spelled row.more_digit hunderscore hrest]
  rfl

def EndsNumeral (rest : List Char) : Prop :=
  rest.head?.any (fun c => continuesName c || c = '.') = false

theorem EndsNumeral.head_ne (h : EndsNumeral rest) {c : Char}
    (hc : (continuesName c || c = '.') = true) : rest.head? ≠ some c := by
  intro hhead
  rw [EndsNumeral, hhead, Option.any_some, hc] at h
  cases h

theorem EndsNumeral.not_any (h : EndsNumeral rest) {p : Char → Bool}
    (hp : ∀ c, p c = true → continuesName c = true) : rest.head?.any p = false := by
  cases rest with
  | nil => rfl
  | cons c rest =>
    by_contra hc
    have hc : p c = true := by simpa using hc
    exact h.head_ne (c := c) (by simp [hp c hc]) rfl

theorem EndsNumeral.digits (h : EndsNumeral rest)
    (hdigit : ∀ c, digit c = true → continuesName c = true) : EndsDigits digit rest :=
  ⟨h.not_any hdigit, h.head_ne (by decide)⟩

theorem continuesName_of_digit {c : Char} (h : isAsciiDigit c = true) : continuesName c = true := by
  simp [continuesName, h]

theorem finishNumeral_of_ends (h : EndsNumeral rest) (token : Token) :
    finishNumeral token rest = some (token, rest) := by
  have hends : numeralEnds rest = true := numeralEnds_iff.mpr (.inr (h.not_any fun _ hc => hc))
  rw [finishNumeral, if_pos hends]

end Reading

structure Exponent where
  capital : Bool
  /-- Whether it is negative, where it has a sign. -/
  sign : Option Bool
  magnitude : DigitRow isAsciiDigit

namespace Exponent

def signText (sign : Option Bool) : List Char :=
  match sign with
  | none => []
  | some negative => [if negative then '-' else '+']

def text (e : Exponent) : List Char :=
  (if e.capital then 'E' else 'e') :: (signText e.sign ++ e.magnitude.text)

def value (e : Exponent) : Int :=
  if e.sign = some true then -(e.magnitude.value 10 : Int) else e.magnitude.value 10

end Exponent

section Decimals

variable {whole places : List Char}

theorem exponent?_text (token : Nat → Token) (row : DigitRow isAsciiDigit)
    (hrest : EndsNumeral rest) :
    exponent? token (row.text ++ rest) = some (token (row.value 10), rest) := by
  have hdigits := digitTail_text row (by decide) (hrest.digits fun _ => continuesName_of_digit)
  rw [exponent?, hdigits, Option.bind_some]
  dsimp only
  rw [orImaginary_of_ne (hrest.head_ne (by decide)) (hrest.head_ne (by decide)),
    finishNumeral_of_ends hrest, decimalNatural_eq fun c => row.digit_of_mem]
  rfl

/-- A numeral with an exponent, behind its mantissa. -/
theorem markedDecimal_exponent (e : Exponent) (pointed : Bool) (hrest : EndsNumeral rest) :
    markedDecimal whole places pointed (e.text ++ rest) =
      some (.decimal ⟨decimalNatural (whole ++ places), e.value - places.length⟩, rest) := by
  obtain ⟨capital, sign, row⟩ := e
  have hmark : ((if capital then 'E' else 'e') = 'e' ||
      (if capital then 'E' else 'e') = 'E') = true := by cases capital <;> rfl
  cases sign with
  | none =>
    have hread := exponent?_text (scaled whole places false) row hrest
    change exponent? _ (row.first :: (DigitRow.spelled row.more ++ rest)) = _ at hread
    change markedDecimal _ _ _ (_ :: row.first :: (DigitRow.spelled row.more ++ rest)) = _
    rw [markedDecimal, if_pos hmark, if_pos row.first_digit, hread]
    rfl
  | some negative =>
    have hsign : ((if negative then '-' else '+') = '+' ||
        (if negative then '-' else '+') = '-') = true := by cases negative <;> rfl
    have hnone : isAsciiDigit (if negative then '-' else '+') = false := by
      cases negative <;> rfl
    have hdigits : (row.text ++ rest).head?.any isAsciiDigit = true := row.first_digit
    change markedDecimal _ _ _ (_ :: (if negative then '-' else '+') :: (row.text ++ rest)) = _
    rw [markedDecimal, if_pos hmark, hnone, if_neg Bool.false_ne_true, if_pos hsign,
      if_pos hdigits, exponent?_text _ row hrest]
    cases negative <;> rfl

theorem finishDecimal_exponent (e : Exponent) (pointed : Bool) (hrest : EndsNumeral rest) :
    finishDecimal whole places pointed (e.text ++ rest) =
      some (.decimal ⟨decimalNatural (whole ++ places), e.value - places.length⟩, rest) := by
  rw [finishDecimal_eq, orImaginary_of_ne, markedDecimal_exponent e pointed hrest]
  · cases hcapital : e.capital <;> simp [Exponent.text, hcapital]
  · cases hcapital : e.capital <;> simp [Exponent.text, hcapital]

theorem finishDecimal_ends (pointed : Bool) (hrest : EndsNumeral rest) :
    finishDecimal whole places pointed rest = plainDecimal whole places pointed rest := by
  rw [finishDecimal_eq, orImaginary_of_ne (hrest.head_ne (by decide)) (hrest.head_ne (by decide)),
    markedDecimal_of_plain]
  rintro c d more rfl (rfl | rfl)
  · exact absurd rfl (hrest.head_ne (c := 'e') (by decide))
  · exact absurd rfl (hrest.head_ne (c := 'E') (by decide))

def exponentText (e : Option Exponent) : List Char := e.elim [] Exponent.text

def exponentValue (e : Option Exponent) : Int := e.elim 0 Exponent.value

/-- A numeral with a point, behind its places. -/
theorem finishDecimal_pointed (e : Option Exponent) (hrest : EndsNumeral rest) :
    finishDecimal whole places true (exponentText e ++ rest) =
      some (.decimal ⟨decimalNatural (whole ++ places), exponentValue e - places.length⟩,
        rest) := by
  cases e with
  | none =>
    change finishDecimal whole places true rest = _
    rw [finishDecimal_ends true hrest, plainDecimal, if_pos rfl, finishNumeral_of_ends hrest]
    rfl
  | some e => exact finishDecimal_exponent e true hrest

/-- An exponent, or none in front of what ends a numeral, ends a row of digits. -/
theorem endsDigits_exponent (e : Option Exponent) (hrest : EndsNumeral rest) :
    EndsDigits isAsciiDigit (exponentText e ++ rest) := by
  cases e with
  | none => exact hrest.digits fun _ => continuesName_of_digit
  | some e =>
    constructor <;> cases hcapital : e.capital <;>
      simp [exponentText, Exponent.text, hcapital, isAsciiDigit]

end Decimals

inductive Base where
  | binary | octal | hexadecimal

namespace Base

def radix : Base → Nat
  | binary => 2
  | octal => 8
  | hexadecimal => 16

def digit : Base → Char → Bool
  | binary => fun c => c = '0' || c = '1'
  | octal => fun c => '0' ≤ c && c ≤ '7'
  | hexadecimal => isHexDigit

def mark : Base → Bool → Char
  | binary, capital => if capital then 'B' else 'b'
  | octal, capital => if capital then 'O' else 'o'
  | hexadecimal, capital => if capital then 'X' else 'x'

theorem digit_underscore (base : Base) : base.digit '_' = false := by cases base <;> rfl

/-- The digits of a base are digits or letters. -/
theorem letter_or_digit {c : Char} (base : Base) (h : base.digit c = true) :
    isAsciiLetter c = true ∨ isAsciiDigit c = true := by
  cases base with
  | binary =>
    obtain rfl | rfl : c = '0' ∨ c = '1' := by simpa [digit] using h
    · exact .inr rfl
    · exact .inr rfl
  | octal =>
    obtain ⟨hlow, hhigh⟩ : '0' ≤ c ∧ c ≤ '7' := by simpa [digit] using h
    have hnine : c ≤ '9' := Char.le_trans hhigh (by decide)
    exact .inr (by simp [isAsciiDigit, hlow, hnine])
  | hexadecimal =>
    obtain (h | ⟨hlow, hhigh⟩) | ⟨hlow, hhigh⟩ :
        (isAsciiDigit c = true ∨ 'a' ≤ c ∧ c ≤ 'f') ∨ 'A' ≤ c ∧ c ≤ 'F' := by
      simpa [digit, isHexDigit] using h
    · exact .inr h
    · have hlast : c ≤ 'z' := Char.le_trans hhigh (by decide)
      exact .inl (by simp [isAsciiLetter, hlow, hlast])
    · have hlast : c ≤ 'Z' := Char.le_trans hhigh (by decide)
      exact .inl (by simp [isAsciiLetter, hlow, hlast])

theorem continuesName_of_digit {c : Char} (base : Base) (h : base.digit c = true) :
    continuesName c = true := by
  rcases base.letter_or_digit h with h | h
  · simp [continuesName, h]
  · exact Expression.continuesName_of_digit h

end Base

/-- Numerals without a sign: whole numbers in base ten and in other bases, and decimal fractions. A
whole number begins with a zero only if it is zero. -/
inductive Numeral where
  | whole (row : DigitRow isAsciiDigit)
      (nonzero : row.first = '0' → ∀ c ∈ row.digits, c = '0')
      (length : row.digits.length ≤ digitLimit)
  | based (base : Base) (capital underscore : Bool) (row : DigitRow base.digit)
  | pointed (whole : DigitRow isAsciiDigit) (places : Option (DigitRow isAsciiDigit))
      (exponent : Option Exponent)
  | fraction (places : DigitRow isAsciiDigit) (exponent : Option Exponent)
  | scaled (whole : DigitRow isAsciiDigit) (exponent : Exponent)

namespace Numeral

def placesDigits (places : Option (DigitRow isAsciiDigit)) : List Char :=
  places.elim [] DigitRow.digits

def text : Numeral → List Char
  | whole row _ _ => row.text
  | based base capital underscore row =>
    '0' :: base.mark capital :: ((if underscore then ['_'] else []) ++ row.text)
  | pointed row places exponent =>
    row.text ++ '.' :: (places.elim [] DigitRow.text ++ exponentText exponent)
  | fraction places exponent => '.' :: (places.text ++ exponentText exponent)
  | scaled row exponent => row.text ++ exponent.text

def fractional (whole places : List Char) (exponent : Int) : Scientific :=
  ⟨Nat.ofDigits 10 ((whole ++ places).reverse.map hexValue), exponent - places.length⟩

def number : Numeral → Nat ⊕ Scientific
  | whole row _ _ => .inl (row.value 10)
  | based base _ _ row => .inl (row.value base.radix)
  | pointed row places exponent =>
    .inr (fractional row.digits (placesDigits places) (exponentValue exponent))
  | fraction places exponent => .inr (fractional [] places.digits (exponentValue exponent))
  | scaled row exponent => .inr (fractional row.digits [] exponent.value)

def token (n : Numeral) : Token :=
  match n.number with
  | .inl n => .natural n
  | .inr d => .decimal d

variable {rest : List Char}

theorem decimalNatural_append {whole places : List Char}
    (hwhole : ∀ c ∈ whole, isAsciiDigit c = true) (hplaces : ∀ c ∈ places, isAsciiDigit c = true) :
    decimalNatural (whole ++ places) = Nat.ofDigits 10 ((whole ++ places).reverse.map hexValue) :=
  decimalNatural_eq (List.forall_mem_append.mpr ⟨hwhole, hplaces⟩)

/-- A row of decimal digits is not taken for a number in another base, if no mark follows. -/
theorem unmarked (row : DigitRow isAsciiDigit) (hrest : rest.head?.any (baseMarks.contains ·) = false)
    {m : Char} {more : List Char} (h : row.text ++ rest = '0' :: m :: more) : m ∉ baseMarks := by
  have hdigit : baseMarks.all (!isAsciiDigit ·) = true := rfl
  have htail : DigitRow.spelled row.more ++ rest = m :: more := (List.cons.inj h).2
  have hmore := row.more_digit
  cases hlist : row.more with
  | nil =>
    rw [hlist] at htail
    change rest = m :: more at htail
    rw [htail] at hrest
    simpa using hrest
  | cons d ds =>
    rw [hlist] at htail hmore
    obtain ⟨underscore, c⟩ := d
    cases underscore with
    | true =>
      obtain rfl : '_' = m := (List.cons.inj htail).1
      decide
    | false =>
      obtain rfl : c = m := (List.cons.inj htail).1
      intro hm
      have hc : isAsciiDigit c = true := hmore _ (List.mem_cons_self ..)
      have hnot := List.all_eq_true.mp hdigit c hm
      rw [hc] at hnot
      cases hnot

theorem numeral?_row (row : DigitRow isAsciiDigit)
    (hmark : rest.head?.any (baseMarks.contains ·) = false) (hrest : EndsDigits isAsciiDigit rest) :
    numeral? (row.text ++ rest) = afterWhole row.digits rest := by
  have hpoint : row.first ≠ '.' := by
    intro hfirst
    have hdigit := row.first_digit
    rw [hfirst] at hdigit
    cases hdigit
  rw [numeral?_of_unmarked (fun m more h => unmarked row hmark h) (by simpa [DigitRow.text]),
    decimalNumeral?, digitTail_text row (by decide) hrest, Option.bind_some]

theorem afterWhole_unpointed (whole : List Char) (h : rest.head? ≠ some '.') :
    afterWhole whole rest = finishDecimal whole [] false rest := by
  rw [afterWhole, if_neg h]

theorem numeral?_whole (row : DigitRow isAsciiDigit)
    (nonzero : row.first = '0' → ∀ c ∈ row.digits, c = '0')
    (length : row.digits.length ≤ digitLimit) (hrest : EndsNumeral rest) :
    numeral? (row.text ++ rest) = some (.natural (row.value 10), rest) := by
  have hmarks : ∀ c, baseMarks.contains c = true → continuesName c = true := by
    intro c hc
    have hall : baseMarks.all continuesName = true := rfl
    exact List.all_eq_true.mp hall c (by simpa using hc)
  have hleading : (row.digits.head? = some '0' && row.digits.any (· ≠ '0')) = false := by
    by_cases hzero : row.first = '0'
    · have hall := nonzero hzero
      have hany : row.digits.any (· ≠ '0') = false := by simpa using hall
      rw [hany, Bool.and_false]
    · simp [DigitRow.digits, hzero]
  rw [numeral?_row row (hrest.not_any hmarks) (hrest.digits fun _ => continuesName_of_digit),
    afterWhole_unpointed _ (hrest.head_ne (by decide)), finishDecimal_ends false hrest,
    plainDecimal, if_neg Bool.false_ne_true, hleading, if_neg Bool.false_ne_true, if_neg,
    finishNumeral_of_ends hrest, List.append_nil, decimalNatural_eq fun c => row.digit_of_mem]
  · rfl
  · simp only [Bool.and_eq_true, decide_eq_true_eq, not_and]
    omega

theorem basedDigits?_text {digit : Char → Bool} (base : Nat) (row : DigitRow digit)
    (hunderscore : digit '_' = false) (hdigit : ∀ c, digit c = true → continuesName c = true)
    (hrest : EndsNumeral rest) :
    basedDigits? base digit (row.text ++ rest) = some (.natural (row.value base), rest) := by
  have hhead : (row.text ++ rest).head? ≠ some '_' := by
    intro hhead
    have hfirst := row.first_digit
    rw [Option.some.inj hhead, hunderscore] at hfirst
    cases hfirst
  rw [basedDigits?, if_neg hhead, digitTail_text row hunderscore (hrest.digits hdigit)]
  change finishNumeral (.natural (row.digits.foldl _ 0)) rest = _
  rw [finishNumeral_of_ends hrest, ← ofDigits_reverse]
  rfl

theorem basedNumeral?_text {digit : Char → Bool} (base : Nat) (underscore : Bool)
    (row : DigitRow digit) (hunderscore : digit '_' = false)
    (hdigit : ∀ c, digit c = true → continuesName c = true) (hrest : EndsNumeral rest) :
    basedNumeral? base digit ((if underscore then ['_'] else []) ++ row.text ++ rest) =
      some (.natural (row.value base), rest) := by
  have hread := basedDigits?_text base row hunderscore hdigit hrest
  cases underscore with
  | true => exact hread
  | false =>
    rw [← hread]
    refine basedNumeral?_of_ne ?_ base
    intro hhead
    have hfirst := row.first_digit
    rw [Option.some.inj hhead, hunderscore] at hfirst
    cases hfirst

theorem numeral?_based (base : Base) (capital underscore : Bool) (row : DigitRow base.digit)
    (hrest : EndsNumeral rest) :
    numeral? ((based base capital underscore row).text ++ rest) =
      some (.natural (row.value base.radix), rest) := by
  have hread := basedNumeral?_text base.radix underscore row base.digit_underscore
    (fun _ => base.continuesName_of_digit) hrest
  cases base <;> cases capital <;> exact hread

theorem afterWhole_pointed (whole s : List Char) :
    afterWhole whole ('.' :: s) =
      if s.head?.any isAsciiDigit then
        (digitTail isAsciiDigit s).bind fun (places, rest) => finishDecimal whole places true rest
      else finishDecimal whole [] true s := if_pos rfl

/-- The digits behind the point and the exponent. -/
theorem digitTail_places {whole : List Char} (hwhole : ∀ c ∈ whole, isAsciiDigit c = true)
    (places : DigitRow isAsciiDigit) (exponent : Option Exponent) (hrest : EndsNumeral rest) :
    ((digitTail isAsciiDigit (places.text ++ (exponentText exponent ++ rest))).bind
        fun (places, rest) => finishDecimal whole places true rest) =
      some (.decimal (fractional whole places.digits (exponentValue exponent)), rest) := by
  rw [digitTail_text places (by decide) (endsDigits_exponent exponent hrest), Option.bind_some]
  dsimp only
  rw [finishDecimal_pointed exponent hrest,
    decimalNatural_append hwhole (fun c => places.digit_of_mem)]
  rfl

theorem numeral?_pointed (whole : DigitRow isAsciiDigit) (places : Option (DigitRow isAsciiDigit))
    (exponent : Option Exponent) (hrest : EndsNumeral rest) :
    numeral? ((pointed whole places exponent).text ++ rest) =
      some ((pointed whole places exponent).token, rest) := by
  have hwhole : ∀ c ∈ whole.digits, isAsciiDigit c = true := fun c => whole.digit_of_mem
  have hpoint (s : List Char) : ('.' :: s).head?.any isAsciiDigit = false := rfl
  simp only [text, List.append_assoc, List.cons_append]
  rw [numeral?_row whole rfl ⟨hpoint _, by simp⟩, afterWhole_pointed]
  cases places with
  | none =>
    have hends := endsDigits_exponent exponent hrest
    rw [Option.elim_none, List.nil_append, hends.1, if_neg Bool.false_ne_true,
      finishDecimal_pointed exponent hrest, decimalNatural_append hwhole (List.forall_mem_nil _)]
    rfl
  | some places =>
    have hdigit : (places.text ++ (exponentText exponent ++ rest)).head?.any isAsciiDigit = true :=
      places.first_digit
    rw [Option.elim_some, if_pos hdigit, digitTail_places hwhole places exponent hrest]
    rfl

theorem numeral?_fraction (places : DigitRow isAsciiDigit) (exponent : Option Exponent)
    (hrest : EndsNumeral rest) :
    numeral? ((fraction places exponent).text ++ rest) =
      some ((fraction places exponent).token, rest) := by
  simp only [text, List.append_assoc, List.cons_append]
  exact digitTail_places (List.forall_mem_nil _) places exponent hrest

theorem numeral?_scaled (whole : DigitRow isAsciiDigit) (exponent : Exponent)
    (hrest : EndsNumeral rest) :
    numeral? ((scaled whole exponent).text ++ rest) =
      some ((scaled whole exponent).token, rest) := by
  have hends := endsDigits_exponent (some exponent) hrest
  have hhead : (exponent.text ++ rest).head? ≠ some '.' ∧
      (exponent.text ++ rest).head?.any (baseMarks.contains ·) = false := by
    cases hcapital : exponent.capital <;> simp [Exponent.text, hcapital, baseMarks]
  simp only [text, List.append_assoc]
  rw [numeral?_row whole hhead.2 hends, afterWhole_unpointed _ hhead.1,
    finishDecimal_exponent exponent false hrest,
    decimalNatural_append (fun c => whole.digit_of_mem) (List.forall_mem_nil _)]
  rfl

/-- A numeral is read as the number that its digits make. -/
theorem numeral?_text (n : Numeral) (hrest : EndsNumeral rest) :
    numeral? (n.text ++ rest) = some (n.token, rest) := by
  cases n with
  | whole row nonzero length => exact numeral?_whole row nonzero length hrest
  | based base capital underscore row => exact numeral?_based base capital underscore row hrest
  | pointed whole places exponent => exact numeral?_pointed whole places exponent hrest
  | fraction places exponent => exact numeral?_fraction places exponent hrest
  | scaled whole exponent => exact numeral?_scaled whole exponent hrest

end Numeral

end CircuitConsole.Expression
