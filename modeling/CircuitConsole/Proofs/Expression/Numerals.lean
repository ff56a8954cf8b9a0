import CircuitConsole.Expression.Lexer
import CircuitConsole.Proofs.Text.Layout

/-!
Numerals and the layout behind them. A numeral ends before the layout that follows it, and what it
is does not depend on what comes behind that: it is the same in a text and in the text condensed.
Reading that has this property may be put together, alternatives and rows alike.
-/

namespace CircuitConsole.Expression

open Text

def outerSigns : List Char :=
  [' ', '\t', '\n', '\r', '(', '[', '\x7b', ')', ']', '\x7d', '#', '\\', '\'', '"']

def isInner (c : Char) : Bool := !outerSigns.contains c

variable {α β : Type} {P : α → Prop} {Q : β → Prop} {c : Char} {s w : List Char}

/-- The start of a text and of the same text condensed is read alike: not at all, or as the same,
of which something holds and which ends before any layout and bracket. -/
inductive ReadsAlike (P : α → Prop) :
    List Char → Option (α × List Char) → Option (α × List Char) → Prop
  | none (s : List Char) : ReadsAlike P s none none
  | some {w : List Char} (hw : ∀ c ∈ w, isInner c = true) {a : α} (ha : P a) (rest : List Char) :
      ReadsAlike P (w ++ rest) (some (a, rest)) (some (a, condense rest))

namespace ReadsAlike

variable {o o' : Option (α × List Char)}

theorem start {a : α} (ha : P a) (s : List Char) :
    ReadsAlike P s (Option.some (a, s)) (Option.some (a, condense s)) :=
  .some (w := []) (by simp) ha s

theorem append (hw : ∀ c ∈ w, isInner c = true) (h : ReadsAlike P s o o') :
    ReadsAlike P (w ++ s) o o' := by
  cases h with
  | none => exact .none _
  | some hw' ha rest =>
    rw [← List.append_assoc]
    exact .some (List.forall_mem_append.mpr ⟨hw, hw'⟩) ha rest

theorem cons (hc : isInner c = true) (h : ReadsAlike P s o o') : ReadsAlike P (c :: s) o o' :=
  append (w := [c]) (by simpa using hc) h

theorem map {f : α → β} (hf : ∀ a, P a → Q (f a)) (h : ReadsAlike P s o o') :
    ReadsAlike Q s (o.map fun (a, rest) => (f a, rest)) (o'.map fun (a, rest) => (f a, rest)) := by
  cases h with
  | none => exact .none _
  | some hw ha rest => exact .some hw (hf _ ha) rest

/-- Reading goes on behind what is read. -/
theorem bind {k k' : α × List Char → Option (β × List Char)} (h : ReadsAlike P s o o')
    (hk : ∀ a rest, P a → ReadsAlike Q rest (k (a, rest)) (k' (a, condense rest))) :
    ReadsAlike Q s (o.bind k) (o'.bind k') := by
  cases h with
  | none => exact .none _
  | some hw ha rest => exact append hw (hk _ rest ha)

theorem or {p p' : Option (α × List Char)} (h : ReadsAlike P s o o') (h' : ReadsAlike P s p p') :
    ReadsAlike P s (o.or p) (o'.or p') := by
  cases h with
  | none => exact h'
  | some hw ha rest => exact .some hw ha rest

/-- What is read ends behind the first character if it is shorter by one. -/
theorem tail (h : ReadsAlike P (c :: s) o o') (hlength : ∀ a rest, o = Option.some (a, rest) →
    rest.length ≤ s.length) : ReadsAlike P s o o' := by
  generalize hs : c :: s = t at h
  cases h with
  | none => exact .none s
  | @some w hw a ha rest =>
    cases w with
    | nil =>
      have := hlength a rest rfl
      rw [show rest = c :: s from hs.symm, List.length_cons] at this
      omega
    | cons d w =>
      obtain ⟨rfl, rfl⟩ := List.cons.inj hs
      exact .some (fun x hx => hw x (List.mem_cons_of_mem _ hx)) ha rest

end ReadsAlike

def NoBracket (token : Token) : Prop := ∀ brackets, bracketsAfter? brackets token = some brackets

/-- What holds of no outer sign holds of inner characters only. -/
theorem isInner_of {p : Char → Bool} (hp : outerSigns.all (fun c => !p c) = true)
    (h : p c = true) : isInner c = true := by
  by_contra houter
  have hmem : c ∈ outerSigns := by simpa [isInner] using houter
  have := List.all_eq_true.mp hp c hmem
  simp [h] at this

theorem not_isLayout_of_inner (h : isInner c = true) : isLayout c = false := by
  by_contra hc
  have houter : isInner c = false :=
    of_isLayout (p := fun c => isInner c = false) (by decide) (by simpa using hc)
  rw [h] at houter
  cases houter

variable {digit : Char → Bool}

theorem digitTail_digit (hc : c ≠ '_') (hdigit : digit c = true) (s : List Char) :
    digitTail digit (c :: s) = (digitTail digit s).map fun (ds, r) => (c :: ds, r) := by
  rw [digitTail.eq_def]
  split
  · rename_i h
    cases h
  · rename_i h
    exact absurd (List.cons.inj h).1 hc
  · rename_i h
    exact absurd (List.cons.inj h).1 hc
  · rename_i h
    obtain ⟨rfl, rfl⟩ := List.cons.inj h
    rw [if_pos hdigit]

/-- Without a digit behind it, an underscore is in no numeral. -/
theorem digitTail_underscore (h : s.head?.any digit = false) :
    digitTail digit ('_' :: s) = none := by
  cases s with
  | nil => rfl
  | cons c s =>
    have hc : digit c = false := h
    rw [digitTail, hc]
    rfl

theorem digitTail_stop (h : s.head?.any digit = false) (hs : s.head? ≠ some '_') :
    digitTail digit s = some ([], s) := by
  cases s with
  | nil => rfl
  | cons c s =>
    have hc : digit c = false := h
    rw [digitTail.eq_def]
    split
    · rename_i h
      cases h
    · rename_i h
      exact absurd (congrArg List.head? h) hs
    · rename_i h
      exact absurd (congrArg List.head? h) hs
    · rename_i h
      obtain ⟨rfl, rfl⟩ := List.cons.inj h
      rw [hc]
      rfl

theorem digitTail_alike (hdigit : ∀ c, digit c = true → isInner c = true) (s : List Char) :
    ReadsAlike (fun _ => True) s (digitTail digit s) (digitTail digit (condense s)) := by
  have hlayout (c : Char) (hc : isLayout c = true) : digit c = false := by
    by_contra h
    have := not_isLayout_of_inner (hdigit c (by simpa using h))
    simp [hc] at this
  have hhead (s : List Char) : (condense s).head?.any digit = s.head?.any digit :=
    any_head_condense (fun c hc => (hlayout c hc).trans (hlayout ' ' isLayout_space).symm) s
  fun_induction digitTail digit s with
  | case1 => exact .start trivial _
  | case2 => exact .none _
  | case3 c rest hc ih =>
    have hinner := hdigit c hc
    rw [condense_cons (by decide), condense_cons (not_isLayout_of_inner hinner), digitTail,
      if_pos hc]
    refine ReadsAlike.cons (by decide) (ReadsAlike.cons hinner ?_)
    exact ih.map fun _ _ => trivial
  | case4 c rest hc =>
    rw [condense_cons (by decide), digitTail_underscore]
    · exact .none _
    · rw [hhead]
      simpa using hc
  | case5 c rest hend hmore hc ih =>
    have hne : c ≠ '_' := by
      cases rest with
      | nil => exact fun h => hend h rfl
      | cons d rest => exact fun h => hmore d rest h rfl
    have hinner := hdigit c hc
    rw [condense_cons (not_isLayout_of_inner hinner), digitTail_digit hne hc]
    refine ReadsAlike.cons hinner ?_
    exact ih.map fun _ _ => trivial
  | case6 c rest hend hmore hc =>
    have hne : c ≠ '_' := by
      cases rest with
      | nil => exact fun h => hend h rfl
      | cons d rest => exact fun h => hmore d rest h rfl
    rw [digitTail_stop (s := condense (c :: rest))]
    · exact .start trivial _
    · rw [hhead]
      simpa using hc
    · intro h
      obtain ⟨r, hr⟩ := List.head?_eq_some_iff.mp h
      obtain ⟨s', hs', -⟩ := of_condense_cons (by decide) hr
      exact hne (List.cons.inj hs').1

def joiningWords : List (List Char) :=
  [['a', 'n', 'd'], ['e', 'l', 's', 'e'], ['f', 'o', 'r'], ['i', 'f'], ['i', 'n'], ['i', 's'],
    ['n', 'o', 't'], ['o', 'r']]

theorem numeralEnds_iff : numeralEnds s = true ↔
    (∃ w ∈ joiningWords, w <+: s) ∨ s.head?.any continuesName = false := by
  constructor
  · intro h
    unfold numeralEnds at h
    split at h
    case h_1 => exact .inl ⟨['a', 'n', 'd'], by decide, List.prefix_append _ _⟩
    case h_2 => exact .inl ⟨['e', 'l', 's', 'e'], by decide, List.prefix_append _ _⟩
    case h_3 => exact .inl ⟨['f', 'o', 'r'], by decide, List.prefix_append _ _⟩
    case h_4 => exact .inl ⟨['i', 'f'], by decide, List.prefix_append _ _⟩
    case h_5 => exact .inl ⟨['i', 'n'], by decide, List.prefix_append _ _⟩
    case h_6 => exact .inl ⟨['i', 's'], by decide, List.prefix_append _ _⟩
    case h_7 => exact .inl ⟨['n', 'o', 't'], by decide, List.prefix_append _ _⟩
    case h_8 => exact .inl ⟨['o', 'r'], by decide, List.prefix_append _ _⟩
    case h_9 => exact .inr (by simpa using h)
    case h_10 => exact .inr rfl
  · rintro (⟨w, hw, r, rfl⟩ | h)
    · simp only [joiningWords, List.mem_cons, List.not_mem_nil, or_false] at hw
      rcases hw with rfl | rfl | rfl | rfl | rfl | rfl | rfl | rfl <;> rfl
    · unfold numeralEnds
      split
      case h_9 => simpa using h
      all_goals rfl

theorem continuesName_of_isLayout (h : isLayout c = true) : continuesName c = false :=
  of_isLayout (p := fun c => continuesName c = false) (by decide) h

theorem numeralEnds_condense (s : List Char) : numeralEnds (condense s) = numeralEnds s := by
  have htight : ∀ w ∈ joiningWords, Tight w := by decide
  have hhead : (condense s).head?.any continuesName = s.head?.any continuesName :=
    any_head_condense (fun c hc => (continuesName_of_isLayout hc).trans (by decide)) s
  rw [Bool.eq_iff_iff, numeralEnds_iff, numeralEnds_iff, hhead]
  refine or_congr_left (exists_congr fun w => and_congr_right fun hw => ?_)
  exact prefix_condense (htight w hw)

theorem finishNumeral_alike {token : Token} (h : NoBracket token) (s : List Char) :
    ReadsAlike NoBracket s (finishNumeral token s) (finishNumeral token (condense s)) := by
  unfold finishNumeral
  rw [numeralEnds_condense]
  split
  · exact .start h s
  · exact .none s

def basedDigits? (base : Nat) (digit : Char → Bool) (s : List Char) :
    Option (Token × List Char) :=
  if s.head? = some '_' then none
  else match digitTail digit s with
  | some (c :: ds, rest) =>
    finishNumeral (.natural ((c :: ds).foldl (fun n d => base * n + hexValue d) 0)) rest
  | _ => none

theorem basedDigits?_alike (hdigit : ∀ c, digit c = true → isInner c = true) (base : Nat)
    (s : List Char) :
    ReadsAlike NoBracket s (basedDigits? base digit s) (basedDigits? base digit (condense s)) := by
  unfold basedDigits?
  rw [if_congr (condense_head_eq (by decide)) rfl rfl]
  split
  · exact .none s
  · have h := digitTail_alike hdigit s
    generalize digitTail digit s = o, digitTail digit (condense s) = o' at h ⊢
    cases h with
    | none => exact .none s
    | @some _ hw ds _ rest =>
      cases ds with
      | nil => exact .none _
      | cons c ds => exact (finishNumeral_alike (fun _ => rfl) rest).append hw

theorem basedNumeral?_of_ne (h : s.head? ≠ some '_') (base : Nat) :
    basedNumeral? base digit s = basedDigits? base digit s := by
  unfold basedNumeral?
  split
  · exact absurd rfl h
  · rfl

theorem basedNumeral?_alike (hdigit : ∀ c, digit c = true → isInner c = true) (base : Nat)
    (s : List Char) :
    ReadsAlike NoBracket s (basedNumeral? base digit s) (basedNumeral? base digit (condense s)) := by
  by_cases h : s.head? = some '_'
  · obtain ⟨s, rfl⟩ := List.head?_eq_some_iff.mp h
    rw [condense_cons (by decide)]
    exact (basedDigits?_alike hdigit base s).cons (by decide)
  · rw [basedNumeral?_of_ne h, basedNumeral?_of_ne (mt (condense_head_eq (by decide)).mp h)]
    exact basedDigits?_alike hdigit base s

def orImaginary (allowed : Bool) (s : List Char) (other : Option (Token × List Char)) :
    Option (Token × List Char) :=
  if s.head? = some 'j' || s.head? = some 'J' then
    if allowed then finishNumeral .imaginary (s.drop 1) else none
  else other

theorem orImaginary_of_ne {allowed : Bool} {o : Option (Token × List Char)}
    (hj : s.head? ≠ some 'j') (hJ : s.head? ≠ some 'J') : orImaginary allowed s o = o := by
  simp [orImaginary, hj, hJ]

theorem orImaginary_alike {o o' : Option (Token × List Char)} (allowed : Bool)
    (h : ReadsAlike NoBracket s o o') :
    ReadsAlike NoBracket s (orImaginary allowed s o) (orImaginary allowed (condense s) o') := by
  by_cases hmark : s.head? = some 'j' ∨ s.head? = some 'J'
  · obtain ⟨c, rest, rfl, hc⟩ : ∃ c rest, s = c :: rest ∧ (c = 'j' ∨ c = 'J') := by
      rcases hmark with hmark | hmark
      · exact (List.head?_eq_some_iff.mp hmark).elim fun r hr => ⟨_, r, hr, .inl rfl⟩
      · exact (List.head?_eq_some_iff.mp hmark).elim fun r hr => ⟨_, r, hr, .inr rfl⟩
    have hinner : isInner c = true := by rcases hc with rfl | rfl <;> decide
    rw [condense_cons (not_isLayout_of_inner hinner)]
    unfold orImaginary
    have hcond (r : List Char) :
        ((c :: r).head? = some 'j' || (c :: r).head? = some 'J') = true := by simpa using hc
    rw [if_pos (hcond _), if_pos (hcond _)]
    cases allowed with
    | false => exact .none _
    | true => exact (finishNumeral_alike (fun _ => rfl) rest).cons hinner
  · unfold orImaginary
    simp only [condense_head_eq (show isLayout 'j' = false by decide),
      condense_head_eq (show isLayout 'J' = false by decide)]
    rw [if_neg (by simpa using hmark), if_neg (by simpa using hmark)]
    exact h

def plainDecimal (whole places : List Char) (pointed : Bool) (s : List Char) :
    Option (Token × List Char) :=
  let mantissa := decimalNatural (whole ++ places)
  if pointed then finishNumeral (.decimal ⟨mantissa, 0 - places.length⟩) s
  else if whole.head? = some '0' && whole.any (· ≠ '0') then none
  else if mantissa ≠ 0 && digitLimit < whole.length then none
  else finishNumeral (.natural mantissa) s

theorem plainDecimal_alike (whole places : List Char) (pointed : Bool) (s : List Char) :
    ReadsAlike NoBracket s (plainDecimal whole places pointed s)
      (plainDecimal whole places pointed (condense s)) := by
  unfold plainDecimal
  dsimp only
  split
  · exact finishNumeral_alike (fun _ => rfl) s
  · split
    · exact .none s
    · split
      · exact .none s
      · exact finishNumeral_alike (fun _ => rfl) s

def exponent? (token : Nat → Token) (s : List Char) : Option (Token × List Char) :=
  (digitTail isAsciiDigit s).bind fun (ds, rest) =>
    orImaginary (ds ≠ []) rest (finishNumeral (token (decimalNatural ds)) rest)

theorem isInner_of_isAsciiDigit (h : isAsciiDigit c = true) : isInner c = true :=
  isInner_of (by decide) h

theorem exponent?_alike {token : Nat → Token} (h : ∀ e, NoBracket (token e)) (s : List Char) :
    ReadsAlike NoBracket s (exponent? token s) (exponent? token (condense s)) :=
  (digitTail_alike (fun _ => isInner_of_isAsciiDigit) s).bind fun _ rest _ =>
    orImaginary_alike _ (finishNumeral_alike (h _) rest)

theorem exponent?_eq (token : Nat → Token) (s : List Char) :
    exponent? token s =
      match digitTail isAsciiDigit s with
      | none => none
      | some (ds, 'j' :: rest) => if ds = [] then none else finishNumeral .imaginary rest
      | some (ds, 'J' :: rest) => if ds = [] then none else finishNumeral .imaginary rest
      | some (ds, rest) => finishNumeral (token (decimalNatural ds)) rest := by
  unfold exponent?
  rcases digitTail isAsciiDigit s with _ | ⟨ds, rest⟩
  · rfl
  · rw [Option.bind_some]
    dsimp only
    split
    · rename_i h
      cases h
    · rename_i h
      obtain ⟨rfl, rfl⟩ := Prod.mk.inj (Option.some.inj h)
      cases ds <;> rfl
    · rename_i h
      obtain ⟨rfl, rfl⟩ := Prod.mk.inj (Option.some.inj h)
      cases ds <;> rfl
    · rename_i hj hJ h
      obtain ⟨rfl, rfl⟩ := Prod.mk.inj (Option.some.inj h)
      refine orImaginary_of_ne (fun hhead => ?_) fun hhead => ?_
      · obtain ⟨r, rfl⟩ := List.head?_eq_some_iff.mp hhead
        exact hj _ rfl
      · obtain ⟨r, rfl⟩ := List.head?_eq_some_iff.mp hhead
        exact hJ _ rfl

def scaled (whole places : List Char) (negative : Bool) (e : Nat) : Token :=
  .decimal ⟨decimalNatural (whole ++ places), (if negative then -(e : Int) else e) - places.length⟩

def markedDecimal (whole places : List Char) (pointed : Bool) (s : List Char) :
    Option (Token × List Char) :=
  match s with
  | c :: d :: rest =>
    if c = 'e' || c = 'E' then
      if isAsciiDigit d then exponent? (scaled whole places false) (d :: rest)
      else if d = '+' || d = '-' then
        if rest.head?.any isAsciiDigit then exponent? (scaled whole places (d = '-')) rest
        else none
      else plainDecimal whole places pointed s
    else plainDecimal whole places pointed s
  | _ => plainDecimal whole places pointed s

theorem finishDecimal_eq (whole places : List Char) (pointed : Bool) (s : List Char) :
    finishDecimal whole places pointed s =
      orImaginary true s (markedDecimal whole places pointed s) := by
  unfold finishDecimal
  dsimp only
  split
  · rfl
  · rfl
  · rfl
  · rename_i c rest hj hJ
    rw [orImaginary_of_ne (by simpa using hj) (by simpa using hJ)]
    cases rest with
    | nil => split <;> rfl
    | cons d rest =>
      unfold markedDecimal
      dsimp only
      split
      · split
        · exact (exponent?_eq (scaled whole places false) (d :: rest)).symm
        · split
          · split
            · exact (exponent?_eq (scaled whole places (d = '-')) rest).symm
            · rfl
          · rfl
      · rfl

theorem isAsciiDigit_of_isLayout (h : isLayout c = true) : isAsciiDigit c = false :=
  of_isLayout (p := fun c => isAsciiDigit c = false) (by decide) h

/-- No layout stands between the mark of an exponent and its digits. -/
theorem markedDecimal_of_plain {whole places : List Char} {pointed : Bool}
    (h : ∀ c d rest, s = c :: d :: rest → c = 'e' ∨ c = 'E' →
      isAsciiDigit d = false ∧ d ≠ '+' ∧ d ≠ '-') :
    markedDecimal whole places pointed s = plainDecimal whole places pointed s := by
  unfold markedDecimal
  split
  · rename_i c d rest
    split
    · rename_i hc
      obtain ⟨hdigit, hplus, hminus⟩ := h c d rest rfl (by simpa using hc)
      simp [hdigit, hplus, hminus]
    · rfl
  · rfl

theorem markedDecimal_alike (whole places : List Char) (pointed : Bool) (s : List Char) :
    ReadsAlike NoBracket s (markedDecimal whole places pointed s)
      (markedDecimal whole places pointed (condense s)) := by
  have hplain := plainDecimal_alike whole places pointed s
  by_cases hmark : ∃ c d rest, s = c :: d :: rest ∧ (c = 'e' ∨ c = 'E') ∧ isLayout d = false
  · obtain ⟨c, d, rest, rfl, hc, hd⟩ := hmark
    have hinner : isInner c = true := by rcases hc with rfl | rfl <;> decide
    have hmark : (c = 'e' || c = 'E') = true := by simpa using hc
    have hdigits : (condense rest).head?.any isAsciiDigit = rest.head?.any isAsciiDigit :=
      any_head_condense (fun c hc => (isAsciiDigit_of_isLayout hc).trans (by decide)) rest
    rw [condense_cons (not_isLayout_of_inner hinner), condense_cons hd] at hplain ⊢
    simp only [markedDecimal, if_pos hmark, hdigits]
    split
    · rw [← condense_cons hd]
      exact (exponent?_alike (fun _ _ => rfl) _).cons hinner
    · split
      · rename_i hsign
        split
        · have hsigned : isInner d = true := by
            rcases (by simpa using hsign : d = '+' ∨ d = '-') with rfl | rfl <;> decide
          exact ((exponent?_alike (fun _ _ => rfl) rest).cons hsigned).cons hinner
        · exact .none _
      · exact hplain
  · have hnone {d : Char} (hd : isLayout d = true) :
        isAsciiDigit d = false ∧ d ≠ '+' ∧ d ≠ '-' :=
      of_isLayout (p := fun d => isAsciiDigit d = false ∧ d ≠ '+' ∧ d ≠ '-') (by decide) hd
    rw [markedDecimal_of_plain, markedDecimal_of_plain]
    · exact hplain
    · intro c d rest hs hc
      have htight : isLayout c = false := by rcases hc with rfl | rfl <;> decide
      obtain ⟨s', rfl, hs'⟩ := of_condense_cons htight hs
      cases s' with
      | nil => cases hs'
      | cons d' s' =>
        cases hd : isLayout d' with
        | false => exact absurd ⟨c, d', s', rfl, hc, hd⟩ hmark
        | true =>
          obtain ⟨r, hr⟩ := condense_of_layout hd s'
          obtain ⟨rfl, -⟩ := List.cons.inj (hs'.trans hr)
          exact hnone isLayout_space
    · intro c d rest hs hc
      cases hd : isLayout d with
      | false => exact absurd ⟨c, d, rest, hs, hc, hd⟩ hmark
      | true => exact hnone hd

theorem finishDecimal_alike (whole places : List Char) (pointed : Bool) (s : List Char) :
    ReadsAlike NoBracket s (finishDecimal whole places pointed s)
      (finishDecimal whole places pointed (condense s)) := by
  rw [finishDecimal_eq, finishDecimal_eq]
  exact orImaginary_alike true (markedDecimal_alike whole places pointed s)

def afterWhole (whole rest : List Char) : Option (Token × List Char) :=
  if rest.head? = some '.' then
    if (rest.drop 1).head?.any isAsciiDigit then
      (digitTail isAsciiDigit (rest.drop 1)).bind fun (places, rest) =>
        finishDecimal whole places true rest
    else finishDecimal whole [] true (rest.drop 1)
  else finishDecimal whole [] false rest

theorem afterWhole_alike (whole rest : List Char) :
    ReadsAlike NoBracket rest (afterWhole whole rest) (afterWhole whole (condense rest)) := by
  unfold afterWhole
  rw [if_congr (condense_head_eq (by decide)) rfl rfl]
  by_cases hpoint : rest.head? = some '.'
  · obtain ⟨rest, rfl⟩ := List.head?_eq_some_iff.mp hpoint
    have hdigits : (condense rest).head?.any isAsciiDigit = rest.head?.any isAsciiDigit :=
      any_head_condense (fun c hc => (isAsciiDigit_of_isLayout hc).trans (by decide)) rest
    rw [if_pos hpoint, if_pos hpoint, condense_cons (by decide)]
    simp only [List.drop_succ_cons, List.drop_zero, hdigits]
    refine ReadsAlike.cons (by decide) ?_
    split
    · exact (digitTail_alike (fun _ => isInner_of_isAsciiDigit) rest).bind fun places rest _ =>
        finishDecimal_alike whole places true rest
    · exact finishDecimal_alike whole [] true rest
  · rw [if_neg hpoint, if_neg hpoint]
    exact finishDecimal_alike whole [] false rest

def decimalNumeral? (s : List Char) : Option (Token × List Char) :=
  (digitTail isAsciiDigit s).bind fun (whole, rest) => afterWhole whole rest

theorem decimalNumeral?_alike (hc : isAsciiDigit c = true) (s : List Char) :
    ReadsAlike NoBracket s (decimalNumeral? (c :: s)) (decimalNumeral? (c :: condense s)) := by
  have hne : c ≠ '_' := by
    rintro rfl
    cases hc
  unfold decimalNumeral?
  rw [digitTail_digit hne hc, digitTail_digit hne hc]
  have hdigits := digitTail_alike (fun _ => isInner_of_isAsciiDigit) s
  have hwhole := hdigits.map (Q := fun _ => True) (f := (c :: ·)) fun _ _ => trivial
  exact hwhole.bind fun whole rest _ => afterWhole_alike whole rest

def baseMarks : List Char := ['x', 'X', 'o', 'O', 'b', 'B']

theorem numeral?_of_unmarked (h : ∀ m rest, s = '0' :: m :: rest → m ∉ baseMarks)
    (hpoint : s.head? ≠ some '.') : numeral? s = decimalNumeral? s := by
  unfold numeral?
  split
  case h_7 => exact absurd rfl hpoint
  case h_8 =>
    refine congrArg (Option.bind _) (funext fun ⟨whole, rest⟩ => ?_)
    unfold afterWhole
    dsimp only
    split
    · rename_i c rest'
      rw [if_pos (show ('.' :: c :: rest').head? = some '.' from rfl)]
      rfl
    · rfl
    · rename_i hmore hend
      rw [if_neg]
      intro hhead
      obtain ⟨rest', rfl⟩ := List.head?_eq_some_iff.mp hhead
      cases rest' with
      | nil => exact hend rfl
      | cons c rest' => exact hmore c rest' rfl
  all_goals exact absurd (by decide) (h _ _ rfl)

theorem marked_alike {m : Char} (hm : m ∈ baseMarks) (rest : List Char) :
    ReadsAlike NoBracket (m :: rest) (numeral? ('0' :: m :: rest))
      (numeral? ('0' :: m :: condense rest)) := by
  have hhex : ∀ c, isHexDigit c = true → isInner c = true := fun c => isInner_of (by decide)
  have hoctal : ∀ c : Char, ('0' ≤ c && c ≤ '7') = true → isInner c = true :=
    fun c => isInner_of (p := fun c => '0' ≤ c && c ≤ '7') (by decide)
  have hbinary : ∀ c : Char, (c = '0' || c = '1') = true → isInner c = true :=
    fun c => isInner_of (p := fun c => c = '0' || c = '1') (by decide)
  simp only [baseMarks, List.mem_cons, List.not_mem_nil, or_false] at hm
  rcases hm with rfl | rfl | rfl | rfl | rfl | rfl
  · exact (basedNumeral?_alike hhex 16 rest).cons (by decide)
  · exact (basedNumeral?_alike hhex 16 rest).cons (by decide)
  · exact (basedNumeral?_alike hoctal 8 rest).cons (by decide)
  · exact (basedNumeral?_alike hoctal 8 rest).cons (by decide)
  · exact (basedNumeral?_alike hbinary 2 rest).cons (by decide)
  · exact (basedNumeral?_alike hbinary 2 rest).cons (by decide)

/-- Behind its first character, a numeral is read alike in a text and in the text condensed. -/
theorem numeral?_alike (hc : isAsciiDigit c = true ∨ c = '.') (s : List Char) :
    ReadsAlike NoBracket s (numeral? (c :: s)) (numeral? (c :: condense s)) := by
  have htight : Tight baseMarks := by decide
  by_cases hpoint : c = '.'
  · subst hpoint
    exact (digitTail_alike (fun _ => isInner_of_isAsciiDigit) s).bind fun places rest _ =>
      finishDecimal_alike [] places true rest
  by_cases hmark : ∃ m rest, c :: s = '0' :: m :: rest ∧ m ∈ baseMarks
  · obtain ⟨m, rest, hs, hm⟩ := hmark
    obtain ⟨rfl, rfl⟩ := List.cons.inj hs
    rw [condense_cons (htight m hm)]
    exact marked_alike hm rest
  · rw [numeral?_of_unmarked (fun m rest hs hm => hmark ⟨m, rest, hs, hm⟩) (by simpa using hpoint),
      numeral?_of_unmarked ?_ (by simpa using hpoint)]
    · exact decimalNumeral?_alike (hc.resolve_right hpoint) s
    · intro m rest hs hm
      obtain ⟨rfl, hrest⟩ := List.cons.inj hs
      obtain ⟨rest', rfl, -⟩ := of_condense_cons (htight m hm) hrest
      exact hmark ⟨m, rest', rfl, hm⟩

end CircuitConsole.Expression
