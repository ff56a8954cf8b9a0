import CircuitConsole.Proofs.Statement.CallTexts
import CircuitConsole.Proofs.Text.Spacing

/-!
Conditions as they are written in front of operations: the word, and between parentheses a register,
the sign of equality and digits, with blanks anywhere between them. A statement depends on a
condition exactly if it begins with one, whatever is behind it.
-/

namespace CircuitConsole.Statement

open Expression Text

variable {register value operation name s t b digits lead rest front : List Char} {c : Char}

inductive ConditionText (register value : List Char) : List Char → Prop
  | written (b₀ b₁ b₂ b₃ b₄ : List Char) (h₀ : ∀ c ∈ b₀, isBlank c = true)
      (h₁ : ∀ c ∈ b₁, isBlank c = true) (h₂ : ∀ c ∈ b₂, isBlank c = true)
      (h₃ : ∀ c ∈ b₃, isBlank c = true) (h₄ : ∀ c ∈ b₄, isBlank c = true)
      (hregister : isIdentifier register = true) (hvalue : ∀ c ∈ value, isDigit c = true)
      (hne : value ≠ []) :
      ConditionText register value ("if".toList ++ (b₀ ++ '(' :: (b₁ ++ (register ++ (b₂ ++
        '=' :: '=' :: (b₃ ++ (value ++ (b₄ ++ [')']))))))))

section Reading

theorem trimLeft_append_cons (hb : ∀ c ∈ b, isBlank c = true) (hc : isBlank c = false)
    (t : List Char) : trimLeft (b ++ c :: t) = c :: t := by
  rw [trimLeft_append hb, trimLeft, List.dropWhile_cons_of_neg (by simp [hc])]

theorem afterPrefix?_append (lead s : List Char) : afterPrefix? lead (lead ++ s) = some s := by
  induction lead with
  | nil => rfl
  | cons c lead ih => rwa [List.cons_append, afterPrefix?, if_pos rfl]

theorem exists_blanks (s : List Char) :
    ∃ b, (∀ c ∈ b, isBlank c = true) ∧ s = b ++ trimLeft s :=
  ⟨s.takeWhile isBlank, fun _ hc => List.mem_takeWhile_imp hc,
    (List.takeWhile_append_dropWhile).symm⟩

theorem identifier?_append_blanks (hname : isIdentifier name = true)
    (hb : ∀ c ∈ b, isBlank c = true) (hc : isWord c = false) (t : List Char) :
    identifier? (name ++ (b ++ c :: t)) = some (name, b ++ c :: t) := by
  cases b with
  | nil => exact identifier?_append hname hc t
  | cons d b =>
    refine identifier?_append hname ?_ _
    by_contra hword
    have hd := isBlank_of_isWord (by simpa using hword)
    rw [hb d (List.mem_cons_self ..)] at hd
    cases hd

theorem takeWhile_digits (hdigits : ∀ c ∈ digits, isDigit c = true)
    (hb : ∀ c ∈ b, isBlank c = true) (hc : isDigit c = false) (t : List Char) :
    (digits ++ (b ++ c :: t)).takeWhile isDigit = digits ∧
      (digits ++ (b ++ c :: t)).dropWhile isDigit = b ++ c :: t := by
  obtain ⟨d, u, hd, hu⟩ : ∃ d u, isDigit d = false ∧ b ++ c :: t = d :: u := by
    cases b with
    | nil => exact ⟨c, t, hc, rfl⟩
    | cons d b =>
      refine ⟨d, b ++ c :: t, ?_, rfl⟩
      by_contra hdigit
      have hsolid := isBlank_of_isDigit (by simpa using hdigit)
      rw [hb d (List.mem_cons_self ..)] at hsolid
      cases hsolid
  rw [hu, List.takeWhile_append_of_pos hdigits, List.dropWhile_append_of_pos hdigits,
    List.takeWhile_cons_of_neg (by simp [hd]), List.dropWhile_cons_of_neg (by simp [hd]),
    List.append_nil]
  exact ⟨rfl, rfl⟩

end Reading

/-- What is read as a condition and an operation begins with a condition as it is written. -/
theorem exists_conditionText (h : conditional? s = some (register, value, operation)) :
    ∃ lead rest, ConditionText register value lead ∧ s = lead ++ rest ∧ rest ≠ [] ∧
      operation = trim rest := by
  unfold conditional? at h
  obtain ⟨r₀, hif, h⟩ := Option.bind_eq_some_iff.mp h
  obtain ⟨r₁, hopen, h⟩ := Option.bind_eq_some_iff.mp h
  obtain ⟨⟨name, r₂⟩, hname, h⟩ := Option.bind_eq_some_iff.mp h
  obtain ⟨r₃, hsign, h⟩ := Option.bind_eq_some_iff.mp h
  obtain ⟨r₄, hclose, h⟩ := Option.bind_eq_some_iff.mp h
  dsimp only at h
  split at h
  · cases h
  · rename_i hne
    cases h
    simp only [Bool.or_eq_true, decide_eq_true_eq, not_or] at hne
    obtain ⟨b₀, h₀, hr₀⟩ := exists_blanks r₀
    obtain ⟨b₁, h₁, hr₁⟩ := exists_blanks r₁
    obtain ⟨b₂, h₂, hr₂⟩ := exists_blanks r₂
    obtain ⟨b₃, h₃, hr₃⟩ := exists_blanks r₃
    obtain ⟨b₄, h₄, hr₄⟩ := exists_blanks ((trimLeft r₃).dropWhile isDigit)
    obtain ⟨hidentifier, hregister⟩ := identifier?_eq_some hname
    rw [afterPrefix?_eq_some hopen] at hr₀
    rw [hidentifier] at hr₁
    rw [afterPrefix?_eq_some hsign] at hr₂
    rw [afterPrefix?_eq_some hclose] at hr₄
    rw [← List.takeWhile_append_dropWhile (p := isDigit) (l := trimLeft r₃), hr₄] at hr₃
    have hdigits : ∀ c ∈ (trimLeft r₃).takeWhile isDigit, isDigit c = true :=
      fun c hc => List.mem_takeWhile_imp hc
    refine ⟨_, r₄, .written b₀ b₁ b₂ b₃ b₄ h₀ h₁ h₂ h₃ h₄ hregister hdigits hne.1, ?_, hne.2, rfl⟩
    generalize (trimLeft r₃).takeWhile isDigit = digits at hr₃
    rw [afterPrefix?_eq_some hif, hr₀, hr₁, hr₂, hr₃]
    simp

/-- A condition as it is written is read, with what is behind it. -/
theorem conditional?_append (h : ConditionText register value lead) (hrest : rest ≠ []) :
    conditional? (lead ++ rest) = some (register, value, trim rest) := by
  obtain ⟨b₀, b₁, b₂, b₃, b₄, h₀, h₁, h₂, h₃, h₄, hregister, hvalue, hne⟩ := h
  have hspace {b : List Char} (c : Char) (hc : isBlank c = false) (hb : ∀ c ∈ b, isBlank c = true)
      (t : List Char) : trimLeft (b ++ c :: t) = c :: t := trimLeft_append_cons hb hc t
  obtain ⟨a, more, rfl⟩ : ∃ a more, register = a :: more := by
    cases register with
    | nil => cases hregister
    | cons a more => exact ⟨a, more, rfl⟩
  obtain ⟨d, digits, rfl⟩ := List.exists_cons_of_ne_nil hne
  have ha : isBlank a = false := isBlank_of_isWord (isWord_of_isIdentifier hregister a (by simp))
  have hd : isBlank d = false := isBlank_of_isDigit (hvalue d (by simp))
  obtain ⟨htake, hdrop⟩ := takeWhile_digits hvalue h₄ (c := ')') (by decide) rest
  have hname := identifier?_append_blanks hregister h₂ (c := '=') (by decide)
    ('=' :: (b₃ ++ (d :: digits ++ (b₄ ++ ')' :: rest))))
  have hif := afterPrefix?_append "if".toList
  have hopen := afterPrefix?_append ['(']
  have hsign := afterPrefix?_append ['=', '=']
  have hclose := afterPrefix?_append [')']
  simp only [List.cons_append, List.nil_append] at hopen hsign hclose hname htake hdrop
  have hwhole : "if".toList ++ (b₀ ++ '(' :: (b₁ ++ (a :: more ++ (b₂ ++
      '=' :: '=' :: (b₃ ++ (d :: digits ++ (b₄ ++ [')'])))))))  ++ rest =
    "if".toList ++ (b₀ ++ '(' :: (b₁ ++ a :: (more ++ (b₂ ++
      '=' :: '=' :: (b₃ ++ d :: (digits ++ (b₄ ++ ')' :: rest))))))) := by simp
  rw [hwhole]
  unfold conditional?
  simp only [hif, hspace '(' (by decide) h₀, hopen, hspace a ha h₁, hname,
    hspace '=' (by decide) h₂, hsign, hspace d hd h₃, htake, hdrop, hspace ')' (by decide) h₄,
    hclose, Option.bind_eq_bind, Option.bind_some]
  simp [hrest]

/-- A statement depends on a condition exactly if it begins with one and goes on behind it. -/
theorem conditional?_eq_some_iff : conditional? s = some (register, value, operation) ↔
    ∃ lead rest, ConditionText register value lead ∧ s = lead ++ rest ∧ rest ≠ [] ∧
      operation = trim rest := by
  constructor
  · exact exists_conditionText
  · rintro ⟨lead, rest, hlead, rfl, hrest, rfl⟩
    exact conditional?_append hlead hrest

/-- No other form of statements begins with the word of a condition. -/
theorem form_of_eq_conditional_iff : Form.of s = .conditional register value operation ↔
    conditional? (tidy s) = some (register, value, operation) := by
  constructor
  · intro h
    have hreading := form_reading s
    rw [h] at hreading
    cases hreading with
    | conditional hconditional => exact hconditional
  · intro h
    obtain ⟨u, hu⟩ : ∃ u, tidy s = 'i' :: 'f' :: u := by
      obtain ⟨lead, rest, ⟨b₀, b₁, b₂, b₃, b₄⟩, hs, -, -⟩ := conditional?_eq_some_iff.mp h
      exact ⟨_, hs⟩
    have hheader : isHeader ('i' :: 'f' :: u) = false := rfl
    have hinclude : isInclude ('i' :: 'f' :: u) = false := rfl
    have hdeclaration : declaration? ('i' :: 'f' :: u) = none := rfl
    have hdefinition : definition? ('i' :: 'f' :: u) = none := rfl
    rw [hu] at h
    unfold Form.of
    simp only [hu, hheader, hinclude, hdeclaration, hdefinition, h, Bool.or_self,
      Bool.false_eq_true, if_false]

section Guards

variable {guard : Option (List Char × List Char)}

/-- What is in front of an operation that is a statement: nothing, or a condition and blanks. -/
inductive Front : Option (List Char × List Char) → List Char → Prop
  | bare : Front none []
  | conditional (register value lead b : List Char) (hlead : ConditionText register value lead)
      (hb : ∀ c ∈ b, isBlank c = true) : Front (some (register, value)) (lead ++ b)

/-- Trimmed behind blanks only, a text with single spaces loses just these. -/
theorem exists_blanks_of_spaced (hspaced : Spaced (lead ++ rest)) :
    ∃ b, (∀ c ∈ b, isBlank c = true) ∧ rest = b ++ trim rest := by
  obtain ⟨b, b', hb, hb', hrest⟩ := exists_blanks_trim rest
  rw [hrest, ← List.append_assoc, ← List.append_assoc] at hspaced
  obtain rfl := hspaced.blanks_end hb'
  rw [List.append_nil] at hrest
  exact ⟨b, hb, hrest⟩

/-- What is in front of the operation of a tidy statement. -/
theorem front_of_form (hform : Form.of s = operationForm guard t) (hs : tidy s = front ++ t)
    (hspaced : Spaced (front ++ t)) : Front guard front ∧ Spaced t := by
  cases guard with
  | none =>
    have ht : t = tidy s := by
      have hreading := form_reading s
      rw [hform, operationForm] at hreading
      cases hreading
      rfl
    have hfront : front ++ t = [] ++ t := hs.symm.trans ht.symm
    obtain rfl := List.append_cancel_right hfront
    exact ⟨.bare, hspaced⟩
  | some p =>
    obtain ⟨register, value⟩ := p
    obtain ⟨lead, rest, hlead, hrest, -, rfl⟩ :=
      conditional?_eq_some_iff.mp (form_of_eq_conditional_iff.mp hform)
    rw [hs] at hrest
    have ht := hspaced.trim_part (hrest ▸ (List.suffix_append lead rest).isInfix)
    rw [hrest] at hspaced
    obtain ⟨b, hb, hbehind⟩ := exists_blanks_of_spaced hspaced
    have hfront : front ++ trim rest = (lead ++ b) ++ trim rest := by
      rw [hrest, List.append_assoc, ← hbehind]
    obtain rfl := List.append_cancel_right hfront
    exact ⟨.conditional register value lead b hlead hb, ht⟩

/-- Another operation behind what is in front of an operation. -/
theorem Front.form_of (h : Front guard front) (hplain : Plain (front ++ t))
    (hspaced : Spaced (front ++ t)) (ht : Spaced t) (hne : t ≠ [])
    (hbare : guard = none → Form.of t = .operation t) :
    Form.of (front ++ t) = operationForm guard t := by
  cases h with
  | bare => exact hbare rfl
  | conditional register value lead b hlead hb =>
    refine form_of_eq_conditional_iff.mpr ((congrArg conditional?
      (tidy_of_spaced hplain hspaced)).trans (conditional?_eq_some_iff.mpr
        ⟨lead, b ++ t, hlead, List.append_assoc .., List.append_ne_nil_of_right_ne_nil b hne, ?_⟩))
    rw [trim_append_left hb, ht.trim_eq]

end Guards

end CircuitConsole.Statement
