import CircuitConsole.Proofs.Text.Trimming
import CircuitConsole.Proofs.Text.Words
import CircuitConsole.Text.Character
import CircuitConsole.Text.Lines

/-!
The layout of a text: its spaces, tabs and line ends. A text is condensed when every run of them has
become one space, and two texts differ only in layout when they are the same condensed. What is done
to texts by looking at other characters is done to condensed texts in the same way.
-/

namespace CircuitConsole.Text

def isLayout (c : Char) : Bool := c = ' ' || c = '\t' || c = '\n' || c = '\r'

def beginsBlank (s : List Char) : Bool := s.head?.any isLayout

def condense : List Char → List Char
  | [] => []
  | c :: rest =>
    if isLayout c then
      if beginsBlank rest then condense rest else ' ' :: condense rest
    else c :: condense rest

def Tight (s : List Char) : Prop := ∀ c ∈ s, isLayout c = false

instance (s : List Char) : Decidable (Tight s) :=
  List.decidableBAll (p := fun c => isLayout c = false) s

variable {c : Char} {s t w : List Char}

/-- There are four characters of layout. -/
theorem of_isLayout {p : Char → Prop} (hp : p ' ' ∧ p '\t' ∧ p '\n' ∧ p '\r')
    (h : isLayout c = true) : p c := by
  simp only [isLayout, Bool.or_eq_true, decide_eq_true_eq] at h
  obtain ⟨hspace, htab, hfeed, hreturn⟩ := hp
  rcases h with ((rfl | rfl) | rfl) | rfl <;> assumption

theorem isBlank_of_isLayout (h : isLayout c = true) : isBlank c = true :=
  of_isLayout (p := fun c => isBlank c = true) (by decide) h

theorem isLayout_of_solid (h : isBlank c = false) : isLayout c = false := by
  by_contra hc
  rw [isBlank_of_isLayout (by simpa using hc)] at h
  cases h

theorem isLayout_space : isLayout ' ' = true := by decide

section Ends

theorem condense_cons (hc : isLayout c = false) (s : List Char) :
    condense (c :: s) = c :: condense s := by
  rw [condense, hc]
  rfl

/-- The last of a run of layout becomes the space. -/
theorem condense_layout (hc : isLayout c = true) (s : List Char) :
    condense (c :: s) = if beginsBlank s then condense s else ' ' :: condense s := by
  rw [condense, if_pos hc]

/-- A text that begins with layout begins with a space when condensed. -/
theorem condense_of_layout (hc : isLayout c = true) (s : List Char) :
    ∃ r, condense (c :: s) = ' ' :: r := by
  induction s generalizing c with
  | nil => exact ⟨[], by rw [condense_layout hc]; rfl⟩
  | cons d s ih =>
    rw [condense_layout hc]
    split
    · rename_i hd
      exact ih hd
    · exact ⟨_, rfl⟩

/-- Condensed, a text begins with the same character or a space. -/
theorem condense_head (s : List Char) :
    (condense s).head? = s.head?.map fun c => if isLayout c then ' ' else c := by
  cases s with
  | nil => rfl
  | cons c s =>
    cases hc : isLayout c with
    | false => simp [condense_cons hc, hc]
    | true =>
      obtain ⟨r, hr⟩ := condense_of_layout hc s
      simp [hr, hc]

/-- What is told about the first character does not change if it holds of all layout or of none. -/
theorem any_head_condense {p : Char → Bool} (hp : ∀ c, isLayout c = true → p c = p ' ')
    (s : List Char) : (condense s).head?.any p = s.head?.any p := by
  rw [condense_head]
  cases s with
  | nil => rfl
  | cons c s =>
    cases hc : isLayout c with
    | false => simp [hc]
    | true => simp [hc, hp c hc]

theorem condense_head_eq (hc : isLayout c = false) :
    (condense s).head? = some c ↔ s.head? = some c := by
  have hspace : ' ' ≠ c := by
    rintro rfl
    cases hc
  rw [condense_head]
  cases s with
  | nil => simp
  | cons d s =>
    cases hd : isLayout d with
    | false => simp [hd]
    | true =>
      have hne : d ≠ c := by
        rintro rfl
        simp [hc] at hd
      simp [hd, hspace, hne]

theorem condense_eq_nil : condense s = [] ↔ s = [] := by
  have hhead := condense_head s
  cases s with
  | nil => exact iff_of_true rfl rfl
  | cons c s => exact iff_of_false (fun h => by simp [h] at hhead) (by simp)

/-- A character that is no layout was there before. -/
theorem of_condense_cons (hc : isLayout c = false) (h : condense s = c :: t) :
    ∃ s', s = c :: s' ∧ t = condense s' := by
  cases s with
  | nil => cases h
  | cons d s =>
    cases hd : isLayout d with
    | false =>
      rw [condense_cons hd] at h
      obtain ⟨rfl, rfl⟩ := List.cons.inj h
      exact ⟨s, rfl, rfl⟩
    | true =>
      obtain ⟨r, hr⟩ := condense_of_layout hd s
      obtain ⟨rfl, -⟩ := List.cons.inj (hr.symm.trans h)
      cases hc

/-- A character that is no layout parts a text, condensed or not. -/
theorem condense_append_cons (hc : isLayout c = false) (s t : List Char) :
    condense (s ++ c :: t) = condense s ++ c :: condense t := by
  induction s with
  | nil => exact condense_cons hc t
  | cons d s ih =>
    cases hd : isLayout d with
    | false => simp only [List.cons_append, condense_cons hd, ih]
    | true =>
      rw [List.cons_append, condense_layout hd, condense_layout hd, ih]
      have hbegins : beginsBlank (s ++ c :: t) = beginsBlank s := by
        cases s with
        | nil => exact hc
        | cons e s => rfl
      rw [hbegins]
      split <;> rfl

theorem tight_nil : Tight [] := List.forall_mem_nil _

theorem condense_of_tight (h : Tight s) : condense s = s := by
  induction s with
  | nil => rfl
  | cons c s ih =>
    obtain ⟨hc, hs⟩ := List.forall_mem_cons.mp h
    rw [condense_cons hc, ih hs]

theorem condense_tight_append (h : Tight w) (s : List Char) :
    condense (w ++ s) = w ++ condense s := by
  induction w with
  | nil => rfl
  | cons c w ih =>
    obtain ⟨hc, hw⟩ := List.forall_mem_cons.mp h
    rw [List.cons_append, condense_cons hc, ih hw, List.cons_append]

/-- Layout behind layout is lost, and any other becomes a space. -/
theorem condense_concat_layout (hc : isLayout c = true) (s : List Char) :
    condense (s ++ [c]) =
      if s.getLast?.any isLayout then condense s else condense s ++ [' '] := by
  induction s with
  | nil => rw [List.nil_append, condense_layout hc]; rfl
  | cons d s ih =>
    cases s with
    | nil =>
      cases hd : isLayout d with
      | false =>
        have hlast : ([d] : List Char).getLast?.any isLayout = false := hd
        rw [hlast, List.cons_append, condense_cons hd, condense_cons hd, List.nil_append,
          condense_layout hc]
        rfl
      | true => simp [condense_layout hd, condense_layout hc, hc, hd, beginsBlank]
    | cons e s =>
      rw [List.getLast?_cons_cons]
      cases hd : isLayout d with
      | false =>
        rw [List.cons_append, condense_cons hd, condense_cons hd, ih]
        split <;> rfl
      | true =>
        have hbegins : beginsBlank ((e :: s) ++ [c]) = beginsBlank (e :: s) := rfl
        rw [List.cons_append, condense_layout hd, condense_layout hd, hbegins, ih]
        split <;> split <;> rfl

theorem condense_reverse (s : List Char) : condense s.reverse = (condense s).reverse := by
  induction s with
  | nil => rfl
  | cons c s ih =>
    rw [List.reverse_cons]
    cases hc : isLayout c with
    | false => rw [condense_append_cons hc, condense_cons hc, ih, List.reverse_cons]; rfl
    | true =>
      rw [condense_concat_layout hc, condense_layout hc, ih, List.getLast?_reverse]
      change (if beginsBlank s = true then _ else _) = _
      split <;> simp

theorem mem_condense (hc : isLayout c = false) : c ∈ condense s ↔ c ∈ s := by
  induction s with
  | nil => exact Iff.rfl
  | cons d s ih =>
    cases hd : isLayout d with
    | false => rw [condense_cons hd, List.mem_cons, List.mem_cons, ih]
    | true =>
      have hne : c ≠ d := by
        rintro rfl
        rw [hc] at hd
        cases hd
      have hspace : c ≠ ' ' := by
        rintro rfl
        cases hc
      rw [condense_layout hd]
      split <;> simp [ih, hne, hspace]

/-- The only layout in a condensed text is the space. -/
theorem eq_space_of_mem_condense (h : c ∈ condense s) (hc : isLayout c = true) : c = ' ' := by
  induction s with
  | nil => cases h
  | cons d s ih =>
    cases hd : isLayout d with
    | false =>
      rw [condense_cons hd] at h
      rcases List.mem_cons.mp h with rfl | h
      · rw [hc] at hd
        cases hd
      · exact ih h
    | true =>
      rw [condense_layout hd] at h
      split at h
      · exact ih h
      · exact (List.mem_cons.mp h).elim id ih

theorem space_mem_condense : ' ' ∈ condense s ↔ ∃ c ∈ s, isLayout c = true := by
  induction s with
  | nil => simp [condense]
  | cons d s ih =>
    cases hd : isLayout d with
    | false =>
      have hspace : ' ' ≠ d := by
        rintro rfl
        cases hd
      simp [condense_cons hd, ih, hd, hspace]
    | true =>
      obtain ⟨r, hr⟩ := condense_of_layout hd s
      simp [hr, hd]

/-- Only a tight text is tight condensed. -/
theorem tight_condense : Tight (condense s) ↔ Tight s := by
  constructor
  · intro h c hc
    by_contra hlayout
    have hspace := space_mem_condense.mpr ⟨c, hc, by simpa using hlayout⟩
    exact absurd (h ' ' hspace) (by decide)
  · intro h
    rwa [condense_of_tight h]

end Ends

section Parts

/-- A predicate of characters that are no layout reads a condensed text as far as the text. -/
theorem takeWhile_condense {p : Char → Bool} (hp : ∀ c, isLayout c = true → p c = false)
    (s : List Char) : (condense s).takeWhile p = s.takeWhile p := by
  induction s with
  | nil => rfl
  | cons c s ih =>
    cases hc : isLayout c with
    | false => simp only [condense_cons hc, List.takeWhile_cons, ih]
    | true =>
      obtain ⟨r, hr⟩ := condense_of_layout hc s
      simp [hr, hp c hc, hp ' ' isLayout_space]

theorem dropWhile_condense {p : Char → Bool} (hp : ∀ c, isLayout c = true → p c = false)
    (s : List Char) : (condense s).dropWhile p = condense (s.dropWhile p) := by
  induction s with
  | nil => rfl
  | cons c s ih =>
    cases hc : isLayout c with
    | false =>
      rw [condense_cons hc, List.dropWhile_cons, List.dropWhile_cons, ih]
      split
      · rfl
      · rw [condense_cons hc]
    | true =>
      obtain ⟨r, hr⟩ := condense_of_layout hc s
      simp [hr, hp c hc, hp ' ' isLayout_space]

/-- So is a text without the blanks in front of it. -/
theorem trimLeft_condense (s : List Char) : trimLeft (condense s) = condense (trimLeft s) := by
  induction s with
  | nil => rfl
  | cons c s ih =>
    unfold trimLeft at ih ⊢
    cases hblank : isBlank c with
    | false =>
      rw [condense_cons (isLayout_of_solid hblank), List.dropWhile_cons_of_neg (by simp [hblank]),
        List.dropWhile_cons_of_neg (by simp [hblank]), condense_cons (isLayout_of_solid hblank)]
    | true =>
      rw [List.dropWhile_cons_of_pos hblank, ← ih]
      cases hc : isLayout c with
      | false => rw [condense_cons hc, List.dropWhile_cons_of_pos hblank]
      | true =>
        rw [condense_layout hc]
        split
        · rfl
        · exact List.dropWhile_cons_of_pos (by decide)

theorem trim_condense (s : List Char) : trim (condense s) = condense (trim s) := by
  unfold trim trimRight
  rw [trimLeft_condense, ← condense_reverse]
  change (trimLeft _).reverse = _
  rw [trimLeft_condense, ← condense_reverse]
  rfl

theorem words_condense (s : List Char) : words (condense s) = words s := by
  induction s with
  | nil => rfl
  | cons c s ih =>
    cases hblank : isBlank c with
    | true =>
      rw [words_blank hblank, ← ih]
      cases hc : isLayout c with
      | false => rw [condense_cons hc, words_blank hblank]
      | true =>
        rw [condense_layout hc]
        split
        · rfl
        · exact words_blank (by decide) _
    | false =>
      rw [condense_cons (isLayout_of_solid hblank)]
      cases s with
      | nil => rfl
      | cons d s =>
        cases hd : isBlank d with
        | true =>
          obtain ⟨b, r, hr, hb⟩ : ∃ b r, condense (d :: s) = b :: r ∧ isBlank b = true := by
            cases hlayout : isLayout d with
            | false => exact ⟨d, _, condense_cons hlayout s, hd⟩
            | true => exact ⟨' ', _, (condense_of_layout hlayout s).choose_spec, by decide⟩
          rw [words_end hblank hd, ← ih, hr, words_end hblank hb]
        | false =>
          rw [condense_cons (isLayout_of_solid hd)] at ih ⊢
          obtain ⟨w, ws, hwords⟩ := words_cons hd s
          rw [words_extend hblank hd hwords, words_extend hblank hd (ih.trans hwords)]

theorem collapse_condense (s : List Char) : collapse (condense s) = collapse s := by
  rw [collapse, words_condense, collapse]

theorem afterPrefix?_condense {lead : List Char} (h : Tight lead) (s : List Char) :
    afterPrefix? lead (condense s) = (afterPrefix? lead s).map condense := by
  induction lead generalizing s with
  | nil => rfl
  | cons a lead ih =>
    obtain ⟨ha, hlead⟩ := List.forall_mem_cons.mp h
    cases s with
    | nil => rfl
    | cons c s =>
      cases hc : isLayout c with
      | false =>
        rw [condense_cons hc, afterPrefix?, afterPrefix?, ih hlead]
        split <;> rfl
      | true =>
        have hne : a ≠ c := fun h => by simp [h, hc] at ha
        have hspace : a ≠ ' ' := fun h => by simp [h, isLayout_space] at ha
        obtain ⟨r, hr⟩ := condense_of_layout hc s
        rw [hr, afterPrefix?, afterPrefix?, if_neg hne, if_neg hspace]
        rfl

theorem prefix_condense (h : Tight w) : w <+: condense s ↔ w <+: s := by
  induction w generalizing s with
  | nil => simp
  | cons a w ih =>
    obtain ⟨ha, hw⟩ := List.forall_mem_cons.mp h
    constructor
    · rintro ⟨r, hr⟩
      obtain ⟨s', rfl, hs'⟩ := of_condense_cons ha hr.symm
      exact List.cons_prefix_cons.mpr ⟨rfl, (ih hw).mp ⟨r, hs'⟩⟩
    · rintro ⟨r, rfl⟩
      exact ⟨condense r, (condense_tight_append h r).symm⟩

theorem infix_condense (h : Tight w) : w <:+: condense s ↔ w <:+: s := by
  have hlead (s : List Char) : w <+: condense s ↔ w <+: s := prefix_condense h
  induction s with
  | nil => rfl
  | cons c s ih =>
    rw [List.infix_cons_iff, ← hlead (c :: s)]
    cases hc : isLayout c with
    | false =>
      rw [condense_cons hc, List.infix_cons_iff]
      exact or_congr_right ih
    | true =>
      rw [condense_layout hc]
      split
      · refine ih.trans ⟨.inr, ?_⟩
        rintro (hs | hs)
        · exact ((hlead s).mp hs).isInfix
        · exact hs
      · rw [List.infix_cons_iff]
        exact or_congr_right ih

theorem afterBlanks?_eq (s : List Char) :
    afterBlanks? s = if s.head?.any isBlank then some (trimLeft s) else none := by
  cases s with
  | nil => rfl
  | cons c s =>
    rw [afterBlanks?, List.head?_cons, Option.any_some]
    split
    · rename_i hc
      rw [trimLeft, trimLeft, List.dropWhile_cons_of_pos hc]
    · rfl

theorem afterBlanks?_condense (s : List Char) :
    afterBlanks? (condense s) = (afterBlanks? s).map condense := by
  have hbegins : (condense s).head?.any isBlank = s.head?.any isBlank :=
    any_head_condense (fun _ hc => (isBlank_of_isLayout hc).trans (by decide)) s
  rw [afterBlanks?_eq, afterBlanks?_eq, hbegins, trimLeft_condense]
  split <;> rfl

theorem isWord_of_isLayout (h : isLayout c = true) : isWord c = false :=
  of_isLayout (p := fun c => isWord c = false) (by decide) h

theorem isIdentifierStart_of_isLayout (h : isLayout c = true) : isIdentifierStart c = false :=
  of_isLayout (p := fun c => isIdentifierStart c = false) (by decide) h

theorem identifier?_condense (s : List Char) :
    identifier? (condense s) = (identifier? s).map fun (name, rest) => (name, condense rest) := by
  cases s with
  | nil => rfl
  | cons c s =>
    cases hc : isLayout c with
    | false =>
      rw [condense_cons hc, identifier?, identifier?,
        takeWhile_condense fun _ => isWord_of_isLayout,
        dropWhile_condense fun _ => isWord_of_isLayout]
      split <;> rfl
    | true =>
      obtain ⟨r, hr⟩ := condense_of_layout hc s
      rw [hr, identifier?, identifier?, isIdentifierStart_of_isLayout hc]
      rfl

end Parts

section LineEnds

def isLineEnd (c : Char) : Bool := c = '\n' || c = '\r'

theorem not_mem_unifyLineEnds (s : List Char) : '\r' ∉ unifyLineEnds s := by
  fun_induction unifyLineEnds s with
  | case1 => simp
  | case2 rest ih => simpa using ih
  | case3 rest _ ih => simpa using ih
  | case4 c rest _ hc ih => simpa [Ne.symm hc] using ih

theorem unifyLineEnds_of_not_mem (h : '\r' ∉ s) : unifyLineEnds s = s := by
  fun_induction unifyLineEnds s with
  | case1 => rfl
  | case2 => simp at h
  | case3 => simp at h
  | case4 c rest _ _ ih => rw [ih fun hmem => h (List.mem_cons_of_mem _ hmem)]

theorem unifyLineEnds_condense (s : List Char) : unifyLineEnds (condense s) = condense s :=
  unifyLineEnds_of_not_mem fun h => absurd (eq_space_of_mem_condense h (by decide)) (by decide)

theorem any_head_unifyLineEnds {p : Char → Bool} (hp : p '\r' = p '\n') (s : List Char) :
    (unifyLineEnds s).head?.any p = s.head?.any p := by
  fun_cases unifyLineEnds s with
  | case1 => rfl
  | case2 => exact hp.symm
  | case3 => exact hp.symm
  | case4 => rfl

theorem any_unifyLineEnds {p : Char → Bool} (hp : p '\r' = p '\n') (s : List Char) :
    (unifyLineEnds s).any p = s.any p := by
  fun_induction unifyLineEnds s with
  | case1 => rfl
  | case2 rest ih => simp [ih, hp]
  | case3 rest _ ih => simp [ih, hp]
  | case4 c rest _ _ ih => simp [ih]

/-- Line ends of all kinds are layout. -/
theorem condense_unifyLineEnds (s : List Char) : condense (unifyLineEnds s) = condense s := by
  have hbegins (s : List Char) : beginsBlank (unifyLineEnds s) = beginsBlank s :=
    any_head_unifyLineEnds rfl s
  fun_induction unifyLineEnds s with
  | case1 => rfl
  | case2 rest ih =>
    have hfeed : beginsBlank ('\n' :: rest) = true := rfl
    rw [condense_layout (by decide), condense_layout (c := '\r') (by decide), hfeed, if_pos rfl,
      condense_layout (by decide), hbegins, ih]
  | case3 rest _ ih => rw [condense_layout (by decide), condense_layout (by decide), hbegins, ih]
  | case4 c rest _ _ ih =>
    cases hc : isLayout c with
    | false => rw [condense_cons hc, condense_cons hc, ih]
    | true => rw [condense_layout hc, condense_layout hc, hbegins, ih]

end LineEnds

end CircuitConsole.Text
