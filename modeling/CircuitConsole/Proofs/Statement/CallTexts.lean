import CircuitConsole.Proofs.Statement.Drafts
import CircuitConsole.Proofs.Statement.Forms
import CircuitConsole.Proofs.Statement.PlainTexts

/-!
Calls as they are written: a name, expressions between parentheses and references to bits. Every
other kind of statement has a word in front or a sign in it that the call of a gate lacks, unless the
gate has the name of that kind and what is behind it fits. So a call is read as a call.
-/

namespace CircuitConsole.Statement

open Expression Text

variable {name lead s t rest : List Char} {c : Char} {es as : List (List Char)}

section Words

/-- A word that something other than a word must follow is in front of a statement only if it is the
whole name there. -/
theorem keyword_bind {β : Type} {k : List Char → Option β} (hc : isWord c = false)
    (hlead : ∀ d ∈ lead, isWord d = true) (hname : ∀ d ∈ name, isWord d = true)
    (hk : ∀ d r, isWord d = true → k (d :: r) = none) :
    (afterPrefix? lead (name ++ c :: t)).bind k = if name = lead then k (c :: t) else none := by
  induction lead generalizing name with
  | nil =>
    cases name with
    | nil => rfl
    | cons d name => exact hk d _ (hname d (List.mem_cons_self ..))
  | cons a lead ih =>
    obtain ⟨ha, hlead⟩ := List.forall_mem_cons.mp hlead
    cases name with
    | nil =>
      have hne : a ≠ c := by
        rintro rfl
        rw [ha] at hc
        cases hc
      rw [List.nil_append, afterPrefix?, if_neg hne, if_neg (List.cons_ne_nil a lead).symm]
      rfl
    | cons d name =>
      have hbehind : ∀ d ∈ name, isWord d = true := fun d hd => hname d (List.mem_cons_of_mem _ hd)
      rw [List.cons_append, afterPrefix?]
      by_cases had : a = d
      · subst had
        rw [if_pos rfl, ih hlead hbehind]
        simp
      · rw [if_neg had, if_neg fun h => had (List.cons.inj h).1.symm]
        rfl

theorem keyword_blanks (hc : isWord c = false) (hlead : ∀ d ∈ lead, isWord d = true)
    (hname : ∀ d ∈ name, isWord d = true) : (afterPrefix? lead (name ++ c :: t)).bind afterBlanks? =
      if name = lead then afterBlanks? (c :: t) else none :=
  keyword_bind hc hlead hname fun d r hd => by rw [afterBlanks?, isBlank_of_isWord hd]; rfl

end Words

section Signs

theorem mem_of_conditional? {p : List Char × List Char × List Char}
    (h : conditional? s = some p) : '=' ∈ s := by
  unfold conditional? at h
  obtain ⟨rest, hif, h⟩ := Option.bind_eq_some_iff.mp h
  obtain ⟨inside, hopen, h⟩ := Option.bind_eq_some_iff.mp h
  obtain ⟨⟨name, behind⟩, hname, h⟩ := Option.bind_eq_some_iff.mp h
  obtain ⟨number, hsign, h⟩ := Option.bind_eq_some_iff.mp h
  have hmem : '=' ∈ trimLeft behind := by
    rw [afterPrefix?_eq_some hsign]
    exact List.mem_cons_self ..
  have hsuffix : trimLeft behind <:+ s :=
    (trimLeft_suffix behind).trans ((identifier?_suffix hname).trans ((trimLeft_suffix inside).trans
      ((afterPrefix?_suffix hopen).trans ((trimLeft_suffix rest).trans (afterPrefix?_suffix hif)))))
  exact hsuffix.subset hmem

theorem mem_of_aroundArrow? {p : List Char × List Char} (h : aroundArrow? s = some p) : '>' ∈ s := by
  induction s generalizing p with
  | nil => cases h
  | cons c s ih =>
    unfold aroundArrow? at h
    dsimp only at h
    split at h
    · exact List.mem_cons_of_mem _ (List.mem_cons_self ..)
    · obtain ⟨q, hq, -⟩ := Option.map_eq_some_iff.mp h
      exact List.mem_cons_of_mem c (ih hq)

theorem mem_of_measurement? {p : List Char × List Char} (h : measurement? s = some p) :
    '>' ∈ s := by
  obtain ⟨tail, before, htail, harrow, -⟩ := measurement?_eq_some h
  exact htail.subset (mem_of_aroundArrow? harrow)

theorem mem_of_definitionOf {name parameters : List Char} {form : DefinitionForm}
    (h : definitionOf name parameters s = some form) : '\x7b' ∈ s := by
  obtain ⟨p, hblock, -⟩ := Option.map_eq_some_iff.mp h
  rw [block?_eq] at hblock
  obtain ⟨q, hq, -⟩ := Option.bind_eq_some_iff.mp hblock
  rw [around?_eq_some hq]
  exact List.mem_append_right _ (List.mem_cons_self ..)

theorem mem_of_definition? {form : DefinitionForm} (h : definition? s = some form) :
    '\x7b' ∈ s := by
  obtain ⟨name, rest, -, hrest, h⟩ := definition?_eq_some h
  rcases Option.or_eq_some_iff.mp h with h | ⟨-, h⟩
  · obtain ⟨⟨parameters, behind⟩, hparameters, h⟩ := Option.bind_eq_some_iff.mp h
    obtain ⟨inside, hopen, hclose⟩ := Option.bind_eq_some_iff.mp hparameters
    have hmem : '\x7b' ∈ inside := by
      rw [around?_eq_some hclose]
      exact List.mem_append_right _ (List.mem_cons_of_mem _ (mem_of_definitionOf h))
    exact hrest.subset ((afterPrefix?_suffix hopen).subset hmem)
  · exact hrest.subset (mem_of_definitionOf h)

def registerWords : List (List Char) := ["qreg".toList, "creg".toList]

/-- Behind the word of a declaration there is a single reference with a bracket. -/
theorem declaration?_eq_some {p : RegisterKind × List Char × List Char}
    (h : declaration? s = some p) : ∃ lead ∈ registerWords, ∃ behind,
      (afterPrefix? lead s).bind afterBlanks? = some behind ∧ '[' ∈ behind ∧
      ∀ c ∈ behind, isReferenceCharacter c = true := by
  unfold declaration? at h
  obtain ⟨⟨kind, rest⟩, hkind, h⟩ := Option.bind_eq_some_iff.mp h
  obtain ⟨behind, hblank, h⟩ := Option.bind_eq_some_iff.mp h
  obtain ⟨⟨name, size⟩, hname, h⟩ := Option.bind_eq_some_iff.mp h
  obtain ⟨⟨digits, more⟩, hdigits, h⟩ := Option.bind_eq_some_iff.mp h
  have hmore : more = [] := by
    by_contra hne
    simp [hne] at h
  subst hmore
  have hbehind := mem_indexed hname hdigits
  rcases Option.or_eq_some_iff.mp hkind with hkind | ⟨-, hkind⟩
  · obtain ⟨r, hr, heq⟩ := Option.map_eq_some_iff.mp hkind
    cases heq
    exact ⟨_, List.mem_cons_self .., behind, by rw [hr]; exact hblank, hbehind⟩
  · obtain ⟨r, hr, heq⟩ := Option.map_eq_some_iff.mp hkind
    cases heq
    exact ⟨_, List.mem_cons_of_mem _ (List.mem_singleton_self _), behind,
      by rw [hr]; exact hblank, hbehind⟩

end Signs

section Calls

/-- A call as it is written. The parentheses are left out where there are no expressions. -/
def callText (name : List Char) (es as : List (List Char)) : List Char :=
  name ++ ((if es = [] then [] else '(' :: (joined es ++ [')'])) ++ ' ' :: joined as)

structure CallParts (name : List Char) (es as : List (List Char)) : Prop where
  name : isIdentifier name = true
  expressions : ∀ e ∈ es, textOpenAfter? 0 e = some 0
  solid : ∀ e ∈ es, trim e ≠ []
  references : ∀ a ∈ as, ReferenceText a
  nonempty : as ≠ []

/-- The calls that are read as statements of another kind: barriers, resets of what is referred to,
and declarations with the index as the size. -/
inductive Misread : List Char → List (List Char) → List (List Char) → Prop
  | barrier (es as : List (List Char)) : Misread "barrier".toList es as
  | reset (as : List (List Char)) : Misread "reset".toList [] as
  | register {name a : List Char} (hname : name ∈ registerWords) (ha : '[' ∈ a) :
      Misread name [] [a]

/-- The names that calls may be misread for. -/
theorem Misread.mem (h : Misread name es as) :
    name ∈ "barrier".toList :: "reset".toList :: registerWords := by
  cases h with
  | barrier => exact List.mem_cons_self ..
  | reset => exact List.mem_cons_of_mem _ (List.mem_cons_self ..)
  | register hname ha => exact List.mem_cons_of_mem _ (List.mem_cons_of_mem _ hname)

theorem callText_nil (name : List Char) (as : List (List Char)) :
    callText name [] as = name ++ ' ' :: joined as := rfl

theorem callText_of_ne_nil (name : List Char) (hes : es ≠ []) (as : List (List Char)) :
    callText name es as = name ++ '(' :: (joined es ++ ')' :: ' ' :: joined as) := by
  simp [callText, hes]

theorem mem_callText {e : List Char} (he : e ∈ es) (hc : c ∈ e) : c ∈ callText name es as := by
  have hjoined : c ∈ joined es := (infix_intercalate he).subset hc
  rw [callText_of_ne_nil _ (List.ne_nil_of_mem he)]
  simp [hjoined]

/-- A call is read as its name, what is between the parentheses, and its arguments, if there are no
parentheses in these. -/
theorem call?_of_callText (hname : isIdentifier name = true) (hopen : '(' ∉ joined as)
    (hclose : ')' ∉ joined as) :
    call? (callText name es as) = some ⟨name, joined es, trimLeft (joined as)⟩ := by
  by_cases hnil : es = []
  · subst hnil
    have hfirst : (trimLeft (joined as)).head? ≠ some '(' := by
      intro hhead
      exact hopen ((trimLeft_suffix (joined as)).subset (List.mem_of_head? hhead))
    rw [callText_nil, call?_eq, identifier?_append hname (by decide), Option.map_some]
    change some (callBehind name (trimLeft (joined as))) = _
    rw [callBehind, afterPrefix?_of_ne hfirst]
    rfl
  · have hbehind : ')' ∉ ' ' :: joined as := by simpa using hclose
    rw [callText_of_ne_nil _ hnil, call?_eq, identifier?_append hname (by decide), Option.map_some]
    change some (callBehind name ('(' :: (joined es ++ ')' :: ' ' :: joined as))) = _
    rw [callBehind]
    change some ((Option.map _ (aroundLast? ')' (joined es ++ ')' :: ' ' :: joined as))).getD _) = _
    rw [aroundLast?_append _ hbehind]
    rfl

namespace CallParts

variable (h : CallParts name es as)

include h

theorem isWord_name : ∀ d ∈ name, isWord d = true := isWord_of_isIdentifier h.name

/-- A call is made of the characters of arithmetic and of references. -/
theorem not_mem {d : Char} (hreference : isReferenceCharacter d = false)
    (hterm : isTermCharacter d = false) (hsign : d ∉ ['(', ')', ',']) : d ∉ callText name es as := by
  simp only [List.mem_cons, List.not_mem_nil, or_false, not_or] at hsign
  obtain ⟨hopen, hclose, hcomma⟩ := hsign
  have hname : d ∉ name := fun hd => by
    rw [isReferenceCharacter_of_isWord (h.isWord_name d hd)] at hreference
    cases hreference
  have hspace : d ≠ ' ' := by
    rintro rfl
    cases hreference
  have hes : d ∉ joined es := not_mem_joined hcomma fun e he hd => by
    rcases mem_counted (h.expressions e he) d hd with hd | hd | hd | hd
    · rw [hd] at hterm
      cases hterm
    · exact hopen hd
    · exact hclose hd
    · exact hcomma hd
  have has : d ∉ joined as :=
    not_mem_joined hcomma fun a ha => (h.references a ha).not_mem hreference
  by_cases hnil : es = []
  · subst hnil
    simp [callText_nil, hname, hspace, has]
  · simp [callText_of_ne_nil _ hnil, hname, hopen, hclose, hspace, hes, has]

/-- Behind the blanks in front of them the arguments begin like an identifier. -/
theorem arguments_start :
    ∃ d rest, trimLeft (joined as) = d :: rest ∧ isIdentifierStart d = true := by
  obtain ⟨a, more, rfl⟩ := List.exists_cons_of_ne_nil h.nonempty
  obtain ⟨d, rest, ha, hd⟩ := (h.references a (List.mem_cons_self ..)).starts
  have hleft (t : List Char) : trimLeft (a ++ t) = d :: (rest ++ t) := by
    rw [trimLeft, List.dropWhile_append, ← trimLeft, ha]
    rfl
  cases more with
  | nil =>
    have hsingle := hleft []
    rw [List.append_nil, List.append_nil] at hsingle
    rw [joined, List.intercalate_singleton]
    exact ⟨d, rest, hsingle, hd⟩
  | cons b more =>
    rw [joined_cons_cons]
    exact ⟨d, _, hleft _, hd⟩

/-- Only a whole name is read as a word that blanks must follow, and only where there are no
parentheses. -/
theorem of_keyword_blanks (hlead : ∀ d ∈ lead, isWord d = true)
    (hbehind : (afterPrefix? lead (callText name es as)).bind afterBlanks? = some rest) :
    name = lead ∧ es = [] ∧ rest = trimLeft (joined as) := by
  by_cases hnil : es = []
  · subst hnil
    rw [callText_nil, keyword_blanks (by decide) hlead h.isWord_name] at hbehind
    split at hbehind
    · rename_i hname
      exact ⟨hname, rfl, (Option.some.inj hbehind).symm⟩
    · cases hbehind
  · rw [callText_of_ne_nil _ hnil, keyword_blanks (by decide) hlead h.isWord_name] at hbehind
    split at hbehind <;> cases hbehind

theorem isHeader_callText : isHeader (callText name es as) = false := by
  unfold isHeader
  split
  · rename_i version hversion
    obtain ⟨-, -, rfl⟩ := h.of_keyword_blanks (List.all_eq_true.mp (by decide)) hversion
    obtain ⟨d, rest, hstart, hd⟩ := h.arguments_start
    have hnone : (isDigit d || d = '.') = false := by
      have hpoint : d ≠ '.' := by
        rintro rfl
        cases hd
      simp [not_isDigit_of_isIdentifierStart hd, hpoint]
    rw [hstart, List.all_cons, hnone, Bool.false_and, Bool.and_false]
  · rfl

theorem isInclude_callText : isInclude (callText name es as) = false := by
  unfold isInclude
  split
  · rename_i quoted hquoted
    obtain ⟨behind, hbehind, hquote⟩ := Option.bind_eq_some_iff.mp hquoted
    obtain ⟨-, -, rfl⟩ := h.of_keyword_blanks (List.all_eq_true.mp (by decide)) hbehind
    obtain ⟨d, rest, hstart, hd⟩ := h.arguments_start
    have hhead := afterPrefix?_eq_some hquote
    rw [hstart] at hhead
    obtain ⟨rfl, -⟩ := List.cons.inj hhead
    cases hd
  · rfl

theorem declaration?_callText (hread : ¬ Misread name es as) :
    declaration? (callText name es as) = none := by
  by_contra hsome
  obtain ⟨p, hp⟩ := Option.ne_none_iff_exists'.mp hsome
  obtain ⟨lead, hlead, behind, hbehind, hopen, hcharacters⟩ := declaration?_eq_some hp
  have hwords : ∀ lead ∈ registerWords, lead.all isWord = true := by decide
  obtain ⟨rfl, rfl, rfl⟩ := h.of_keyword_blanks (List.all_eq_true.mp (hwords lead hlead)) hbehind
  obtain ⟨a, more, rfl⟩ := List.exists_cons_of_ne_nil h.nonempty
  cases more with
  | nil =>
    rw [joined, List.intercalate_singleton] at hopen
    exact hread (.register hlead ((trimLeft_suffix a).subset hopen))
  | cons b more =>
    have hcomma : ',' ∈ joined (a :: b :: more) := by
      rw [joined_cons_cons]
      exact List.mem_append_right a (List.mem_cons_self ..)
    cases hcharacters ',' (mem_trimLeft hcomma (by decide))

/-- A call is read as an operation. -/
theorem form_of (hread : ¬ Misread name es as) (hs : collapse s = callText name es as) :
    Form.of s = .operation (callText name es as) := by
  have hnone {d : Char} (hreference : isReferenceCharacter d = false)
      (hterm : isTermCharacter d = false) (hsign : d ∉ ['(', ')', ',']) :
      d ∉ callText name es as := h.not_mem hreference hterm hsign
  have hbrace : '\x7b' ∉ s := fun hmem => by
    have hcollapsed := mem_collapse hmem (by decide)
    rw [hs] at hcollapsed
    exact hnone (by decide) (by decide) (by decide) hcollapsed
  have htidy : tidy s = callText name es as := by
    rw [tidy, if_neg (by simpa using hbrace), hs]
  have hdefinition : definition? (callText name es as) = none := by
    by_contra hsome
    obtain ⟨form, hform⟩ := Option.ne_none_iff_exists'.mp hsome
    exact hnone (by decide) (by decide) (by decide) (mem_of_definition? hform)
  have hconditional : conditional? (callText name es as) = none := by
    by_contra hsome
    obtain ⟨p, hp⟩ := Option.ne_none_iff_exists'.mp hsome
    exact hnone (by decide) (by decide) (by decide) (mem_of_conditional? hp)
  unfold Form.of
  simp only [htidy, h.isHeader_callText, h.isInclude_callText, h.declaration?_callText hread,
    hdefinition, hconditional, Bool.or_self, Bool.false_eq_true, if_false]

theorem resetTarget?_callText (hread : ¬ Misread name es as) :
    resetTarget? (callText name es as) = none := by
  by_contra hsome
  obtain ⟨target, htarget⟩ := Option.ne_none_iff_exists'.mp hsome
  obtain ⟨behind, hbehind, -⟩ := Option.bind_eq_some_iff.mp htarget
  obtain ⟨rfl, rfl, -⟩ := h.of_keyword_blanks (List.all_eq_true.mp (by decide)) hbehind
  exact hread (.reset as)

theorem barrier?_callText (hread : ¬ Misread name es as) :
    barrier? (callText name es as) = none := by
  have hname : name ≠ "barrier".toList := by
    rintro rfl
    exact hread (.barrier es as)
  have hkeyword {c : Char} (hc : isWord c = false) (t : List Char) :
      barrier? (name ++ c :: t) = none := by
    rw [barrier?_eq, keyword_bind hc (List.all_eq_true.mp (by decide)) h.isWord_name, if_neg hname]
    intro d r hd
    simp [hd]
  by_cases hnil : es = []
  · subst hnil
    exact hkeyword (by decide) _
  · rw [callText_of_ne_nil _ hnil]
    exact hkeyword (by decide) _

theorem call?_callText :
    call? (callText name es as) = some ⟨name, joined es, trimLeft (joined as)⟩ := by
  have hnone {d : Char} (hreference : isReferenceCharacter d = false) (hcomma : d ≠ ',') :
      d ∉ joined as := not_mem_joined hcomma fun a ha => (h.references a ha).not_mem hreference
  exact call?_of_callText h.name (hnone (by decide) (by decide)) (hnone (by decide) (by decide))

theorem operation_callText (d : Draft) (condition : Option Condition) (room : Capacity)
    (hread : ¬ Misread name es as) : d.operation condition (callText name es as) room =
      d.call condition ⟨name, joined es, trimLeft (joined as)⟩ room := by
  have hmeasurement : measurement? (callText name es as) = none := by
    by_contra hsome
    obtain ⟨p, hp⟩ := Option.ne_none_iff_exists'.mp hsome
    exact h.not_mem (by decide) (by decide) (by decide) (mem_of_measurement? hp)
  obtain ⟨c, rest, hstart, -⟩ := h.arguments_start
  have hcall : IsCall (callText name es as) ⟨name, joined es, trimLeft (joined as)⟩ :=
    ⟨hmeasurement, h.resetTarget?_callText hread, h.barrier?_callText hread, h.call?_callText⟩
  refine hcall.operation_eq ?_ d condition room
  change trimLeft (joined as) ≠ []
  rw [hstart]
  exact List.cons_ne_nil c rest

end CallParts

end Calls

section Cutting

theorem uncommented_joined {parts : List (List Char)} (h : ∀ p ∈ parts, Uncommented p) :
    Uncommented (joined parts) := by
  induction parts with
  | nil => exact uncommented_of_not_mem (List.not_mem_nil)
  | cons p parts ih =>
    obtain ⟨hp, hparts⟩ := List.forall_mem_cons.mp h
    cases parts with
    | nil => rwa [joined, List.intercalate_singleton]
    | cons q parts =>
      rw [joined_cons_cons]
      exact uncommented_append_cons (by decide) hp (ih hparts)

theorem CallParts.uncommented (h : CallParts name es as) : Uncommented (callText name es as) := by
  have hname : Uncommented name := uncommented_of_not_mem fun hmem => by
    cases h.isWord_name '/' hmem
  have hes : Uncommented (joined es) :=
    uncommented_joined fun e he => not_slashes_of_counted (h.expressions e he)
  have has : Uncommented (joined as) :=
    uncommented_joined fun a ha => uncommented_of_not_mem ((h.references a ha).not_mem (by decide))
  by_cases hnil : es = []
  · subst hnil
    rw [callText_nil]
    exact uncommented_append_cons (by decide) hname has
  · have hbehind : Uncommented (' ' :: joined as) :=
      uncommented_append_cons (s := []) (by decide) (uncommented_of_not_mem List.not_mem_nil) has
    rw [callText_of_ne_nil _ hnil]
    exact uncommented_append_cons (by decide) hname
      (uncommented_append_cons (by decide) hes hbehind)

theorem CallParts.plain (h : CallParts name es as) : Plain (callText name es as) where
  opening := h.not_mem (by decide) (by decide) (by decide)
  closing := h.not_mem (by decide) (by decide) (by decide)
  ending := h.not_mem (by decide) (by decide) (by decide)
  uncommented := h.uncommented

/-- A text that is a call but for its blanks is one statement, also with a semicolon behind it. -/
theorem CallParts.split_eq (h : CallParts name es as) (hs : collapse s = callText name es as)
    (hrest : rest = [] ∨ rest = [';']) : split (s ++ rest) = .ok [trim s] := by
  have hplain : Plain s := plain_of_collapse (hs ▸ h.plain)
  refine hplain.split_eq ?_ hrest
  intro hnil
  have hcollapse := collapse_trim s
  rw [hnil, hs] at hcollapse
  cases hname : name with
  | nil => cases hname ▸ h.name
  | cons c name =>
    rw [hname] at hcollapse
    cases hcollapse

end Cutting

end CircuitConsole.Statement
