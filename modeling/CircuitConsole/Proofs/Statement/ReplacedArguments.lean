import CircuitConsole.Proofs.Statement.ConditionTexts

/-!
Calls whose arguments are replaced. Which kind of statement a text is, and what its gate and its
parameters are, is settled by what is in front of the arguments, as long as these are references;
only a call that looks like a declaration may become one.
-/

namespace CircuitConsole.Statement

open Expression Text

variable {gate parameters head q q' s t lead rest front : List Char} {c : Char} {form : CallForm}

structure ArgumentText (q : List Char) : Prop where
  starts : ∃ c rest, q = c :: rest ∧ isIdentifierStart c = true
  characters : ∀ c ∈ q, isReferenceCharacter c = true ∨ c = ','

theorem ArgumentText.not_mem (h : ArgumentText q) (hreference : isReferenceCharacter c = false)
    (hcomma : c ≠ ',') : c ∉ q := by
  intro hc
  rcases h.characters c hc with hc | hc
  · rw [hreference] at hc
    cases hc
  · exact hcomma hc

theorem ArgumentText.nonempty (h : ArgumentText q) : q ≠ [] := by
  obtain ⟨c, rest, rfl, -⟩ := h.starts
  exact List.cons_ne_nil c rest

theorem ArgumentText.trimLeft_append {b : List Char} (h : ArgumentText q)
    (hb : ∀ c ∈ b, isBlank c = true) : trimLeft (b ++ q) = q := by
  obtain ⟨c, rest, rfl, hc⟩ := h.starts
  exact trimLeft_append_cons hb (isBlank_of_isWord (isWord_of_isIdentifierStart hc)) rest

inductive CallHead (gate : List Char) : List Char → List Char → Prop
  | bare (b : List Char) (hb : ∀ c ∈ b, isBlank c = true) (hne : b ≠ []) :
      CallHead gate [] (gate ++ b)
  | enclosed (parameters b b' : List Char) (hb : ∀ c ∈ b, isBlank c = true)
      (hb' : ∀ c ∈ b', isBlank c = true) :
      CallHead gate parameters (gate ++ (b ++ '(' :: (parameters ++ ')' :: b')))

theorem identifier?_rest {name : List Char} (h : identifier? s = some (name, rest)) :
    ∀ c ∈ rest.head?, isWord c = false := by
  cases s with
  | nil => cases h
  | cons d s =>
    rw [identifier?] at h
    split at h
    · cases h
      intro c hc
      have hhead := List.head?_dropWhile_not isWord s
      rw [hc] at hhead
      simpa using hhead
    · cases h

theorem isWord_of_isBlank (h : isBlank c = true) : isWord c = false := by
  by_contra hword
  rw [isBlank_of_isWord (by simpa using hword)] at h
  cases h

/-- The gate of a call ends where no word goes on. -/
theorem CallHead.exists_cons (h : CallHead gate parameters head) :
    ∃ c u, isWord c = false ∧ head = gate ++ c :: u := by
  cases h with
  | bare b hb hne =>
    obtain ⟨d, b, rfl⟩ := List.exists_cons_of_ne_nil hne
    exact ⟨d, b, isWord_of_isBlank (hb d (List.mem_cons_self ..)), rfl⟩
  | enclosed parameters b b' hb hb' =>
    cases b with
    | nil => exact ⟨'(', _, by decide, rfl⟩
    | cons d b => exact ⟨d, _, isWord_of_isBlank (hb d (List.mem_cons_self ..)), rfl⟩

/-- A call is read as its head and its arguments. -/
theorem callHead_of_call (hcall : call? t = some form) (hq : ArgumentText form.qubits)
    (ht : t = head ++ form.qubits) :
    isIdentifier form.gate = true ∧ CallHead form.gate form.parameters head := by
  rw [call?_eq] at hcall
  obtain ⟨⟨gate, rest⟩, hname, hform⟩ := Option.map_eq_some_iff.mp hcall
  obtain ⟨hgate, hidentifier⟩ := identifier?_eq_some hname
  obtain ⟨b, hb, hrest⟩ := exists_blanks rest
  obtain ⟨c, more, hstart, hc⟩ := hq.starts
  have hbare (h : form = ⟨gate, [], trimLeft rest⟩) :
      isIdentifier form.gate = true ∧ CallHead form.gate form.parameters head := by
    subst h
    have hne : b ≠ [] := by
      rintro rfl
      have hfirst : rest.head? = some c := hrest ▸ congrArg List.head? hstart
      have hword := identifier?_rest hname c hfirst
      rw [isWord_of_isIdentifierStart hc] at hword
      cases hword
    have hhead : head ++ trimLeft rest = (gate ++ b) ++ trimLeft rest := by
      rw [← ht, hgate, List.append_assoc, ← hrest]
    rw [List.append_cancel_right hhead]
    exact ⟨hidentifier, .bare b hb hne⟩
  unfold callBehind at hform
  cases hopen : afterPrefix? ['('] (trimLeft rest) with
  | none =>
    rw [hopen] at hform
    exact hbare hform.symm
  | some inside =>
    rw [hopen, Option.bind_some] at hform
    cases hclose : aroundLast? ')' inside with
    | none =>
      rw [hclose] at hform
      exact hbare hform.symm
    | some p =>
      obtain ⟨parameters, behind⟩ := p
      rw [hclose] at hform
      obtain rfl : CallForm.mk gate parameters (trimLeft behind) = form := hform
      obtain ⟨b', hb', hbehind⟩ := exists_blanks behind
      have hhead : head ++ trimLeft behind =
          (gate ++ (b ++ '(' :: (parameters ++ ')' :: b'))) ++ trimLeft behind := by
        rw [← ht, hgate, hrest, afterPrefix?_eq_some hopen, (aroundLast?_eq_some hclose).1]
        simp only [List.append_assoc, List.cons_append, List.nil_append, ← hbehind]
      rw [List.append_cancel_right hhead]
      exact ⟨hidentifier, .enclosed parameters b b' hb hb'⟩

theorem CallHead.call?_eq (h : CallHead gate parameters head) (hgate : isIdentifier gate = true)
    (hq : ArgumentText q) : call? (head ++ q) = some ⟨gate, parameters, q⟩ := by
  obtain ⟨c, u, hc, hhead⟩ := h.exists_cons
  have hname : identifier? (head ++ q) = some (gate, c :: u ++ q) := by
    rw [hhead, List.append_assoc]
    exact identifier?_append hgate hc (u ++ q)
  rw [Statement.call?_eq, hname, Option.map_some]
  cases h with
  | bare b hb hne =>
    rw [← List.append_cancel_left hhead, hq.trimLeft_append hb]
    have hopen : q.head? ≠ some '(' := by
      intro hfirst
      exact hq.not_mem (by decide) (by decide) (List.mem_of_head? hfirst)
    unfold callBehind
    rw [afterPrefix?_of_ne hopen]
    rfl
  | enclosed parameters b b' hb hb' =>
    have hclose : ')' ∉ b' ++ q := by
      intro hmem
      rcases List.mem_append.mp hmem with hmem | hmem
      · cases hb' ')' hmem
      · exact hq.not_mem (by decide) (by decide) hmem
    have hbehind : c :: u ++ q = b ++ '(' :: (parameters ++ ')' :: (b' ++ q)) := by
      rw [← List.append_cancel_left hhead]
      simp
    rw [hbehind, trimLeft_append_cons hb (by decide)]
    unfold callBehind
    change some ((Option.map _ (aroundLast? ')' (parameters ++ ')' :: (b' ++ q)))).getD _) = _
    rw [aroundLast?_append _ hclose, Option.map_some, Option.getD_some, hq.trimLeft_append hb']

section Arrows

variable {source target : List Char}

/-- The first arrow is where the text begins with one, or behind the first character. -/
theorem aroundArrow?_cons (c : Char) (s : List Char) : aroundArrow? (c :: s) =
    if c = '-' ∧ s.head? = some '>' then some ([], s.tail)
    else (aroundArrow? s).map fun p => (c :: p.1, p.2) := by
  rw [aroundArrow?.eq_def]
  dsimp only
  split
  · rfl
  · rename_i hplain
    rw [if_neg]
    rintro ⟨rfl, hs⟩
    obtain ⟨after, rfl⟩ := List.head?_eq_some_iff.mp hs
    exact hplain after rfl rfl

theorem aroundArrow?_eq_some {before after : List Char}
    (h : aroundArrow? s = some (before, after)) : s = before ++ '-' :: '>' :: after := by
  induction s generalizing before with
  | nil => cases h
  | cons c s ih =>
    rw [aroundArrow?_cons] at h
    split at h
    · rename_i harrow
      obtain ⟨rest, rfl⟩ := List.head?_eq_some_iff.mp harrow.2
      cases h
      rw [harrow.1]
      rfl
    · obtain ⟨p, hp, heq⟩ := Option.map_eq_some_iff.mp h
      cases heq
      rw [ih hp]
      rfl

/-- What has no arrow in it does not change where the first arrow is. -/
theorem aroundArrow?_append (s : List Char) (hq : '>' ∉ q) :
    aroundArrow? (s ++ q) = (aroundArrow? s).map fun p => (p.1, p.2 ++ q) := by
  have hnone : aroundArrow? q = none := by
    by_contra hsome
    obtain ⟨p, hp⟩ := Option.ne_none_iff_exists'.mp hsome
    exact hq (mem_of_aroundArrow? hp)
  induction s with
  | nil => exact hnone
  | cons c s ih =>
    have hhead : (s ++ q).head? = some '>' ↔ s.head? = some '>' := by
      cases s with
      | nil =>
        refine ⟨fun h => absurd (List.mem_of_head? h) hq, fun h => by cases h⟩
      | cons d s => rfl
    rw [List.cons_append, aroundArrow?_cons, aroundArrow?_cons, ih]
    by_cases harrow : c = '-' ∧ s.head? = some '>'
    · rw [if_pos harrow, if_pos ⟨harrow.1, hhead.mpr harrow.2⟩]
      obtain ⟨after, rfl⟩ := List.head?_eq_some_iff.mp harrow.2
      rfl
    · rw [if_neg harrow, if_neg fun h => harrow ⟨h.1, hhead.mp h.2⟩, Option.map_map,
        Option.map_map]
      rfl

def sidesBehind (rest : List Char) : Option (List Char × List Char) :=
  let blanks := rest.takeWhile isBlank
  let rest := rest.dropWhile isBlank
  let sides (source : List Char) (tail : List Char) : Option (List Char × List Char) :=
    match aroundArrow? tail with
    | some (before, after) => if after = [] then none else some (source ++ before, after)
    | none => none
  match blanks, rest with
  | [], _ => none
  | _, [] => none
  | _ :: more, c :: tail => (sides [c] tail).or (if more = [] then none else sides [' '] rest)

theorem measurement?_eq (s : List Char) :
    measurement? s = (afterPrefix? "measure".toList s).bind sidesBehind := rfl

/-- The first side of a measurement stands in the statement, but for blanks around it. -/
theorem infix_source (h : measurement? s = some (source, target)) : trim source <:+: s := by
  rw [measurement?_eq] at h
  obtain ⟨rest, hrest, h⟩ := Option.bind_eq_some_iff.mp h
  have hside {lead tail before after : List Char}
      (harrow : aroundArrow? tail = some (before, after))
      (h : (if after = [] then none else some (lead ++ before, after)) = some (source, target)) :
      source = lead ++ before ∧ before <+: tail := by
    split at h
    · cases h
    · cases h
      exact ⟨rfl, _, (aroundArrow?_eq_some harrow).symm⟩
  have hdrop : rest.dropWhile isBlank <:+ s :=
    (List.dropWhile_suffix isBlank).trans (afterPrefix?_suffix hrest)
  unfold sidesBehind at h
  dsimp only at h
  split at h
  · cases h
  · cases h
  · rename_i b more c tail hblanks hsides
    rw [hsides] at hdrop
    rcases Option.or_eq_some_iff.mp h with h | ⟨-, h⟩
    · split at h
      · rename_i harrow
        obtain ⟨rfl, hbefore⟩ := hside harrow h
        have hsource : c :: _ <+: c :: tail := List.cons_prefix_cons.mpr ⟨rfl, hbefore⟩
        exact (isInfix_trim _).trans (hsource.isInfix.trans hdrop.isInfix)
      · cases h
    · split at h
      · cases h
      · split at h
        · rename_i harrow
          rw [hsides] at harrow
          obtain ⟨rfl, hbefore⟩ := hside harrow h
          rw [trim_append_left (List.forall_mem_singleton.mpr (by decide))]
          exact (isInfix_trim _).trans (hbefore.isInfix.trans hdrop.isInfix)
        · cases h

/-- Whether there are two sides does not depend on what is behind the arrow. -/
theorem sidesBehind_eq_none_iff {b v : List Char} (hb : ∀ c ∈ b, isBlank c = true) (hne : b ≠ [])
    (hq : '>' ∉ q) (hqne : q ≠ []) :
    sidesBehind (b ++ '(' :: (v ++ q)) = none ↔ aroundArrow? v = none := by
  have hopen : isBlank '(' = false := by decide
  obtain ⟨d, more, rfl⟩ := List.exists_cons_of_ne_nil hne
  have htail := aroundArrow?_append v hq
  have hrest : aroundArrow? ('(' :: (v ++ q)) =
      (aroundArrow? (v ++ q)).map fun p => ('(' :: p.1, p.2) :=
    (aroundArrow?_cons _ _).trans (if_neg fun h => absurd h.1 (by decide))
  unfold sidesBehind
  rw [List.takeWhile_append_of_pos hb, List.dropWhile_append_of_pos hb,
    List.takeWhile_cons_of_neg (by simp [hopen]), List.dropWhile_cons_of_neg (by simp [hopen]),
    List.append_nil]
  simp only [hrest, htail]
  cases aroundArrow? v with
  | none => simp
  | some p => simp [hqne]

end Arrows

namespace CallHead

variable (h : CallHead gate parameters head) (hgate : isIdentifier gate = true)

include h hgate

theorem measurement?_eq_none (hq : ArgumentText q) (hq' : ArgumentText q')
    (hnone : measurement? (head ++ q) = none) : measurement? (head ++ q') = none := by
  have hword := isWord_of_isIdentifier hgate
  have hbehind {c : Char} {t : List Char} (hc : isWord c = false) :
      (afterPrefix? "measure".toList (gate ++ c :: t)).bind sidesBehind =
        if gate = "measure".toList then sidesBehind (c :: t) else none := by
    refine keyword_bind hc (List.all_eq_true.mp (by decide)) hword fun d r hd => ?_
    unfold sidesBehind
    rw [List.takeWhile_cons_of_neg (by simp [isBlank_of_isWord hd])]
  cases h with
  | bare b hb hne =>
    by_contra hsome
    obtain ⟨p, hp⟩ := Option.ne_none_iff_exists'.mp hsome
    rcases List.mem_append.mp (mem_of_measurement? hp) with hmem | hmem
    · rcases List.mem_append.mp hmem with hmem | hmem
      · cases hword '>' hmem
      · cases hb '>' hmem
    · exact hq'.not_mem (by decide) (by decide) hmem
  | enclosed parameters b b' hb hb' =>
    have htext (q : List Char) : gate ++ (b ++ '(' :: (parameters ++ ')' :: b')) ++ q =
        gate ++ (b ++ '(' :: ((parameters ++ ')' :: b') ++ q)) := by simp
    rw [htext, measurement?_eq] at hnone ⊢
    cases b with
    | nil =>
      rw [List.nil_append, hbehind (by decide)]
      exact ite_eq_right_iff.mpr fun _ => rfl
    | cons d b =>
      have hd : isWord d = false := isWord_of_isBlank (hb d (List.mem_cons_self ..))
      have hne : d :: b ≠ [] := List.cons_ne_nil d b
      have harrow {q : List Char} (hq : ArgumentText q) := sidesBehind_eq_none_iff
        (v := parameters ++ ')' :: b') hb hne (hq.not_mem (by decide) (by decide)) hq.nonempty
      rw [List.cons_append, hbehind hd] at hnone ⊢
      split
      · rename_i hgate
        rw [if_pos hgate] at hnone
        exact (harrow hq').mpr ((harrow hq).mp hnone)
      · rfl

theorem resetTarget?_eq_none (hq : ArgumentText q) (q' : List Char)
    (hnone : resetTarget? (head ++ q) = none) : resetTarget? (head ++ q') = none := by
  obtain ⟨c, u, hc, rfl⟩ := h.exists_cons
  have hkeyword (q : List Char) := keyword_blanks (t := u ++ q) hc
    (List.all_eq_true.mp (by decide : "reset".toList.all isWord = true))
    (isWord_of_isIdentifier hgate)
  -- behind blanks there is at least the first letter of the arguments
  have hsolid : trimLeft (c :: (u ++ q)) ≠ [] := by
    obtain ⟨d, rest, hstart, hd⟩ := hq.starts
    intro hnil
    have hblank := trimLeft_eq_nil.mp hnil d (by simp [hstart])
    rw [isBlank_of_isWord (isWord_of_isIdentifierStart hd)] at hblank
    cases hblank
  unfold resetTarget? at hnone ⊢
  rw [List.append_assoc, List.cons_append, hkeyword, afterBlanks?_eq, List.head?_cons] at hnone ⊢
  by_cases hreset : gate = "reset".toList ∧ isBlank c = true
  · rw [if_pos hreset.1, Option.any_some, if_pos hreset.2, Option.bind_eq_bind, Option.bind_some,
      if_neg hsolid] at hnone
    cases hnone
  · rw [not_and] at hreset
    by_cases hname : gate = "reset".toList
    · rw [if_pos hname, Option.any_some, if_neg (hreset hname)]
      rfl
    · rw [if_neg hname]
      rfl

theorem barrier?_eq_none (q' : List Char) (hnone : barrier? (head ++ q) = none) :
    barrier? (head ++ q') = none := by
  obtain ⟨c, u, hc, rfl⟩ := h.exists_cons
  have hkeyword (q : List Char) : barrier? (gate ++ c :: u ++ q) =
      if gate = "barrier".toList then some (c :: (u ++ q)) else none := by
    rw [List.append_assoc, List.cons_append, barrier?_eq,
      keyword_bind hc (List.all_eq_true.mp (by decide)) (isWord_of_isIdentifier hgate)]
    · rw [List.head?_cons, Option.any_some, hc, if_neg Bool.false_ne_true]
    · intro d r hd
      rw [List.head?_cons, Option.any_some, if_pos hd]
  rw [hkeyword] at hnone ⊢
  split at hnone
  · cases hnone
  · rename_i hname
    rw [if_neg hname]

/-- A call stays a call of the same gate with other arguments. -/
theorem isCall (hq : ArgumentText q) (hq' : ArgumentText q')
    (hcall : IsCall (head ++ q) ⟨gate, parameters, q⟩) :
    IsCall (head ++ q') ⟨gate, parameters, q'⟩ where
  measurement := h.measurement?_eq_none hgate hq hq' hcall.measurement
  reset := h.resetTarget?_eq_none hgate hq q' hcall.reset
  barrier := h.barrier?_eq_none hgate q' hcall.barrier
  call := h.call?_eq hgate hq'

/-- Where the gate is a word that blanks must follow, there are the arguments behind it, or a
parenthesis. -/
theorem of_keyword_blanks (hq : ArgumentText q) (hlead : ∀ d ∈ lead, isWord d = true)
    (hbehind : (afterPrefix? lead (head ++ q)).bind afterBlanks? = some rest) : gate = lead ∧
      ((∃ b, (∀ c ∈ b, isBlank c = true) ∧ head = gate ++ b ∧ rest = q) ∨
        ∃ v, rest = '(' :: v) := by
  have hword := isWord_of_isIdentifier hgate
  have hrest {c : Char} {t : List Char} (hc : isWord c = false)
      (hbehind : (afterPrefix? lead (gate ++ c :: t)).bind afterBlanks? = some rest) :
      gate = lead ∧ rest = trimLeft (c :: t) := by
    rw [keyword_blanks hc hlead hword] at hbehind
    split at hbehind
    · rename_i hname
      exact ⟨hname, afterBlanks?_eq_some hbehind⟩
    · cases hbehind
  cases h with
  | bare b hb hne =>
    obtain ⟨d, b, rfl⟩ := List.exists_cons_of_ne_nil hne
    rw [List.append_assoc, List.cons_append] at hbehind
    obtain ⟨hname, hrest⟩ := hrest (isWord_of_isBlank (hb d (List.mem_cons_self ..))) hbehind
    rw [← List.cons_append, hq.trimLeft_append hb] at hrest
    exact ⟨hname, .inl ⟨_, hb, rfl, hrest⟩⟩
  | enclosed parameters b b' hb hb' =>
    rw [List.append_assoc, List.append_assoc, List.cons_append] at hbehind
    have hopen := trimLeft_append_cons hb (c := '(') (by decide) (parameters ++ ')' :: b' ++ q)
    cases b with
    | nil =>
      obtain ⟨hname, hrest⟩ := hrest (by decide) hbehind
      exact ⟨hname, .inr ⟨_, hrest.trans hopen⟩⟩
    | cons d b =>
      obtain ⟨hname, hrest⟩ := hrest (isWord_of_isBlank (hb d (List.mem_cons_self ..))) hbehind
      exact ⟨hname, .inr ⟨_, hrest.trans hopen⟩⟩

theorem exists_of_keyword_blanks (hq : ArgumentText q) (hlead : ∀ d ∈ lead, isWord d = true)
    (hbehind : (afterPrefix? lead (head ++ q)).bind afterBlanks? = some rest) :
    ∃ c v, rest = c :: v ∧ (isIdentifierStart c = true ∨ c = '(') := by
  rcases (h.of_keyword_blanks hgate hq hlead hbehind).2 with ⟨b, -, -, rfl⟩ | ⟨v, rfl⟩
  · obtain ⟨c, v, hstart, hc⟩ := hq.starts
    exact ⟨c, v, hstart, .inl hc⟩
  · exact ⟨'(', v, rfl, .inr rfl⟩

theorem isHeader_eq_false (hq : ArgumentText q) : isHeader (head ++ q) = false := by
  unfold isHeader
  split
  · rename_i version hversion
    obtain ⟨c, v, rfl, hc⟩ :=
      h.exists_of_keyword_blanks hgate hq (List.all_eq_true.mp (by decide)) hversion
    have hnone : (isDigit c || c = '.') = false := by
      rcases hc with hc | rfl
      · have hpoint : c ≠ '.' := by
          rintro rfl
          cases hc
        simp [not_isDigit_of_isIdentifierStart hc, hpoint]
      · decide
    rw [List.all_cons, hnone, Bool.false_and, Bool.and_false]
  · rfl

theorem isInclude_eq_false (hq : ArgumentText q) : isInclude (head ++ q) = false := by
  unfold isInclude
  split
  · rename_i quoted hquoted
    obtain ⟨behind, hbehind, hquote⟩ := Option.bind_eq_some_iff.mp hquoted
    obtain ⟨c, v, rfl, hc⟩ :=
      h.exists_of_keyword_blanks hgate hq (List.all_eq_true.mp (by decide)) hbehind
    obtain ⟨rfl, -⟩ := List.cons.inj (afterPrefix?_eq_some hquote)
    rcases hc with hc | hc <;> cases hc
  · rfl

/-- Only a single argument behind the word of a declaration may be read as one. -/
theorem declaration?_eq_none (hq : ArgumentText q)
    (hread : ∀ b, (∀ c ∈ b, isBlank c = true) → head = gate ++ b → gate ∈ registerWords → ',' ∈ q) :
    declaration? (head ++ q) = none := by
  by_contra hsome
  obtain ⟨p, hp⟩ := Option.ne_none_iff_exists'.mp hsome
  obtain ⟨lead, hlead, behind, hbehind, -, hcharacters⟩ := declaration?_eq_some hp
  have hwords : ∀ lead ∈ registerWords, lead.all isWord = true := by decide
  obtain ⟨rfl, ⟨b, hb, hhead, rfl⟩ | ⟨v, rfl⟩⟩ :=
    h.of_keyword_blanks hgate hq (List.all_eq_true.mp (hwords lead hlead)) hbehind
  · cases hcharacters ',' (hread b hb hhead hlead)
  · cases hcharacters '(' (List.mem_cons_self ..)

omit h hgate in
/-- A condition ends in front of the arguments. -/
theorem conditional?_eq_none (hq : ArgumentText q) (hq' : ArgumentText q')
    (hnone : conditional? (head ++ q) = none) : conditional? (head ++ q') = none := by
  by_contra hsome
  obtain ⟨⟨register, value, operation⟩, h⟩ := Option.ne_none_iff_exists'.mp hsome
  obtain ⟨lead, rest, hlead, hs, hne, -⟩ := conditional?_eq_some_iff.mp h
  have hclose : ')' ∈ lead.getLast? := by
    cases hlead with
    | written => simp [List.getLast?_append, List.getLast?_cons]
  obtain ⟨behind, rfl⟩ : ∃ behind, head = lead ++ behind := by
    rcases List.append_eq_append_iff.mp hs with ⟨front, hlead, hq'front⟩ | ⟨behind, hhead, -⟩
    · cases front with
      | nil => exact ⟨[], by simp [hlead]⟩
      | cons c front =>
        rw [hlead, List.getLast?_append_of_ne_nil _ (List.cons_ne_nil c front)] at hclose
        have hmem : ')' ∈ q' := hq'front ▸ List.mem_append_left rest (List.mem_of_getLast? hclose)
        exact absurd hmem (hq'.not_mem (by decide) (by decide))
    · exact ⟨behind, hhead⟩
  have hsome := conditional?_eq_some_iff.mpr ⟨lead, behind ++ q, hlead, List.append_assoc ..,
    List.append_ne_nil_of_right_ne_nil _ hq.nonempty, rfl⟩
  rw [hsome] at hnone
  cases hnone

/-- With other arguments a call that is a statement by itself stays one. -/
theorem form_of (hq : ArgumentText q) (hq' : ArgumentText q')
    (hread : ∀ b, (∀ c ∈ b, isBlank c = true) → head = gate ++ b → gate ∈ registerWords → ',' ∈ q')
    (hconditional : conditional? (head ++ q) = none) (hplain : Plain (head ++ q'))
    (hspaced : Spaced (head ++ q')) : Form.of (head ++ q') = .operation (head ++ q') := by
  have hdefinition : definition? (head ++ q') = none := by
    by_contra hsome
    obtain ⟨form, hform⟩ := Option.ne_none_iff_exists'.mp hsome
    exact hplain.opening (mem_of_definition? hform)
  exact form_of_operation (tidy_of_spaced hplain hspaced) (h.isHeader_eq_false hgate hq')
    (h.isInclude_eq_false hgate hq') (h.declaration?_eq_none hgate hq' hread) hdefinition
    (conditional?_eq_none hq hq' hconditional)

end CallHead

end CircuitConsole.Statement
