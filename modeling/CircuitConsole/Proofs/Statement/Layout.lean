import CircuitConsole.Proofs.Statement.JoinedTexts
import CircuitConsole.Proofs.Text.Layout

/-!
Statements and their layout. A text without comments is cut at the same places when it is condensed,
and so is a list of arguments; and a condensed statement has the same form, with the texts it is
made of condensed.
-/

namespace CircuitConsole.Statement

open Text

variable {c : Char} {s w : List Char} {ps : List (List Char)}

section Pieces

def Uncommented (s : List Char) : Prop := ¬ ['/', '/'] <:+: s

instance (s : List Char) : Decidable (Uncommented s) :=
  inferInstanceAs (Decidable (¬ ['/', '/'] <:+: s))

theorem Uncommented.part {t : List Char} (h : Uncommented t) (hs : s <:+: t) : Uncommented s :=
  fun hmem => h (hmem.trans hs)

theorem uncommented_condense : Uncommented (condense s) ↔ Uncommented s :=
  not_congr (infix_condense (by decide))

theorem withoutComments_of (h : Uncommented s) : withoutComments false s = s := by
  induction s with
  | nil => rfl
  | cons c s ih =>
    have hplain : c = '/' → s.head? ≠ some '/' := by
      rintro rfl hhead
      obtain ⟨s, rfl⟩ := List.head?_eq_some_iff.mp hhead
      exact h ⟨[], s, rfl⟩
    rw [withoutComments_cons hplain, ih (h.part (List.infix_cons (List.infix_refl s)))]

theorem onFirst_condense (hc : isLayout c = false) (ps : List (List Char)) :
    (onFirst c ps).map condense = onFirst c (ps.map condense) := by
  cases ps with
  | nil => simp [onFirst, condense, hc]
  | cons p ps => simp [onFirst, condense_cons hc]

/-- Layout before a text goes to the piece the text begins with. -/
theorem onFirst_condense_layout (hc : isLayout c = true)
    (hhead : ps.head?.map beginsBlank = some (beginsBlank s)) :
    (onFirst c ps).map condense =
      if beginsBlank s then ps.map condense else onFirst ' ' (ps.map condense) := by
  cases ps with
  | nil => cases hhead
  | cons p ps =>
    have hbegins : beginsBlank p = beginsBlank s := by simpa using hhead
    rw [onFirst, List.map_cons, condense_layout hc, hbegins]
    split <;> rfl

theorem head_onFirst (c : Char) (ps : List (List Char)) :
    (onFirst c ps).head?.map beginsBlank = some (isLayout c) := by
  cases ps <;> rfl

theorem head_cutAt {depth depth' : Nat} {f : List (List Char) → List (List Char)}
    (h : cutAt depth c = .ok (depth', f)) (ps : List (List Char)) :
    (f ps).head?.map beginsBlank = some (isLayout c) := by
  unfold cutAt at h
  split at h
  · cases h
    exact head_onFirst c ps
  · split at h
    · rename_i hc
      split at h <;> cases h
      · rfl
      · exact head_onFirst c ps
    · split at h
      · rename_i hend
        obtain ⟨rfl, -⟩ : c = ';' ∧ depth = 0 := by simpa using hend
        cases h
        rfl
      · cases h
        exact head_onFirst c ps

theorem head_pieces {depth : Nat} (h : pieces depth s = .ok ps) :
    ps.head?.map beginsBlank = some (beginsBlank s) := by
  cases s with
  | nil =>
    unfold pieces at h
    split at h
    · cases h
      rfl
    · cases h
  | cons c s =>
    rw [pieces_cons] at h
    obtain ⟨⟨depth', f⟩, hcut, hrest⟩ := bind_eq_ok.mp h
    obtain ⟨ps', -, rfl⟩ := map_eq_ok.mp hrest
    exact head_cutAt hcut ps'

theorem cutAt_layout (hc : isLayout c = true) (depth : Nat) :
    cutAt depth c = .ok (depth, onFirst c) := by
  have hne (d : Char) (hd : isLayout d = false) : c ≠ d := by
    rintro rfl
    rw [hc] at hd
    cases hd
  simp [cutAt, hne '\x7b' (by decide), hne '\x7d' (by decide), hne ';' (by decide)]

theorem cutAt_condense {depth depth' : Nat} {f : List (List Char) → List (List Char)}
    (hc : isLayout c = false) (h : cutAt depth c = .ok (depth', f)) (ps : List (List Char)) :
    (f ps).map condense = f (ps.map condense) := by
  rcases cutAt_eq_ok h with rfl | rfl | rfl
  · exact onFirst_condense hc ps
  · simp [condense, hc]
  · rfl

/-- A condensed text is cut where the text is. -/
theorem pieces_condense (depth : Nat) (s : List Char) :
    pieces depth (condense s) = (pieces depth s).map (List.map condense) := by
  induction s generalizing depth with
  | nil =>
    unfold condense pieces
    split <;> rfl
  | cons c s ih =>
    cases hc : isLayout c with
    | false =>
      rw [condense_cons hc, pieces_cons, pieces_cons]
      cases hcut : cutAt depth c with
      | error fault => rfl
      | ok cut =>
        change (pieces cut.1 _).map cut.2 = ((pieces cut.1 s).map cut.2).map (List.map condense)
        rw [ih]
        cases pieces cut.1 s with
        | error fault => rfl
        | ok ps => exact congrArg Except.ok (cutAt_condense hc hcut ps).symm
    | true =>
      have hblank (d : Char) (hd : isLayout d = true) (t : List Char) :
          pieces depth (d :: t) = (pieces depth t).map (onFirst d) := by
        rw [pieces_cons, cutAt_layout hd]
        rfl
      rw [condense_layout hc, hblank c hc, apply_ite (pieces depth), hblank ' ' isLayout_space, ih]
      cases hs : pieces depth s with
      | error fault => split <;> rfl
      | ok ps =>
        change _ = Except.ok ((onFirst c ps).map condense)
        rw [onFirst_condense_layout hc (head_pieces hs)]
        split <;> rfl

theorem split_condense (h : Uncommented s) :
    split (condense s) = (split s).map (List.map condense) := by
  unfold split
  rw [withoutComments_of h, withoutComments_of (uncommented_condense.mpr h), pieces_condense]
  cases pieces 0 s with
  | error fault => rfl
  | ok ps =>
    simp only [Except.map, List.map_map, List.filter_map, Function.comp_def, trim_condense,
      ne_eq, condense_eq_nil]

/-- Pieces stand in the text they are cut from, the first at its start. -/
theorem infix_of_pieces {depth : Nat} (h : pieces depth s = .ok ps) :
    (∀ p, ps.head? = some p → p <+: s) ∧ ∀ p ∈ ps, p <:+: s := by
  induction s generalizing depth ps with
  | nil =>
    unfold pieces at h
    split at h
    · cases h
      simp
    · cases h
  | cons c s ih =>
    rw [pieces_cons] at h
    obtain ⟨⟨depth', f⟩, hcut, hrest⟩ := bind_eq_ok.mp h
    obtain ⟨ps', hps', rfl⟩ := map_eq_ok.mp hrest
    obtain ⟨hfirst, hall⟩ := ih hps'
    have hlater : ∀ p ∈ ps', p <:+: c :: s := fun p hp => List.infix_cons (hall p hp)
    have hcons {q : List Char} {qs : List (List Char)} (hq : q <+: c :: s)
        (hqs : ∀ p ∈ qs, p <:+: c :: s) : (∀ p, (q :: qs).head? = some p → p <+: c :: s) ∧
          ∀ p ∈ q :: qs, p <:+: c :: s := by
      refine ⟨?_, List.forall_mem_cons.mpr ⟨hq.isInfix, hqs⟩⟩
      rintro p ⟨⟩
      exact hq
    rcases cutAt_eq_ok hcut with rfl | rfl | rfl
    · cases ps' with
      | nil => exact hcons (List.cons_prefix_cons.mpr ⟨rfl, List.nil_prefix⟩) (by simp)
      | cons p ps' =>
        have hp : c :: p <+: c :: s := List.cons_prefix_cons.mpr ⟨rfl, hfirst p rfl⟩
        exact hcons hp fun q hq => hlater q (List.mem_cons_of_mem _ hq)
    · exact hcons (List.cons_prefix_cons.mpr ⟨rfl, List.nil_prefix⟩) hlater
    · exact hcons List.nil_prefix hlater

/-- The statements of a text without comments stand in it. -/
theorem infix_of_split {statements : List (List Char)} (h : Uncommented s)
    (hs : split s = .ok statements) : ∀ x ∈ statements, x <:+: s := by
  unfold split at hs
  rw [withoutComments_of h] at hs
  obtain ⟨ps, hps, rfl⟩ := map_eq_ok.mp hs
  intro x hx
  obtain ⟨p, hp, rfl⟩ := List.mem_map.mp (List.mem_filter.mp hx).1
  exact (isInfix_trim p).trans ((infix_of_pieces hps).2 p hp)

end Pieces

section Parts

def depthBehind (depth : Int) (c : Char) : Int :=
  if c = '(' then depth + 1 else if c = ')' then depth - 1 else depth

theorem commaPieces_cons (depth : Int) (c : Char) (s : List Char) : commaPieces depth (c :: s) =
    if c = ',' && depthBehind depth c == 0 then [] :: commaPieces (depthBehind depth c) s
    else onFirst c (commaPieces (depthBehind depth c) s) := rfl

theorem head_commaPieces (depth : Int) (s : List Char) :
    (commaPieces depth s).head?.map beginsBlank = some (beginsBlank s) := by
  cases s with
  | nil => rfl
  | cons c s =>
    rw [commaPieces_cons]
    split
    · rename_i hcomma
      obtain rfl : c = ',' := of_decide_eq_true (Bool.and_eq_true_iff.mp hcomma).1
      rfl
    · exact head_onFirst c _

theorem commaPieces_ne_nil (depth : Int) (s : List Char) : commaPieces depth s ≠ [] := by
  intro hnil
  have hhead := head_commaPieces depth s
  rw [hnil] at hhead
  cases hhead

theorem commaPieces_condense (depth : Int) (s : List Char) :
    commaPieces depth (condense s) = (commaPieces depth s).map condense := by
  induction s generalizing depth with
  | nil => rfl
  | cons c s ih =>
    cases hc : isLayout c with
    | false =>
      rw [condense_cons hc, commaPieces_cons, commaPieces_cons, ih]
      split
      · rfl
      · exact (onFirst_condense hc _).symm
    | true =>
      have hblank (d : Char) (hd : isLayout d = true) (t : List Char) :
          commaPieces depth (d :: t) = onFirst d (commaPieces depth t) := by
        have hne (e : Char) (he : isLayout e = false) : d ≠ e := by
          rintro rfl
          rw [hd] at he
          cases he
        simp [commaPieces_cons, depthBehind, hne '(' (by decide), hne ')' (by decide), hne ',' (by decide)]
      rw [condense_layout hc, hblank c hc, onFirst_condense_layout hc (head_commaPieces depth s),
        apply_ite (commaPieces depth), hblank ' ' isLayout_space, ih]

theorem commaParts_condense (s : List Char) :
    commaParts (condense s) = (commaParts s).map condense := by
  have hparts : (commaPieces 0 (condense s)).map trim =
      ((commaPieces 0 s).map trim).map condense := by
    simp only [commaPieces_condense, List.map_map, Function.comp_def, trim_condense]
  have hblank (parts : List (List Char)) : parts.map condense = [[]] ↔ parts = [[]] := by
    rw [List.map_eq_singleton_iff]
    simp [condense_eq_nil]
  unfold commaParts
  simp only [hparts, hblank]
  split <;> rfl

end Parts

section Around

variable {sign : Char} {before after : List Char}

theorem around?_append (h : sign ∉ before) (after : List Char) :
    around? sign (before ++ sign :: after) = some (before, after) := by
  induction before with
  | nil => simp [around?]
  | cons c before ih =>
    obtain ⟨hc, hbefore⟩ : sign ≠ c ∧ sign ∉ before := by simpa using h
    rw [List.cons_append, around?, if_neg (Ne.symm hc), ih hbefore]
    rfl

theorem around?_eq_none (h : sign ∉ s) : around? sign s = none := by
  induction s with
  | nil => rfl
  | cons c s ih =>
    obtain ⟨hc, hs⟩ : sign ≠ c ∧ sign ∉ s := by simpa using h
    rw [around?, if_neg (Ne.symm hc), ih hs]
    rfl

theorem aroundLast?_eq_none (h : sign ∉ s) : aroundLast? sign s = none := by
  induction s with
  | nil => rfl
  | cons c s ih =>
    obtain ⟨hc, hs⟩ : sign ≠ c ∧ sign ∉ s := by simpa using h
    rw [aroundLast?, ih hs]
    exact if_neg (Ne.symm hc)

theorem aroundLast?_append (before : List Char) (h : sign ∉ after) :
    aroundLast? sign (before ++ sign :: after) = some (before, after) := by
  induction before with
  | nil =>
    rw [List.nil_append, aroundLast?, aroundLast?_eq_none h]
    exact if_pos rfl
  | cons c before ih => rw [List.cons_append, aroundLast?, ih]

theorem around?_eq_some (h : around? sign s = some (before, after)) :
    s = before ++ sign :: after := by
  by_cases hmem : sign ∈ s
  · obtain ⟨b, a, rfl, hb⟩ := List.eq_append_cons_of_mem hmem
    rw [around?_append hb] at h
    cases h
    rfl
  · rw [around?_eq_none hmem] at h
    cases h

theorem exists_last_of_mem (h : sign ∈ s) :
    ∃ before after, s = before ++ sign :: after ∧ sign ∉ after := by
  obtain ⟨b, a, hs, hb⟩ := List.eq_append_cons_of_mem (List.mem_reverse.mpr h)
  refine ⟨a.reverse, b.reverse, ?_, by simpa using hb⟩
  rw [← List.reverse_reverse s, hs]
  simp

theorem aroundLast?_eq_some (h : aroundLast? sign s = some (before, after)) :
    s = before ++ sign :: after ∧ sign ∉ after := by
  by_cases hmem : sign ∈ s
  · obtain ⟨b, a, rfl, ha⟩ := exists_last_of_mem hmem
    rw [aroundLast?_append b ha] at h
    cases h
    exact ⟨rfl, ha⟩
  · rw [aroundLast?_eq_none hmem] at h
    cases h

theorem around?_condense (hsign : isLayout sign = false) (s : List Char) :
    around? sign (condense s) = (around? sign s).map (Prod.map condense condense) := by
  by_cases hmem : sign ∈ s
  · obtain ⟨b, a, rfl, hb⟩ := List.eq_append_cons_of_mem hmem
    rw [condense_append_cons hsign, around?_append hb, around?_append (mt (mem_condense hsign).mp hb)]
    rfl
  · rw [around?_eq_none hmem, around?_eq_none (mt (mem_condense hsign).mp hmem)]
    rfl

theorem aroundLast?_condense (hsign : isLayout sign = false) (s : List Char) :
    aroundLast? sign (condense s) = (aroundLast? sign s).map (Prod.map condense condense) := by
  by_cases hmem : sign ∈ s
  · obtain ⟨b, a, rfl, ha⟩ := exists_last_of_mem hmem
    rw [condense_append_cons hsign, aroundLast?_append b ha,
      aroundLast?_append _ (mt (mem_condense hsign).mp ha)]
    rfl
  · rw [aroundLast?_eq_none hmem, aroundLast?_eq_none (mt (mem_condense hsign).mp hmem)]
    rfl

end Around

section Forms

theorem block?_eq (s : List Char) : block? s =
    (around? '\x7b' s).bind fun (qubits, rest) =>
      if rest.getLast? = some '\x7d' then some (qubits, rest.dropLast) else none := by
  unfold block?
  refine congrArg (Option.bind _) (funext fun ⟨qubits, rest⟩ => ?_)
  dsimp only
  obtain rfl | ⟨body, c, rfl⟩ := List.eq_nil_or_concat rest
  · rfl
  · rw [List.concat_eq_append, List.reverse_append]
    by_cases hc : c = '\x7d'
    · subst hc
      simp
    · simp [hc]

theorem getLast_condense (hc : isLayout c = false) :
    (condense s).getLast? = some c ↔ s.getLast? = some c := by
  rw [List.getLast?_eq_head?_reverse, List.getLast?_eq_head?_reverse, ← condense_reverse]
  exact condense_head_eq hc

theorem block?_condense (s : List Char) :
    block? (condense s) = (block? s).map (Prod.map condense condense) := by
  rw [block?_eq, block?_eq, around?_condense (by decide)]
  cases around? '\x7b' s with
  | none => rfl
  | some p =>
    obtain ⟨qubits, rest⟩ := p
    simp only [Option.map_some, Option.bind_some, Prod.map, getLast_condense
      (show isLayout '\x7d' = false by decide)]
    split
    · rename_i hlast
      obtain ⟨body, rfl⟩ := List.getLast?_eq_some_iff.mp hlast
      rw [condense_append_cons (by decide)]
      simp [condense]
    · rfl

def DefinitionForm.condensed (form : DefinitionForm) : DefinitionForm :=
  ⟨form.name, condense form.parameters, condense form.qubits, condense form.body⟩

def definitionOf (name parameters s : List Char) : Option DefinitionForm :=
  (block? s).map fun p => ⟨name, parameters, p.1, p.2⟩

theorem definitionOf_condense (name parameters s : List Char) :
    definitionOf name (condense parameters) (condense s) =
      (definitionOf name parameters s).map DefinitionForm.condensed := by
  unfold definitionOf
  rw [block?_condense, Option.map_map, Option.map_map]
  rfl

def definitionBehind (name s : List Char) : Option DefinitionForm :=
  (((afterPrefix? ['('] s).bind (around? ')')).bind fun p => definitionOf name p.1 p.2).or
    (definitionOf name [] s)

theorem definitionBehind_condense (name s : List Char) :
    definitionBehind name (condense s) = (definitionBehind name s).map DefinitionForm.condensed := by
  unfold definitionBehind
  rw [Option.map_or, afterPrefix?_condense (by decide)]
  refine congrArg₂ Option.or ?_ (definitionOf_condense name [] s)
  cases afterPrefix? ['('] s with
  | none => rfl
  | some inside =>
    rw [Option.map_some, Option.bind_some, Option.bind_some, around?_condense (by decide)]
    cases around? ')' inside with
    | none => rfl
    | some p => exact definitionOf_condense name p.1 p.2

theorem afterPrefix?_of_ne (h : s.head? ≠ some c) : afterPrefix? [c] s = none := by
  cases s with
  | nil => rfl
  | cons d s =>
    have hne : c ≠ d := by
      rintro rfl
      exact h rfl
    rw [afterPrefix?, if_neg hne]

theorem definition?_eq (s : List Char) : definition? s =
    (((afterPrefix? "gate".toList s).bind afterBlanks?).bind identifier?).bind
      fun p => definitionBehind p.1 (trimLeft p.2) := by
  unfold definition?
  simp only [Option.bind_eq_bind]
  cases (afterPrefix? "gate".toList s).bind afterBlanks? with
  | none => rfl
  | some rest =>
    rw [Option.bind_some, Option.bind_some]
    cases identifier? rest with
    | none => rfl
    | some p =>
      obtain ⟨name, rest⟩ := p
      rw [Option.bind_some, Option.bind_some]
      dsimp only
      generalize trimLeft rest = rest
      by_cases hopen : rest.head? = some '('
      · obtain ⟨inside, rfl⟩ := List.head?_eq_some_iff.mp hopen
        have hblock (q : List Char × List Char) : ((block? q.2).bind fun p =>
            some (DefinitionForm.mk name q.1 p.1 p.2)) = definitionOf name q.1 q.2 := by
          rw [definitionOf]
          cases block? q.2 <;> rfl
        simp only [hblock, definitionBehind, afterPrefix?]
        rfl
      · unfold definitionBehind
        rw [afterPrefix?_of_ne hopen]
        split
        · exact absurd rfl hopen
        · rfl

theorem definition?_condense (s : List Char) :
    definition? (condense s) = (definition? s).map DefinitionForm.condensed := by
  rw [definition?_eq, definition?_eq, afterPrefix?_condense (by decide)]
  cases afterPrefix? "gate".toList s with
  | none => rfl
  | some rest =>
    rw [Option.map_some, Option.bind_some, Option.bind_some, afterBlanks?_condense]
    cases afterBlanks? rest with
    | none => rfl
    | some rest =>
      rw [Option.map_some, Option.bind_some, Option.bind_some, identifier?_condense]
      cases identifier? rest with
      | none => rfl
      | some p =>
        rw [Option.map_some, Option.bind_some, Option.bind_some, trimLeft_condense]
        exact definitionBehind_condense _ _

def CallForm.condensed (form : CallForm) : CallForm :=
  ⟨form.gate, condense form.parameters, condense form.qubits⟩

def callBehind (gate s : List Char) : CallForm :=
  (((afterPrefix? ['('] s).bind (aroundLast? ')')).map
    fun p => CallForm.mk gate p.1 (trimLeft p.2)).getD ⟨gate, [], s⟩

theorem callBehind_condense (gate s : List Char) :
    callBehind gate (condense s) = (callBehind gate s).condensed := by
  unfold callBehind
  rw [afterPrefix?_condense (by decide)]
  cases afterPrefix? ['('] s with
  | none => rfl
  | some inside =>
    rw [Option.map_some, Option.bind_some, Option.bind_some, aroundLast?_condense (by decide)]
    cases aroundLast? ')' inside with
    | none => rfl
    | some p =>
      rw [Option.map_some, Option.map_some, Option.map_some, Option.getD_some, Option.getD_some,
        CallForm.condensed, Prod.map, trimLeft_condense]

theorem call?_eq (s : List Char) :
    call? s = (identifier? s).map fun p => callBehind p.1 (trimLeft p.2) := by
  unfold call?
  cases identifier? s with
  | none => rfl
  | some p =>
    obtain ⟨gate, rest⟩ := p
    simp only [Option.bind_eq_bind, Option.bind_some, Option.map_some]
    generalize trimLeft rest = rest
    by_cases hopen : rest.head? = some '('
    · obtain ⟨inside, rfl⟩ := List.head?_eq_some_iff.mp hopen
      cases h : aroundLast? ')' inside <;> simp [callBehind, afterPrefix?, h]
    · unfold callBehind
      rw [afterPrefix?_of_ne hopen]
      split
      · exact absurd rfl hopen
      · rfl

theorem call?_condense (s : List Char) :
    call? (condense s) = (call? s).map CallForm.condensed := by
  rw [call?_eq, call?_eq, identifier?_condense]
  cases identifier? s with
  | none => rfl
  | some p =>
    rw [Option.map_some, Option.map_some, Option.map_some, trimLeft_condense, callBehind_condense]
    rfl

theorem barrier?_eq (s : List Char) : barrier? s =
    (afterPrefix? "barrier".toList s).bind fun rest =>
      if rest.head?.any isWord then none else some rest := by
  unfold barrier?
  refine congrArg (Option.bind _) (funext fun rest => ?_)
  cases rest <;> rfl

theorem barrier?_condense (s : List Char) : barrier? (condense s) = (barrier? s).map condense := by
  rw [barrier?_eq, barrier?_eq, afterPrefix?_condense (by decide)]
  cases afterPrefix? "barrier".toList s with
  | none => rfl
  | some rest =>
    have hword : (condense rest).head?.any isWord = rest.head?.any isWord :=
      any_head_condense (fun c hc => (isWord_of_isLayout hc).trans (by decide)) rest
    rw [Option.map_some, Option.bind_some, Option.bind_some, hword]
    split <;> rfl

theorem tight_of_isIdentifier (h : isIdentifier s = true) : Tight s := by
  cases s with
  | nil => cases h
  | cons c s =>
    have hnot (d : Char) (hd : isWord d = true ∨ isIdentifierStart d = true) :
        isLayout d = false := by
      by_contra hlayout
      have hlayout : isLayout d = true := by simpa using hlayout
      rw [isWord_of_isLayout hlayout, isIdentifierStart_of_isLayout hlayout] at hd
      simp at hd
    obtain ⟨hc, hs⟩ := Bool.and_eq_true_iff.mp h
    exact List.forall_mem_cons.mpr
      ⟨hnot c (.inr hc), fun d hd => hnot d (.inl (List.all_eq_true.mp hs d hd))⟩

theorem isIdentifier_condense (s : List Char) : isIdentifier (condense s) = isIdentifier s := by
  by_cases hs : Tight s
  · rw [condense_of_tight hs]
  · rw [Bool.eq_iff_iff]
    exact iff_of_false (fun h => hs (tight_condense.mp (tight_of_isIdentifier h)))
      (fun h => hs (tight_of_isIdentifier h))

end Forms

end CircuitConsole.Statement
