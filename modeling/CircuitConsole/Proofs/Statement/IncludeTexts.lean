import CircuitConsole.Proofs.Statement.Blocks
import CircuitConsole.Proofs.Statement.Forms
import CircuitConsole.Proofs.Statement.Splitting

/-!
Statements that include a file. They are ignored when the name of the file stands between the only
two quotes. A text is cut without regard to quotes, though, so that a name may be cut off before its
second quote. What is left is read as the call of a gate, and no such call is accepted, since its
first argument begins with a quote.
-/

namespace CircuitConsole.Statement

open Text

variable {s t name : List Char}

def includeLead : List Char := "include \"".toList

def includeText (name : List Char) : List Char := includeLead ++ (name ++ ['"'])

section Spacing

theorem mem_visible {c : Char} : c ∈ visible s ↔ c ∈ s ∧ isBlank c = false := by
  simp [visible]

/-- A character that is not seen in a text is not in one that shows the same. -/
theorem not_mem_of_visible {c : Char} (h : visible t = visible s) (hc : isBlank c = false)
    (hs : c ∉ s) : c ∉ t := fun ht => by
  have hseen := mem_visible.mpr ⟨ht, hc⟩
  rw [h] at hseen
  exact hs (mem_visible.mp hseen).1

/-- The words of a text hold all that is to be seen of it. -/
theorem flatten_words (s : List Char) : (words s).flatten = visible s := by
  induction s with
  | nil => rfl
  | cons c s ih =>
    cases hc : isBlank c with
    | true =>
      rw [words_blank hc, ih]
      simp [visible, hc]
    | false =>
      have hvisible : visible (c :: s) = c :: visible s := by simp [visible, hc]
      rw [hvisible]
      cases s with
      | nil => rw [words_single hc]; rfl
      | cons d s =>
        cases hd : isBlank d with
        | true =>
          rw [words_end hc hd, List.flatten_cons, ih]
          rfl
        | false =>
          obtain ⟨w, ws, hwords⟩ := words_cons hd s
          rw [words_extend hc hd hwords, ← ih, hwords]
          rfl

theorem visible_intercalate (ws : List (List Char)) :
    visible ([' '].intercalate ws) = visible ws.flatten := by
  have hspace : visible [' '] = [] := by decide
  induction ws with
  | nil => rfl
  | cons w ws ih =>
    cases ws with
    | nil => simp
    | cons v ws =>
      rw [List.intercalate_cons_cons, visible_append, visible_append, hspace, List.append_nil, ih,
        ← visible_append]
      rfl

theorem visible_collapse (s : List Char) : visible (collapse s) = visible s := by
  rw [collapse, visible_intercalate, flatten_words]
  exact List.filter_filter.trans (by simp [visible])

/-- With its blanks put in order, a text that begins to name a file still does so, and the rest of
it shows the same. -/
theorem collapse_lead (s : List Char) :
    ∃ u, collapse (includeLead ++ s) = includeLead ++ u ∧ Spaced ('"' :: u) ∧
      visible u = visible s := by
  have hword : Solid "include".toList := solid_of_all (by decide) (by decide)
  have hquote : isBlank '"' = false := by decide
  obtain ⟨w, ws, hwords⟩ := words_cons hquote s
  have hcollapse : collapse ('"' :: s) = '"' :: [' '].intercalate (w :: ws) := by
    rw [collapse, hwords]
    cases ws <;> rfl
  have hvisible := visible_collapse ('"' :: s)
  have hspaced := spaced_collapse ('"' :: s)
  rw [hcollapse] at hvisible hspaced
  refine ⟨_, ?_, hspaced, (List.cons.inj hvisible).2⟩
  have hall : words (includeLead ++ s) = "include".toList :: words ('"' :: s) :=
    words_append_blank hword (by decide) ('"' :: s)
  rw [collapse, hall, hwords, List.intercalate_cons_cons, ← hwords, ← collapse, hcollapse]
  rfl

/-- Nothing is trimmed off in front of a quote. -/
theorem trim_quoted (s : List Char) : trim ('"' :: s) = '"' :: trimRight s :=
  trimRight_solid (solid_of_all (by decide) (by decide) : Solid ['"']) s

theorem trim_lead (s : List Char) :
    ∃ u, trim (includeLead ++ s) = includeLead ++ u ∧ visible u = visible s := by
  have hvisible := visible_trim ('"' :: s)
  rw [trim_quoted] at hvisible
  refine ⟨trimRight s, ?_, (List.cons.inj hvisible).2⟩
  have hright : trimRight ('"' :: s) = '"' :: trimRight s := trim_quoted s
  have hleft : trim (includeLead ++ s) = trimRight ("include ".toList ++ '"' :: s) := rfl
  rw [hleft, trimRight_append_eq, hright, if_neg (List.cons_ne_nil _ _)]
  rfl

theorem tidy_lead (s : List Char) :
    ∃ u, tidy (includeLead ++ s) = includeLead ++ u ∧ visible u = visible s := by
  unfold tidy
  split
  · exact trim_lead s
  · obtain ⟨u, hu, -, hvisible⟩ := collapse_lead s
    exact ⟨u, hu, hvisible⟩

end Spacing

section Forms

theorem isInclude_lead (s : List Char) :
    isInclude (includeLead ++ s) = decide (s.dropWhile (· ≠ '"') = ['"']) := rfl

/-- As an operation the word is a gate, and the quote begins its first argument. -/
theorem operation_lead (d : Draft) (condition : Option Condition) (s : List Char)
    (room : Capacity) :
    d.operation condition (includeLead ++ s) room =
      d.call condition ⟨"include".toList, [], '"' :: s⟩ room := rfl

theorem not_mem_includeText {c : Char} (hlead : c ∉ includeLead) (hname : c ∉ name) (hc : c ≠ '"') :
    c ∉ includeText name := by
  simp [includeText, hlead, hname, hc]

/-- The quote at the end of a name is the only one behind the first. -/
theorem dropWhile_quote {u : List Char} (hspaced : Spaced ('"' :: u))
    (hvisible : visible u = visible (name ++ ['"'])) (hquote : '"' ∉ name) :
    u.dropWhile (· ≠ '"') = ['"'] := by
  have hend : visible ['"'] = ['"'] := by decide
  rw [visible_append, hend] at hvisible
  have hmem : '"' ∈ u := (mem_visible.mp (by rw [hvisible]; simp)).1
  obtain ⟨front, back, rfl, hfront⟩ := List.eq_append_cons_of_mem hmem
  have hparts : visible name ++ '"' :: [] = visible front ++ '"' :: visible back := by
    rw [← hvisible, visible_append]
    rfl
  obtain ⟨-, -, hnil⟩ := (List.append_cons_inj_of_notMem (fun h => hquote (mem_visible.mp h).1)
    List.not_mem_nil).mp hparts
  have hblank : ∀ c ∈ back, isBlank c = true := fun c hc => by
    by_contra hsolid
    exact List.not_mem_nil (hnil ▸ mem_visible.mpr ⟨hc, by simpa using hsolid⟩)
  have hbehind : Spaced (('"' :: front ++ ['"']) ++ back) := by simpa using hspaced
  rw [hbehind.blanks_end hblank, List.dropWhile_append_of_pos,
    List.dropWhile_cons_of_neg (by simp)]
  intro c hc
  simpa using fun h : c = '"' => hfront (h ▸ hc)

/-- A name between quotes is not looked at. -/
theorem form_of_includeText (hopen : '\x7b' ∉ name) (hquote : '"' ∉ name) :
    Form.of (includeText name) = .ignored := by
  have hbrace := not_mem_includeText (by decide) hopen (by decide)
  obtain ⟨u, hu, hspaced, hvisible⟩ := collapse_lead (name ++ ['"'])
  have htidy : tidy (includeText name) = includeLead ++ u :=
    (if_neg (by simpa using hbrace)).trans hu
  have hinclude : isInclude (includeLead ++ u) = true := by
    rw [isInclude_lead, dropWhile_quote hspaced hvisible hquote]
    rfl
  unfold Form.of
  simp only [htidy, hinclude, Bool.or_true, if_true]

theorem commaParts_quoted (s : List Char) :
    ∃ p ps, commaParts ('"' :: s) = ('"' :: p) :: ps := by
  have hpieces : commaPieces 0 ('"' :: s) = onFirst '"' (commaPieces 0 s) := rfl
  obtain ⟨p, ps, hp⟩ := List.exists_cons_of_ne_nil (commaPieces_ne_nil 0 s)
  refine ⟨trimRight p, ps.map trim, ?_⟩
  unfold commaParts
  rw [hpieces, hp, onFirst, List.map_cons, trim_quoted]
  rfl

theorem resolve_quoted (table : RegisterTable) (kind : RegisterKind) (s : List Char)
    (room : Capacity) :
    ∃ text, resolve table kind ('"' :: s) room = .error (.badReference kind text) := by
  unfold resolve
  rw [trim_quoted]
  exact ⟨_, rfl⟩

theorem checkArity_eq_error {definitions : List Definition} {gate : String}
    {parameters qubits : Nat} {fault : Fault}
    (h : checkArity definitions gate parameters qubits = .error fault) :
    fault.label = "ParseError" ∧ (arity? definitions gate = none → fault = .unknownGate gate) := by
  unfold checkArity at h
  split at h
  · obtain rfl := Except.error.inj h
    exact ⟨rfl, fun _ => rfl⟩
  · rename_i harity
    rw [harity]
    split at h
    · obtain rfl := Except.error.inj h
      exact ⟨rfl, nofun⟩
    · split at h
      · obtain rfl := Except.error.inj h
        exact ⟨rfl, nofun⟩
      · cases h

/-- A first argument that begins with a quote is no reference to qubits. -/
theorem call_quoted (d : Draft) (condition : Option Condition) (gate : List Char) (s : List Char)
    (room : Capacity) : ∃ fault, d.call condition ⟨gate, [], '"' :: s⟩ room = .error fault ∧
      fault.label = "ParseError" ∧
      (arity? d.definitions (String.ofList gate) = none →
        fault = .unknownGate (String.ofList gate)) := by
  obtain ⟨p, ps, hparts⟩ := commaParts_quoted s
  obtain ⟨text, hresolve⟩ := resolve_quoted d.quantum .quantum p room
  have hexpressions : (commaParts []).map String.ofList = [] := rfl
  unfold Draft.call
  simp only [hparts, hexpressions]
  cases hcheck : checkArity d.definitions (String.ofList gate) ([] : List String).length
    (('"' :: p) :: ps).length with
  | error fault => exact ⟨fault, rfl, checkArity_eq_error hcheck⟩
  | ok _ =>
    refine ⟨.badReference .quantum text, ?_, rfl, fun hunknown => ?_⟩
    · rw [List.mapM_cons, hresolve]
      rfl
    · rw [checkArity, hunknown] at hcheck
      cases hcheck

/-- A statement without a second quote fails, since it is taken for a call. -/
theorem statement_unclosed (d : Draft) (room : Capacity) (hquote : '"' ∉ s) :
    ∃ fault, d.statement (includeLead ++ s) room = .error fault ∧ fault.label = "ParseError" ∧
      (arity? d.definitions "include" = none → fault = .unknownGate "include") := by
  obtain ⟨u, htidy, hvisible⟩ := tidy_lead s
  have hu := not_mem_of_visible hvisible (by decide) hquote
  have hinclude : isInclude (includeLead ++ u) = false := by
    rw [isInclude_lead, decide_eq_false_iff_not]
    intro h
    exact hu ((List.dropWhile_suffix _).subset (h ▸ List.mem_singleton_self _))
  have hform : Form.of (includeLead ++ s) = .operation (includeLead ++ u) := by
    unfold Form.of
    simp only [htidy, hinclude, Bool.or_false]
    rfl
  obtain ⟨fault, hcall, hlabel⟩ := call_quoted d none "include".toList u (room.inside 1)
  refine ⟨fault, ?_, hlabel⟩
  rw [Draft.statement_operation hform, ← hcall]
  exact operation_lead d none u (room.inside 1)

end Forms

section Cutting

theorem isPrefix_beforeComment (s : List Char) : beforeComment s <+: s := by
  fun_induction beforeComment s with
  | case1 => exact List.prefix_refl _
  | case2 => exact List.nil_prefix
  | case3 c rest _ ih => exact List.cons_prefix_cons.mpr ⟨rfl, ih⟩

/-- What follows a comment on its line belongs to it. -/
theorem beforeComment_append (h : ¬ Uncommented s) (t : List Char) :
    beforeComment (s ++ t) = beforeComment s := by
  fun_induction beforeComment s with
  | case1 => exact absurd (uncommented_of_not_mem List.not_mem_nil) h
  | case2 rest => rfl
  | case3 c rest hplain ih =>
    have hrest : ¬ Uncommented rest := fun hrest => by
      rcases List.infix_cons_iff.mp (not_not.mp h) with hfirst | hlater
      · obtain ⟨rfl, hsecond⟩ := List.cons_prefix_cons.mp hfirst
        obtain ⟨more, rfl⟩ := hsecond
        exact hplain more rfl rfl
      · exact hrest hlater
    have happend : beforeComment (c :: (rest ++ t)) = c :: beforeComment (rest ++ t) := by
      refine beforeComment.eq_3 c _ fun more hc hmore => ?_
      cases rest with
      | nil => exact hrest (uncommented_of_not_mem List.not_mem_nil)
      | cons d rest =>
        obtain ⟨rfl, -⟩ := List.cons.inj hmore
        exact hplain rest hc rfl
    rw [List.cons_append, happend, ih hrest]

theorem plain_includeText (h : Plain name) : Plain (includeText name) where
  opening := not_mem_includeText (by decide) h.opening (by decide)
  closing := not_mem_includeText (by decide) h.closing (by decide)
  ending := not_mem_includeText (by decide) h.ending (by decide)
  uncommented := by
    have hparts : includeText name = "include ".toList ++ '"' :: (name ++ '"' :: []) := rfl
    rw [hparts]
    exact uncommented_append_cons (by decide) (uncommented_of_not_mem (by decide))
      (uncommented_append_cons (by decide) h.uncommented (uncommented_of_not_mem (by decide)))

theorem trim_includeText (name : List Char) : trim (includeText name) = includeText name := by
  have hquote : trimRight ['"'] = ['"'] := by decide
  have hleft : trim (includeText name) = trimRight (includeLead ++ (name ++ ['"'])) := rfl
  rw [hleft, ← List.append_assoc, trimRight_append_eq, hquote, if_neg (by simp),
    List.append_assoc]
  rfl

theorem split_includeText (h : Plain name) :
    split (includeText name ++ [';']) = .ok [includeText name] := by
  have hne : trim (includeText name) ≠ [] := by
    rw [trim_includeText]
    exact List.cons_ne_nil _ _
  rw [(plain_includeText h).split_eq hne (.inr rfl), trim_includeText]

/-- A name that is not plain is cut off in front of its last quote. -/
theorem not_mem_first_piece {q : List Char} {qs : List (List Char)} (hquote : '"' ∉ name)
    (hline : '\n' ∉ name) (hname : ¬ Plain name)
    (h : pieces 0 (withoutComments false (name ++ ['"', ';'])) = .ok (q :: qs)) : '"' ∉ q := by
  intro hmem
  have hfront := (infix_of_pieces h).1 q rfl
  have hpiece := piece_of_mem h (List.mem_cons_self ..)
  by_cases hcomment : Uncommented name
  · have hwhole : Uncommented (name ++ ['"', ';']) :=
      uncommented_append_cons (by decide) hcomment (by decide)
    rw [withoutComments_of hwhole] at hfront
    obtain ⟨r, hr⟩ := hfront
    rcases List.append_eq_append_iff.mp hr with ⟨more, rfl, -⟩ | ⟨back, rfl, hback⟩
    · exact hquote (List.mem_append_left more hmem)
    · have hne : back ≠ [] := by
        rintro rfl
        exact hquote (by simpa using hmem)
      -- a block would end the piece before the quote
      have hopen : '\x7b' ∉ name ++ back := fun hopen => by
        have hblock := (hpiece.endsBlock (.inr hopen)).suffix (List.suffix_append name back) hne
        have hsigns : '\x7d' ∈ ['"', ';'] := hback ▸ List.mem_append_left r hblock.mem
        exact absurd hsigns (by decide)
      obtain ⟨hclose, hend⟩ := hpiece.clean hopen
      exact hname ⟨fun hc => hopen (List.mem_append_left back hc),
        fun hc => hclose (List.mem_append_left back hc),
        fun hc => hend (List.mem_append_left back hc), hcomment⟩
  · have hfeed : '\n' ∉ name ++ ['"', ';'] := by simp [hline]
    rw [withoutComments_line hfeed, beforeComment_append hcomment] at hfront
    exact hquote ((hfront.trans (isPrefix_beforeComment name)).subset hmem)

/-- The first statement of such a line is one without a second quote. -/
theorem split_unplain {statements : List (List Char)} (hquote : '"' ∉ name) (hline : '\n' ∉ name)
    (hname : ¬ Plain name) (h : split (includeText name ++ [';']) = .ok statements) :
    ∃ s rest, statements = (includeLead ++ s) :: rest ∧ '"' ∉ s := by
  obtain ⟨ps, hps, rfl⟩ := map_eq_ok.mp h
  have hlead : withoutComments false (includeText name ++ [';']) =
      includeLead ++ withoutComments false (name ++ ['"', ';']) := by
    rw [includeText, List.append_assoc, List.append_assoc]
    rfl
  rw [hlead, pieces_append (by decide) (by decide) (by decide)] at hps
  obtain ⟨qs, hqs, rfl⟩ := map_eq_ok.mp hps
  obtain ⟨q, rest, rfl, -⟩ := pieces_eq_ok hqs
  have hq := not_mem_first_piece hquote hline hname hqs
  obtain ⟨u, hu, hvisible⟩ := trim_lead q
  have hne : includeLead ++ u ≠ [] := List.cons_ne_nil _ _
  refine ⟨u, kept rest, ?_, not_mem_of_visible hvisible (by decide) hq⟩
  rw [foldr_onFirst, ← kept, kept_cons, hu, if_neg hne]

end Cutting

end CircuitConsole.Statement
