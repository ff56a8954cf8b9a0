import CircuitConsole.Proofs.Statement.ArgumentLists
import CircuitConsole.Proofs.Text.Spacing

/-!
Texts of single statements, without comments, braces and semicolons in them. With semicolons between
them they are cut where the semicolons are.
-/

namespace CircuitConsole.Statement

open Text

variable {s t x rest : List Char} {c : Char}

theorem uncommented_append_cons (hc : c ≠ '/') (hs : Uncommented s) (ht : Uncommented t) :
    Uncommented (s ++ c :: t) := by
  induction s with
  | nil =>
    intro hslashes
    rcases List.infix_cons_iff.mp hslashes with hfirst | hlater
    · exact hc (List.cons_prefix_cons.mp hfirst).1.symm
    · exact ht hlater
  | cons d s ih =>
    have hrest : Uncommented s := hs.part (List.infix_cons (List.infix_refl s))
    intro hslashes
    rw [List.cons_append] at hslashes
    rcases List.infix_cons_iff.mp hslashes with hfirst | hlater
    · obtain ⟨rfl, hsecond⟩ := List.cons_prefix_cons.mp hfirst
      cases s with
      | nil => exact hc (List.cons_prefix_cons.mp hsecond).1.symm
      | cons e s =>
        obtain ⟨rfl, -⟩ := List.cons_prefix_cons.mp hsecond
        exact hs ⟨[], s, rfl⟩
    · exact ih hrest hlater

theorem uncommented_of_not_mem (h : '/' ∉ s) : Uncommented s :=
  fun hslashes => h (hslashes.subset (List.mem_cons_self ..))

theorem Uncommented.cons (hc : c ≠ '/') (hs : Uncommented s) : Uncommented (c :: s) :=
  uncommented_append_cons (s := []) hc (uncommented_of_not_mem List.not_mem_nil) hs

/-- Nothing is left of comments, and none comes about where one has been. -/
theorem uncommented_withoutComments (comment : Bool) (s : List Char) :
    Uncommented (withoutComments comment s) := by
  fun_induction withoutComments comment s with
  | case1 => exact uncommented_of_not_mem List.not_mem_nil
  | case2 rest ih => exact ih.cons (by decide)
  | case3 c rest hc ih => exact ih
  | case4 rest ih => exact ih
  | case5 c rest hplain ih =>
    by_cases hc : c = '/'
    · subst hc
      cases rest with
      | nil =>
        intro hslashes
        have hlength := hslashes.length_le
        simp [withoutComments] at hlength
      | cons d rest =>
        have hd : d ≠ '/' := fun hd => hplain rest rfl (by rw [hd])
        rw [withoutComments_cons fun h => absurd h hd] at ih ⊢
        exact uncommented_append_cons (s := ['/']) hd (by decide)
          (ih.part (List.infix_cons (List.infix_refl _)))
    · exact ih.cons hc

/-- Nothing is cut where there is neither a brace nor a semicolon. -/
theorem pieces_append {p : List Char} (hopen : '\x7b' ∉ p) (hclose : '\x7d' ∉ p) (hend : ';' ∉ p)
    (rest : List Char) : pieces 0 (p ++ rest) = (pieces 0 rest).map (p.foldr onFirst ·) := by
  induction p with
  | nil =>
    rw [List.nil_append]
    cases pieces 0 rest <;> rfl
  | cons c p ih =>
    simp only [List.mem_cons, not_or] at hopen hclose hend
    have hcut : cutAt 0 c = .ok (0, onFirst c) := by
      simp [cutAt, Ne.symm hopen.1, Ne.symm hclose.1, Ne.symm hend.1]
    rw [List.cons_append, pieces_cons, hcut]
    change (pieces 0 (p ++ rest)).map (onFirst c) = _
    rw [ih hopen.2 hclose.2 hend.2]
    cases pieces 0 rest <;> rfl

/-- A text in which no statement ends and nothing is left out. -/
structure Plain (s : List Char) : Prop where
  opening : '\x7b' ∉ s
  closing : '\x7d' ∉ s
  ending : ';' ∉ s
  uncommented : Uncommented s

theorem Plain.part (h : Plain s) (ht : t <:+: s) : Plain t where
  opening hc := h.opening (ht.subset hc)
  closing hc := h.closing (ht.subset hc)
  ending hc := h.ending (ht.subset hc)
  uncommented := h.uncommented.part ht

/-- Two texts with a space between them. -/
theorem Plain.append (hs : Plain s) (ht : Plain t) : Plain (s ++ ' ' :: t) where
  opening := by simp [hs.opening, ht.opening]
  closing := by simp [hs.closing, ht.closing]
  ending := by simp [hs.ending, ht.ending]
  uncommented := uncommented_append_cons (by decide) hs.uncommented ht.uncommented

/-- The end of a text replaced by another one. -/
theorem Plain.replace (h : Plain (x ++ s)) (ht : Plain t) (hfirst : t.head? ≠ some '/') :
    Plain (x ++ t) where
  opening := by simpa [ht.opening] using (h.part (List.prefix_append x s).isInfix).opening
  closing := by simpa [ht.closing] using (h.part (List.prefix_append x s).isInfix).closing
  ending := by simpa [ht.ending] using (h.part (List.prefix_append x s).isInfix).ending
  uncommented := by
    have hx : Uncommented x := h.uncommented.part (List.prefix_append x s).isInfix
    cases t with
    | nil => rwa [List.append_nil]
    | cons c t =>
      have hc : c ≠ '/' := fun hc => hfirst (by rw [hc]; rfl)
      exact uncommented_append_cons hc hx
        (ht.uncommented.part (List.infix_cons (List.infix_refl t)))

theorem ReferenceText.plain (h : ReferenceText s) : Plain s where
  opening := h.not_mem (by decide)
  closing := h.not_mem (by decide)
  ending := h.not_mem (by decide)
  uncommented := uncommented_of_not_mem (h.not_mem (by decide))

theorem Plain.collapse (h : Plain s) : Plain (collapse s) := by
  have hslashes : Solid ['/', '/'] := solid_of_all (by decide) (by decide)
  exact ⟨fun hc => h.opening (mem_of_collapse hc (by decide)),
    fun hc => h.closing (mem_of_collapse hc (by decide)),
    fun hc => h.ending (mem_of_collapse hc (by decide)),
    fun hinfix => h.uncommented (infix_of_collapse hslashes hinfix)⟩

theorem plain_of_collapse (h : Plain (collapse s)) : Plain s where
  opening hc := h.opening (mem_collapse hc (by decide))
  closing hc := h.closing (mem_collapse hc (by decide))
  ending hc := h.ending (mem_collapse hc (by decide))
  uncommented hslashes :=
    h.uncommented (infix_collapse (solid_of_all (by decide) (by decide)) hslashes)

theorem tidy_of_spaced (hplain : Plain s) (hspaced : Spaced s) : tidy s = s := by
  rw [tidy, if_neg (by simpa using hplain.opening), hspaced.collapse_eq]

theorem Piece.clean {p : List Char} (h : Piece 0 p) (hopen : '\x7b' ∉ p) :
    '\x7d' ∉ p ∧ ';' ∉ p := by
  induction p with
  | nil => exact ⟨List.not_mem_nil, List.not_mem_nil⟩
  | cons c p ih =>
    cases h with
    | opening => exact absurd (List.mem_cons_self ..) hopen
    | letter _ hclose hend hp =>
      obtain ⟨hbrace, hsemicolon⟩ := ih hp fun hmem => hopen (List.mem_cons_of_mem c hmem)
      simp only [List.mem_cons, not_or]
      exact ⟨⟨hclose.symm, hbrace⟩, ⟨fun hc => hend hc.symm rfl, hsemicolon⟩⟩

/-- A statement without braces is plain. -/
theorem plain_of_split {statements : List (List Char)} (h : split s = .ok statements) :
    ∀ x ∈ statements, '\x7b' ∉ x → Plain x := by
  obtain ⟨ps, hps, rfl⟩ := map_eq_ok.mp h
  intro x hx hopen
  obtain ⟨p, hp, rfl⟩ := List.mem_map.mp (List.mem_filter.mp hx).1
  have htrim : trim p <:+: p := isInfix_trim p
  obtain ⟨hclose, hend⟩ := (piece_of_mem hps hp).clean fun hmem =>
    hopen (mem_trim hmem (by decide))
  exact ⟨hopen, fun hmem => hclose (htrim.subset hmem), fun hmem => hend (htrim.subset hmem),
    (uncommented_withoutComments false s).part (htrim.trans ((infix_of_pieces hps).2 p hp))⟩

theorem Plain.pieces_semicolon (h : Plain s) (rest : List Char) :
    pieces 0 (s ++ ';' :: rest) = (pieces 0 rest).map (s :: ·) := by
  have hcut : pieces 0 (';' :: rest) = (pieces 0 rest).map ([] :: ·) := rfl
  rw [pieces_append h.opening h.closing h.ending, hcut]
  cases pieces 0 rest with
  | error fault => rfl
  | ok ps =>
    change Except.ok (s.foldr onFirst ([] :: ps)) = _
    rw [foldr_onFirst, List.append_nil]
    rfl

theorem Plain.split_single (h : Plain s) (hne : trim s ≠ []) : split s = .ok [trim s] := by
  have hpieces := pieces_append h.opening h.closing h.ending []
  rw [List.append_nil] at hpieces
  unfold split
  rw [withoutComments_of h.uncommented, hpieces]
  change Except.ok (((s.foldr onFirst [[]]).map trim).filter (· ≠ [])) = _
  rw [foldr_onFirst, List.append_nil, List.map_singleton, List.filter_cons_of_pos (by simpa),
    List.filter_nil]

/-- A statement with a semicolon is the first of a text. -/
theorem Plain.split_semicolon (h : Plain s) (hne : trim s ≠ []) (hrest : Uncommented rest) :
    split (s ++ ';' :: rest) = (split rest).map (trim s :: ·) := by
  unfold split
  rw [withoutComments_of (uncommented_append_cons (by decide) h.uncommented hrest),
    withoutComments_of hrest, h.pieces_semicolon]
  cases pieces 0 rest with
  | error fault => rfl
  | ok ps =>
    change Except.ok (((s :: ps).map trim).filter (· ≠ [])) = _
    rw [List.map_cons, List.filter_cons_of_pos (by simpa)]
    rfl

/-- A text is one statement, also with a semicolon behind it. -/
theorem Plain.split_eq (h : Plain s) (hne : trim s ≠ []) (hrest : rest = [] ∨ rest = [';']) :
    split (s ++ rest) = .ok [trim s] := by
  rcases hrest with rfl | rfl
  · rw [List.append_nil]
    exact h.split_single hne
  · exact h.split_semicolon hne (uncommented_of_not_mem List.not_mem_nil)

def sequence (statements : List (List Char)) : List Char := statements.flatMap (· ++ [';'])

theorem sequence_cons (s : List Char) (statements : List (List Char)) :
    sequence (s :: statements) = s ++ ';' :: sequence statements := by
  rw [sequence, List.flatMap_cons, List.append_assoc]
  rfl

theorem split_sequence {statements : List (List Char)} (h : ∀ s ∈ statements, Plain s)
    (hne : ∀ s ∈ statements, trim s ≠ []) :
    Uncommented (sequence statements) ∧
      split (sequence statements) = .ok (statements.map trim) := by
  induction statements with
  | nil => exact ⟨uncommented_of_not_mem List.not_mem_nil, rfl⟩
  | cons s statements ih =>
    obtain ⟨hs, hstatements⟩ := List.forall_mem_cons.mp h
    obtain ⟨hsne, hne⟩ := List.forall_mem_cons.mp hne
    obtain ⟨huncommented, hsplit⟩ := ih hstatements hne
    rw [sequence_cons, hs.split_semicolon hsne huncommented, hsplit]
    exact ⟨uncommented_append_cons (by decide) hs.uncommented huncommented, rfl⟩

end CircuitConsole.Statement
