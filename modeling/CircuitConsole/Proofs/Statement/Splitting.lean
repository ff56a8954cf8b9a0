import CircuitConsole.Proofs.Statement.Pieces
import CircuitConsole.Proofs.Statement.PlainTexts

/-!
A text cut into its statements. Without the comments of its lines it must have matched braces, and
this is all that is asked. The statements are then trimmed pieces, each with at most one block and
that at its end. They hold the whole text but its blanks and the semicolons between them, in order,
and written one after the other with semicolons between them they are cut out again.
-/

namespace CircuitConsole.Statement

open Text

section Comments

variable {s : List Char}

theorem withoutComments_comment (h : '\n' ∉ s) : withoutComments true s = [] := by
  induction s with
  | nil => rfl
  | cons c s ih =>
    simp only [List.mem_cons, not_or] at h
    rw [withoutComments, if_neg (Ne.symm h.1), ih h.2]

/-- Of a single line only what stands before its comment is kept. -/
theorem withoutComments_line (h : '\n' ∉ s) : withoutComments false s = beforeComment s := by
  fun_induction beforeComment s with
  | case1 => rfl
  | case2 rest =>
    simp only [List.mem_cons, not_or] at h
    exact withoutComments_comment h.2.2
  | case3 c rest hplain ih =>
    rw [withoutComments, ih fun hmem => h (List.mem_cons_of_mem c hmem)]
    exact hplain

/-- Comments are left out line by line. -/
theorem withoutComments_lines {lines : List (List Char)} (h : ∀ line ∈ lines, '\n' ∉ line) :
    withoutComments false (['\n'].intercalate lines) =
      ['\n'].intercalate (lines.map beforeComment) := by
  induction lines with
  | nil => rfl
  | cons line lines ih =>
    obtain ⟨hline, hlines⟩ := List.forall_mem_cons.mp h
    cases lines with
    | nil =>
      rw [List.map_singleton, List.intercalate_singleton, List.intercalate_singleton]
      exact withoutComments_line hline
    | cons next lines =>
      rw [List.map_cons, List.map_cons, List.intercalate_cons_cons, List.intercalate_cons_cons,
        List.append_assoc, List.append_assoc, List.singleton_append, List.singleton_append,
        withoutComments_append_line, withoutComments_line hline, ih hlines, List.map_cons]

theorem not_mem_of_splitOn {c : Char} {s line : List Char} (h : line ∈ s.splitOn c) :
    c ∉ line := by
  induction s generalizing line with
  | nil =>
    rw [List.splitOn_nil, List.mem_singleton] at h
    exact h ▸ List.not_mem_nil
  | cons d s ih =>
    rw [List.splitOn_cons_eq_if_modifyHead] at h
    split at h
    · rcases List.mem_cons.mp h with rfl | h
      · exact List.not_mem_nil
      · exact ih h
    · rename_i hd
      cases hlines : s.splitOn c with
      | nil => exact absurd hlines (List.splitOn_ne_nil c s)
      | cons first rest =>
        rw [hlines] at h ih
        rcases List.mem_cons.mp h with rfl | h
        · have hne : c ≠ d := fun hc => hd (beq_iff_eq.mpr hc.symm)
          exact List.not_mem_cons_of_ne_of_not_mem hne (ih (List.mem_cons_self ..))
        · exact ih (List.mem_cons_of_mem first h)

def bareText (text : List Char) : List Char :=
  ['\n'].intercalate ((text.splitOn '\n').map beforeComment)

theorem withoutComments_eq_bareText (text : List Char) :
    withoutComments false text = bareText text := by
  have hlines := withoutComments_lines fun line (h : line ∈ text.splitOn '\n') =>
    not_mem_of_splitOn h
  rwa [List.intercalate_splitOn] at hlines

end Comments

section Statements

/-- What a text is cut into: a text of its own with matched braces, all semicolons inside them, and
no more after the brace that closes a block. -/
structure IsStatement (s : List Char) : Prop where
  nonempty : s ≠ []
  trimmed : trim s = s
  opensFirst : ∀ front, front <+: s → 0 ≤ braceBalance front
  matched : braceBalance s = 0
  inside : ∀ front back, s = front ++ ';' :: back → 0 < braceBalance front
  block : ∀ front back, s = front ++ '\x7d' :: back → braceBalance front = 1 → back = []

theorem isStatement_trim {p : List Char} (h : Piece 0 p) (hne : trim p ≠ []) :
    IsStatement (trim p) where
  nonempty := hne
  trimmed := trim_trim p
  opensFirst front hfront := by simpa using h.trim.staysOpen front hfront
  matched := by simpa using h.trim.balance
  inside front back hs := by
    have hinside : Piece 0 (front ++ ';' :: back) := hs ▸ h.trim
    simpa using hinside.inside
  block front back hs hlast := by
    have hblock : Piece 0 (front ++ '\x7d' :: back) := hs ▸ h.trim
    exact hblock.block (by simpa using hlast)

def kept (ps : List (List Char)) : List (List Char) := (ps.map trim).filter (· ≠ [])

theorem kept_cons (p : List Char) (ps : List (List Char)) :
    kept (p :: ps) = if trim p = [] then kept ps else trim p :: kept ps := by
  unfold kept
  rw [List.map_cons, List.filter_cons]
  by_cases hp : trim p = [] <;> simp [hp]

theorem mem_kept {x : List Char} {ps : List (List Char)} :
    x ∈ kept ps ↔ ∃ p ∈ ps, trim p ≠ [] ∧ trim p = x := by
  simp only [kept, List.mem_filter, List.mem_map, decide_eq_true_eq]
  constructor
  · rintro ⟨⟨p, hp, rfl⟩, hne⟩
    exact ⟨p, hp, hne, rfl⟩
  · rintro ⟨p, hp, hne, rfl⟩
    exact ⟨⟨p, hp, rfl⟩, hne⟩

/-- Of what has been kept all is kept again. -/
theorem kept_kept (ps : List (List Char)) : kept (kept ps) = kept ps := by
  induction ps with
  | nil => rfl
  | cons p ps ih =>
    rw [kept_cons]
    split
    · exact ih
    · rename_i hne
      rw [kept_cons, trim_trim, if_neg hne, ih]

def visible (s : List Char) : List Char := s.filter fun c => !isBlank c

theorem visible_append (s t : List Char) : visible (s ++ t) = visible s ++ visible t :=
  List.filter_append ..

theorem visible_blanks {b : List Char} (hb : ∀ c ∈ b, isBlank c = true) : visible b = [] :=
  List.filter_eq_nil_iff.mpr fun c hc => by simp [hb c hc]

theorem visible_trim (s : List Char) : visible (trim s) = visible s := by
  obtain ⟨b, b', hb, hb', hs⟩ := exists_blanks_trim s
  conv_rhs => rw [hs]
  rw [visible_append, visible_append, visible_blanks hb, visible_blanks hb', List.nil_append,
    List.append_nil]

theorem visible_kept (ps : List (List Char)) : visible (kept ps).flatten = visible ps.flatten := by
  induction ps with
  | nil => rfl
  | cons p ps ih =>
    rw [kept_cons, List.flatten_cons, visible_append, ← visible_trim p, ← ih]
    split
    · rename_i hp
      rw [hp]
      rfl
    · rw [List.flatten_cons, visible_append]

/-- A piece in front of a text is cut off where the text begins with an end. -/
theorem Piece.kept_append {p s : List Char} {ps : List (List Char)} (h : Piece 0 p)
    (hs : pieces 0 s = .ok ([] :: ps)) :
    ∃ qs, pieces 0 (p ++ s) = .ok qs ∧ kept qs = kept (p :: ps) := by
  rcases h.pieces_append with happend | happend
  · refine ⟨p :: ps, ?_, rfl⟩
    rw [happend, hs]
    change Except.ok (p.foldr onFirst ([] :: ps)) = _
    rw [foldr_onFirst, List.append_nil]
  · exact ⟨p :: [] :: ps, by rw [happend, hs]; rfl, rfl⟩

/-- Pieces with semicolons between them are cut out again. -/
theorem pieces_intercalate {xs : List (List Char)} (h : ∀ x ∈ xs, Piece 0 x) :
    ∃ ps, pieces 0 ([';'].intercalate xs) = .ok ps ∧ kept ps = kept xs := by
  induction xs with
  | nil => exact ⟨[[]], rfl, rfl⟩
  | cons x xs ih =>
    obtain ⟨hx, hxs⟩ := List.forall_mem_cons.mp h
    cases xs with
    | nil =>
      have hnil : pieces 0 [] = .ok ([] :: []) := rfl
      obtain ⟨qs, hqs, hkept⟩ := hx.kept_append hnil
      rw [List.append_nil] at hqs
      exact ⟨qs, by rwa [List.intercalate_singleton], hkept⟩
    | cons y ys =>
      obtain ⟨ps, hps, hrest⟩ := ih hxs
      have hend : pieces 0 (';' :: [';'].intercalate (y :: ys)) = .ok ([] :: ps) := by
        rw [pieces_of_cutAt (f := ([] :: ·)) rfl, hps]
        rfl
      obtain ⟨qs, hqs, hkept⟩ := hx.kept_append hend
      refine ⟨qs, ?_, ?_⟩
      · rwa [List.intercalate_cons_cons, List.append_assoc, List.singleton_append]
      · rw [hkept, kept_cons, hrest, ← kept_cons]

theorem uncommented_intercalate {xs : List (List Char)} (h : ∀ x ∈ xs, Uncommented x) :
    Uncommented ([';'].intercalate xs) := by
  induction xs with
  | nil => exact uncommented_of_not_mem List.not_mem_nil
  | cons x xs ih =>
    obtain ⟨hx, hxs⟩ := List.forall_mem_cons.mp h
    cases xs with
    | nil => rwa [List.intercalate_singleton]
    | cons y ys =>
      rw [List.intercalate_cons_cons, List.append_assoc, List.singleton_append]
      exact uncommented_append_cons (by decide) hx (ih hxs)

/-- Statements that have been cut out of a text are cut out again with semicolons between them. -/
theorem split_intercalate {text : List Char} {ps : List (List Char)}
    (h : pieces 0 (withoutComments false text) = .ok ps) :
    split ([';'].intercalate (kept ps)) = .ok (kept ps) := by
  have hpieces : ∀ x ∈ kept ps, Piece 0 x := by
    intro x hx
    obtain ⟨p, hp, -, rfl⟩ := mem_kept.mp hx
    exact (piece_of_mem h hp).trim
  have hcomments : ∀ x ∈ kept ps, Uncommented x := by
    intro x hx
    obtain ⟨p, hp, -, rfl⟩ := mem_kept.mp hx
    exact (uncommented_withoutComments false text).part
      ((isInfix_trim p).trans ((infix_of_pieces h).2 p hp))
  obtain ⟨qs, hqs, hkept⟩ := pieces_intercalate hpieces
  rw [split, withoutComments_of (uncommented_intercalate hcomments), hqs]
  exact congrArg Except.ok (hkept.trans (kept_kept _))

/-- How a text fails to be cut into statements. -/
theorem split_eq_error {text : List Char} {fault : Fault} :
    split text = .error fault ↔
      (fault = .unbalancedBrace ∧ ∃ front, front <+: bareText text ∧ braceBalance front < 0) ∨
      (fault = .unterminatedBlock ∧ (∀ front, front <+: bareText text → 0 ≤ braceBalance front) ∧
        0 < braceBalance (bareText text)) := by
  have hmap (x : Except Fault (List (List Char))) :
      x.map kept = .error fault ↔ x = .error fault := by
    cases x <;> simp [Except.map]
  have hsplit : split text = (pieces 0 (bareText text)).map kept := by
    rw [← withoutComments_eq_bareText]
    rfl
  rw [hsplit, hmap, pieces_eq_error]
  simp [StaysOpen]

/-- A text is cut into statements exactly when its braces are matched. The statements hold all of it
but blanks, comments and the semicolons between them. -/
theorem split_exact (text : List Char) :
    ((∃ fault, split text = .error fault) ↔
      (∃ front, front <+: bareText text ∧ braceBalance front < 0) ∨
        braceBalance (bareText text) ≠ 0) ∧
    ∀ statements, split text = .ok statements →
      (∀ s ∈ statements, IsStatement s) ∧
      visible statements.flatten = visible (withoutEnds 0 (bareText text)) ∧
      split ([';'].intercalate statements) = .ok statements := by
  refine ⟨⟨?_, fun h => ?_⟩, fun statements h => ?_⟩
  · rintro ⟨fault, h⟩
    rcases split_eq_error.mp h with ⟨-, hfront⟩ | ⟨-, -, hbalance⟩
    · exact .inl hfront
    · exact .inr (by omega)
  · by_cases hfront : ∃ front, front <+: bareText text ∧ braceBalance front < 0
    · exact ⟨.unbalancedBrace, split_eq_error.mpr (.inl ⟨rfl, hfront⟩)⟩
    · have hopen : ∀ front, front <+: bareText text → 0 ≤ braceBalance front := by
        simpa using hfront
      have hbalance := hopen _ (List.prefix_refl _)
      have hne := h.resolve_left hfront
      exact ⟨.unterminatedBlock, split_eq_error.mpr (.inr ⟨rfl, hopen, by omega⟩)⟩
  · obtain ⟨ps, hps, rfl⟩ := map_eq_ok.mp h
    refine ⟨fun s hs => ?_, ?_, split_intercalate hps⟩
    · obtain ⟨p, hp, hne, rfl⟩ := mem_kept.mp hs
      exact isStatement_trim (piece_of_mem hps hp) hne
    · obtain ⟨p, rest, rfl, -, -, hflat⟩ := pieces_eq_ok hps
      rw [withoutComments_eq_bareText] at hflat
      exact (visible_kept (p :: rest)).trans (congrArg visible hflat)

/-- A gate with comments in it, and semicolons in and behind its block. -/
theorem split_exact_gate :
    let text := "gate g a \x7b x a; // y a;\nh a; \x7d ; g // \x7b\nq[0];; ".toList
    let statements := ["gate g a \x7b x a; \nh a; \x7d".toList, "g \nq[0]".toList]
    split text = .ok statements ∧ (∀ s ∈ statements, IsStatement s) ∧
      visible statements.flatten = visible (withoutEnds 0 (bareText text)) ∧
      split ([';'].intercalate statements) = .ok statements := by
  intro text statements
  have hsplit : split text = .ok statements := by decide
  exact ⟨hsplit, (split_exact text).2 statements hsplit⟩

end Statements

end CircuitConsole.Statement
