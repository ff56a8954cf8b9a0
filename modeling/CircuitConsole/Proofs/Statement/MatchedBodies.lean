import CircuitConsole.Proofs.Statement.CallTexts
import CircuitConsole.Proofs.Statement.Overloads
import CircuitConsole.Proofs.Statement.Splitting

/-!
The body of a definition has matched braces. A definition is cut out of its text with the brace that
closes its block, and its names have no braces in them, so that the body stands between the first
brace and the last. It is therefore cut into statements without a fault, and a fault of the braces
always belongs to the text as a whole.
-/

namespace CircuitConsole.Statement

open Expression Text

variable {s : List Char} {c : Char}

/-- In front of the brace that closes the block, a block that has been opened stays open. -/
theorem Piece.staysOpen_body {depth : Nat} {body : List Char} (hdepth : 1 ≤ depth)
    (h : Piece depth (body ++ ['\x7d'])) : StaysOpen (depth - 1 : Int) body := by
  rintro front ⟨back, rfl⟩
  suffices hopen : 1 ≤ (depth : Int) + braceBalance front by omega
  -- the brace that closes the block ends the piece, and more stands behind the front
  induction front using List.reverseRecOn generalizing back with
  | nil => simpa using hdepth
  | append_singleton front c ih =>
    have hfront : 1 ≤ (depth : Int) + braceBalance front := by
      refine ih (c :: back) ?_
      simpa using h
    rw [braceBalance_append, ← Int.add_assoc]
    by_cases hclose : c = '\x7d'
    · subst hclose
      rw [braceBalance_closing]
      by_contra hclosed
      have hblock : Piece depth (front ++ '\x7d' :: (back ++ ['\x7d'])) := by simpa using h
      have hnil := hblock.block (by omega)
      simp at hnil
    · have hgrows : 0 ≤ braceBalance [c] := by
        by_cases hopen : c = '\x7b'
        · rw [hopen]
          decide
        · rw [braceBalance_letter hopen hclose]
      omega

/-- What identifiers are written in has no other signs than the commas between them. -/
theorem not_mem_of_identifiers (h : ∀ i ∈ commaParts s, i ≠ [] → isIdentifier i = true)
    (hword : isWord c = false) (hcomma : c ≠ ',') (hsolid : isBlank c = false) : c ∉ s := by
  intro hc
  obtain ⟨i, hi, hmem⟩ := mem_commaParts hc hcomma hsolid
  have hletter := isWord_of_isIdentifier (h i hi (List.ne_nil_of_mem hmem)) c hmem
  rw [hword] at hletter
  cases hletter

theorem exists_blanks_trimLeft (s : List Char) :
    ∃ b, s = b ++ trimLeft s ∧ ∀ c, isBlank c = false → c ∉ b := by
  refine ⟨s.takeWhile isBlank, (List.takeWhile_append_dropWhile ..).symm, fun c hsolid hc => ?_⟩
  have hblank := List.mem_takeWhile_imp hc
  rw [hsolid] at hblank
  cases hblank

/-- In front of what is read behind the name, a definition has no brace. -/
theorem exists_front_of_definition? {form : DefinitionForm} (h : definition? s = some form) :
    ∃ front name rest, s = front ++ rest ∧ '\x7b' ∉ front ∧
      definitionBehind name rest = some form := by
  rw [definition?_eq] at h
  obtain ⟨⟨name, rest⟩, hname, h⟩ := Option.bind_eq_some_iff.mp h
  obtain ⟨word, hword, hname⟩ := Option.bind_eq_some_iff.mp hname
  obtain ⟨blanks, hblanks, hword⟩ := Option.bind_eq_some_iff.mp hword
  obtain ⟨hnamed, hidentifier⟩ := identifier?_eq_some hname
  obtain ⟨b, hb, hbfree⟩ := exists_blanks_trimLeft blanks
  obtain ⟨b', hb', hbfree'⟩ := exists_blanks_trimLeft rest
  have hs : s = "gate".toList ++ (b ++ (name ++ (b' ++ trimLeft rest))) := by
    rw [afterPrefix?_eq_some hblanks, ← hb', ← hnamed, afterBlanks?_eq_some hword, ← hb]
  refine ⟨"gate".toList ++ (b ++ (name ++ b')), name, trimLeft rest, by simpa using hs, ?_, h⟩
  have hletters : '\x7b' ∉ name := fun hmem => by
    cases isWord_of_isIdentifier hidentifier _ hmem
  simp only [List.mem_append, not_or]
  exact ⟨by decide, hbfree _ (by decide), hletters, hbfree' _ (by decide)⟩

theorem definitionOf_eq_some {name parameters : List Char} {form : DefinitionForm}
    (h : definitionOf name parameters s = some form) :
    form.parameters = parameters ∧ s = form.qubits ++ '\x7b' :: (form.body ++ ['\x7d']) := by
  obtain ⟨⟨qubits, body⟩, hblock, rfl⟩ := Option.map_eq_some_iff.mp h
  rw [block?_eq] at hblock
  obtain ⟨⟨before, rest⟩, haround, hblock⟩ := Option.bind_eq_some_iff.mp hblock
  dsimp only at hblock
  split at hblock
  · rename_i hlast
    cases hblock
    obtain ⟨inner, rfl⟩ := List.getLast?_eq_some_iff.mp hlast
    rw [around?_eq_some haround, List.dropLast_concat]
    exact ⟨rfl, rfl⟩
  · cases hblock

/-- The body of a definition with proper names stands between the first brace and the last. -/
theorem body_of_definition? {form : DefinitionForm} (h : definition? s = some form)
    (hnamed : form.Named) :
    ∃ front, s = front ++ '\x7b' :: (form.body ++ ['\x7d']) ∧ '\x7b' ∉ front := by
  have hparameters : '\x7b' ∉ form.parameters := by
    refine not_mem_of_identifiers (fun i hi hne => hnamed i ?_) (by decide) (by decide) (by decide)
    exact List.mem_append_left _ (List.mem_filter.mpr ⟨hi, decide_eq_true hne⟩)
  have hqubits : '\x7b' ∉ form.qubits := fun hmem =>
    not_mem_of_identifiers (fun i hi _ => hnamed i (List.mem_append_right _ hi)) (by decide)
      (by decide) (by decide) (mem_trim hmem (by decide))
  obtain ⟨front, name, rest, rfl, hfront, h⟩ := exists_front_of_definition? h
  rcases Option.or_eq_some_iff.mp h with h | ⟨-, h⟩
  · obtain ⟨⟨parameters, behind⟩, hinside, h⟩ := Option.bind_eq_some_iff.mp h
    obtain ⟨inside, hopen, hclose⟩ := Option.bind_eq_some_iff.mp hinside
    obtain ⟨rfl, hbehind⟩ := definitionOf_eq_some h
    refine ⟨front ++ '(' :: (form.parameters ++ ')' :: form.qubits), ?_, ?_⟩
    · rw [afterPrefix?_eq_some hopen, around?_eq_some hclose]
      conv_lhs => rw [show behind = _ from hbehind]
      simp
    · simp [hfront, hparameters, hqubits]
  · obtain ⟨-, hrest⟩ := definitionOf_eq_some h
    refine ⟨front ++ form.qubits, ?_, ?_⟩
    · conv_lhs => rw [hrest]
      rw [List.append_assoc]
    · simp [hfront, hqubits]

/-- The body of a definition that is cut out of a text is cut into statements. -/
theorem split_body_exists (hpiece : Piece 0 s) (hs : Uncommented s) {form : DefinitionForm}
    (h : definition? s = some form) (hnamed : form.Named) :
    ∃ statements, split form.body = .ok statements := by
  obtain ⟨front, rfl, hfront⟩ := body_of_definition? h hnamed
  obtain ⟨inner, hinner, hblock⟩ := hpiece.behind
  have hinside : Piece (inner + 1) (form.body ++ ['\x7d']) := by
    cases hblock with
    | opening hinside => exact hinside
    | letter hopen => exact absurd rfl hopen
  -- nothing is open in front of the block, which closes all there is
  obtain rfl : inner = 0 := by
    have hclosed : braceBalance front ≤ 0 := by
      rw [braceBalance, List.count_eq_zero_of_not_mem hfront]
      omega
    omega
  have hopen : StaysOpen 0 form.body := by simpa using hinside.staysOpen_body (Nat.le_refl 1)
  have hbalance : braceBalance form.body = 0 := by
    have hwhole := hinside.balance
    rw [braceBalance_append, braceBalance_closing] at hwhole
    omega
  have hbody : Uncommented form.body := hs.part (infix_of_definition? h)
  unfold split
  rw [withoutComments_of hbody]
  rcases pieces_outcome 0 form.body with ⟨ps, hps, -⟩ | ⟨-, hnot⟩ | ⟨-, -, hmore⟩
  · exact ⟨_, by rw [hps]; rfl⟩
  · exact absurd hopen hnot
  · omega

/-- A statement that is cut out of a text has no fault of its braces. -/
theorem statement_within {d : Draft} {room : Capacity} (hpiece : Piece 0 s) (htrim : trim s = s)
    (hs : Uncommented s) :
    FailsOnly (Fault.Within (d.Exceeds (room.inside 1))) (d.statement s room) := by
  refine statement_failsOnly (fun _ => id) fun form hform => ?_
  refine define_failsOnly (fun _ => id) fun hnamed => ?_
  have hdefinition : definition? (tidy s) = some form := by
    have hreading := form_reading s
    rw [hform] at hreading
    cases hreading with
    | definition h => exact h
  have htidy : tidy s = s := by
    unfold tidy at hdefinition ⊢
    split
    · exact htrim
    · rename_i hbrace
      rw [if_neg hbrace] at hdefinition
      have hmem := mem_of_collapse (mem_of_definition? hdefinition) (by decide)
      exact absurd (by simpa using hmem) hbrace
  rw [htidy] at hdefinition
  obtain ⟨statements, hstatements⟩ := split_body_exists hpiece hs hdefinition hnamed
  rw [hstatements]
  exact .ok _

/-- Statements that are cut out of a text are worked in without a fault of the braces. -/
theorem statements_within {text : List Char} {statements : List (List Char)}
    (hsplit : split text = .ok statements) {xs : List (List Char)} (hxs : xs ⊆ statements)
    {d d' : Draft} {fault : Fault} {room : Capacity}
    (h : d.statements xs room = (d', some fault)) :
    fault.Within (d'.Exceeds (room.inside 2)) := by
  obtain ⟨s, hs, hfails⟩ := Draft.exists_of_statements_fail h
  obtain ⟨ps, hps, rfl⟩ := map_eq_ok.mp hsplit
  obtain ⟨p, hp, -, rfl⟩ := mem_kept.mp (hxs hs)
  refine statement_within (piece_of_mem hps hp).trim (trim_trim p) ?_ _ hfails
  exact (uncommented_withoutComments false text).part
    ((isInfix_trim p).trans ((infix_of_pieces hps).2 p hp))

end CircuitConsole.Statement
