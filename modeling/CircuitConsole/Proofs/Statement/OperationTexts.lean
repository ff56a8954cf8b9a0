import CircuitConsole.Proofs.Statement.ConditionTexts
import CircuitConsole.Proofs.Statement.Drafts
import CircuitConsole.Proofs.Statement.Expansion
import CircuitConsole.Proofs.Statement.References

/-!
Operations on single bits as they are written: measurements, resets and calls of built-in gates.
Each is read back as the operation it stands for, by itself or behind a condition.
-/

namespace CircuitConsole.Statement

open Expression Text

variable {a b s u : List Char} {c : Char} {d : Draft} {condition : Option Condition} {q i : Nat}
  {room : Capacity}

section Texts

def measureText (a b : List Char) : List Char :=
  "measure".toList ++ ' ' :: (a ++ ' ' :: '-' :: '>' :: ' ' :: b)

def resetText (a : List Char) : List Char := "reset".toList ++ ' ' :: a

theorem aroundArrow?_append_arrow (hu : '-' ∉ u) (s : List Char) :
    aroundArrow? (u ++ '-' :: '>' :: s) = some (u, s) := by
  induction u with
  | nil => rfl
  | cons c u ih =>
    obtain ⟨hc, hrest⟩ := List.ne_and_not_mem_of_not_mem_cons hu
    have hplain : aroundArrow? (c :: (u ++ '-' :: '>' :: s)) =
        (aroundArrow? (u ++ '-' :: '>' :: s)).map fun p => (c :: p.1, p.2) := by
      rw [aroundArrow?.eq_def]
      dsimp only
      split
      · exact absurd rfl hc
      · rfl
    rw [List.cons_append, hplain, ih hrest]
    rfl

/-- The two sides of a measurement are read with the spaces around the arrow. -/
theorem measurement?_measureText (ha : Spaced a) (hne : a ≠ []) (harrow : '-' ∉ a)
    (b : List Char) : measurement? (measureText a b) = some (a ++ [' '], ' ' :: b) := by
  obtain ⟨c, tail, rfl⟩ := List.exists_cons_of_ne_nil hne
  have hc : isBlank c = false := ha.first c rfl
  have hspace : isBlank ' ' = true := by decide
  have htail : '-' ∉ tail ++ [' '] := by
    intro hmem
    rcases List.mem_append.mp hmem with hmem | hmem
    · exact harrow (List.mem_cons_of_mem c hmem)
    · cases List.mem_singleton.mp hmem
  have hsides := aroundArrow?_append_arrow htail (' ' :: b)
  rw [List.append_assoc, List.singleton_append] at hsides
  unfold measurement? measureText
  rw [afterPrefix?_append]
  simp [hspace, hc, hsides]

/-- A measurement of one bit. -/
theorem operation_measureText (ha : Spaced a)
    (hqubit : resolve d.quantum .quantum a room = .ok ⟨q, 1⟩)
    (hbit : resolve d.classical .classical b room = .ok ⟨i, 1⟩) :
    d.operation condition (measureText a b) room = .ok (d.enqueue condition [.measure q i]) := by
  have hreference := referenceText_of_resolve hqubit
  have hspace : ∀ c ∈ [' '], isBlank c = true := List.forall_mem_singleton.mpr (by decide)
  have hsource : resolve d.quantum .quantum (a ++ [' ']) room = .ok ⟨q, 1⟩ := by
    rwa [← resolve_trim, trim_append_right a hspace, resolve_trim]
  have htarget : resolve d.classical .classical (' ' :: b) room = .ok ⟨i, 1⟩ := by
    rwa [← resolve_trim, ← List.singleton_append, trim_append_left hspace, resolve_trim]
  have hsides := measurement?_measureText ha hreference.nonempty (hreference.not_mem (by decide)) b
  rw [operation_measurement hsides]
  simp only [hsource, htarget, bind, Except.bind]
  rfl

/-- A reset of one qubit. -/
theorem operation_resetText (ha : Spaced a)
    (hqubit : resolve d.quantum .quantum a room = .ok ⟨q, 1⟩) :
    d.operation condition (resetText a) room = .ok (d.enqueue condition [.reset q]) := by
  have hreset : resetTarget? (resetText a) = some a := by
    unfold resetTarget? resetText
    rw [afterPrefix?_append]
    change (if trimLeft a = [] then none else some (trimLeft a)) = _
    rw [ha.trimLeft_eq, if_neg (referenceText_of_resolve hqubit).nonempty]
  have hmeasurement : measurement? (resetText a) = none := rfl
  rw [operation_reset hmeasurement hreset, hqubit]
  rfl

/-- What begins with none of the letters of other statements is an operation. -/
theorem form_of_first (hc : c ∉ ['O', 'i', 'q', 'c', 'g']) (hfirst : s.head? = some c)
    (htidy : tidy s = s) : Form.of s = .operation s := by
  obtain ⟨u, rfl⟩ : ∃ u, s = c :: u := by
    cases s with
    | nil => cases hfirst
    | cons e u => exact ⟨u, by rw [Option.some.inj hfirst]⟩
  simp only [List.mem_cons, List.not_mem_nil, or_false, not_or] at hc
  obtain ⟨hO, hi, hq, hcreg, hg⟩ := hc
  have hafter {l : Char} (hl : c ≠ l) (lead : List Char) :
      afterPrefix? (l :: lead) (c :: u) = none := by
    rw [afterPrefix?, if_neg hl.symm]
  have hheader : isHeader (c :: u) = false := by
    unfold isHeader
    rw [show "OPENQASM".toList = 'O' :: "PENQASM".toList from rfl, hafter hO]
    rfl
  have hinclude : isInclude (c :: u) = false := by
    unfold isInclude
    rw [show "include".toList = 'i' :: "nclude".toList from rfl, hafter hi]
    rfl
  have hdeclaration : declaration? (c :: u) = none := by
    unfold declaration?
    rw [show "qreg".toList = 'q' :: "reg".toList from rfl, hafter hq,
      show "creg".toList = 'c' :: "reg".toList from rfl, hafter hcreg]
    rfl
  have hdefinition : definition? (c :: u) = none := by
    unfold definition?
    rw [show "gate".toList = 'g' :: "ate".toList from rfl, hafter hg]
    rfl
  have hconditional : conditional? (c :: u) = none := by
    unfold conditional?
    rw [show "if".toList = 'i' :: "f".toList from rfl, hafter hi]
    rfl
  exact form_of_operation htidy hheader hinclude hdeclaration hdefinition hconditional

theorem isIdentifier_name (g : Gate) : isIdentifier g.name.toList = true := by
  cases g <;> decide

theorem ofName?_builtIn (g : Gate) : Gate.ofName? g.name = some g := by
  cases g <;> decide

/-- No built-in gate has the name of another statement. -/
theorem not_misread_builtIn (g : Gate) (es as : List (List Char)) :
    ¬ Misread g.name.toList es as := by
  intro h
  have hmem := h.mem
  revert hmem
  cases g <;> decide

/-- A call of a built-in gate without parameters. -/
theorem operation_gateText {g : Gate} {as : List (List Char)} {places : List Nat}
    (hplaces : List.Forall₂ (fun a q => resolve d.quantum .quantum a room = .ok ⟨q, 1⟩) as places)
    (hparameters : g.parameterCount = 0) (hqubits : places.length = g.qubitCount)
    (hparts : CallParts g.name.toList [] as) (hdistinct : places.Nodup) (hroom : 4 ≤ room.calls) :
    d.operation condition (callText g.name.toList [] as) room =
      .ok (d.enqueue condition [.gate g [] places]) := by
  have hspans := mapM_resolve_joined hplaces
  rw [← commaParts_trimLeft] at hspans
  have hcount : (commaParts (trimLeft (joined as))).length = g.qubitCount := by
    rw [← hqubits, ← List.length_map (f := (⟨·, 1⟩ : Nat → Span))]
    exact (length_of_mapM hspans).symm
  have harity : checkArity d.definitions g.name 0 g.qubitCount = .ok () := by
    unfold checkArity arity?
    rw [ofName?_builtIn]
    simp [hparameters]
  have hvalues : d.callValues ⟨g.name.toList, [], trimLeft (joined as)⟩ room = .ok [] := by
    change (do
      checkArity d.definitions (String.ofList g.name.toList) 0
        (commaParts (trimLeft (joined as))).length
      evaluateAll [] [] (room.calls - 2)) = _
    rw [String.ofList_toList, hcount, harity]
    rfl
  rw [hparts.operation_callText d condition room (not_misread_builtIn g [] as),
    d.call_single condition hspans]
  change (d.callValues ⟨g.name.toList, [], trimLeft (joined as)⟩ room >>= fun parameters =>
    d.round condition (String.ofList g.name.toList) parameters places room) = _
  rw [hvalues, String.ofList_toList]
  change d.round condition g.name [] places room = _
  have hexpand : expand (room.calls - 1) d.definitions.reverse g.name [] places =
      .ok [.gate g [] places] := by
    obtain ⟨n, hn⟩ : ∃ n, room.calls - 1 = n + 1 := ⟨room.calls - 2, by omega⟩
    rw [hn]
    exact expand_builtIn hdistinct (ofName?_builtIn g) (by omega)
  rw [Draft.round, hexpand]
  rfl

end Texts

section Lists

def spacedOut : List (List Char) → List (List Char)
  | [] => []
  | a :: more => a :: more.map (' ' :: ·)

theorem joined_spacedOut (as : List (List Char)) :
    joined (spacedOut as) = ", ".toList.intercalate as := by
  cases as with
  | nil => rfl
  | cons a more =>
    induction more generalizing a with
    | nil => simp [spacedOut, joined]
    | cons b more ih =>
      rw [spacedOut, List.map_cons, joined_cons_cons, joined_cons, List.intercalate_cons_cons,
        ← ih b]
      simp [spacedOut]

theorem spaced_joined {more : List (List Char)} (h : ∀ b ∈ a :: more, Solid b) :
    Spaced (joined (spacedOut (a :: more))) ∧ joined (spacedOut (a :: more)) ≠ [] := by
  induction more generalizing a with
  | nil =>
    have ha := h a (List.mem_singleton_self a)
    rw [spacedOut, List.map_nil, joined, List.intercalate_singleton]
    exact ⟨ha.spaced, ha.nonempty⟩
  | cons b more ih =>
    obtain ⟨ha, hmore⟩ := List.forall_mem_cons.mp h
    obtain ⟨hspaced, hne⟩ := ih hmore
    have hcomma : Solid (a ++ [',']) :=
      ⟨by simp, List.forall_mem_append.mpr ⟨ha.solid, List.forall_mem_singleton.mpr (by decide)⟩⟩
    have hjoined : joined (spacedOut (a :: b :: more)) =
        (a ++ [',']) ++ ' ' :: joined (spacedOut (b :: more)) := by
      rw [spacedOut, List.map_cons, joined_cons_cons, joined_cons, List.append_assoc]
      rfl
    rw [hjoined]
    exact ⟨hcomma.spaced.append hspaced hcomma.nonempty hne, by simp⟩

end Lists

/-- A text of one operation: it is a statement of its own, and the instruction that it queues, under
whatever condition, is known. -/
structure OperationText (d : Draft) (room : Capacity) (i : Instruction Float) (t : List Char) :
    Prop where
  plain : Plain t
  unmarked : '#' ∉ t
  spaced : Spaced t
  nonempty : t ≠ []
  form : Form.of t = .operation t
  reads : ∀ condition, d.operation condition t room = .ok (d.enqueue condition [i])

section Written

theorem not_mem_spaced {t : List Char} (hc : c ≠ ' ') (hs : c ∉ s) (ht : c ∉ t) :
    c ∉ s ++ ' ' :: t := by
  simp [hc, hs, ht]

theorem solid_of_isIdentifier (h : isIdentifier s = true) : Solid s where
  nonempty := by
    rintro rfl
    cases h
  solid c hc := isBlank_of_isWord (isWord_of_isIdentifier h c hc)

theorem spaced_measureText (ha : Spaced a) (hb : Spaced b) (hane : a ≠ []) (hbne : b ≠ []) :
    Spaced (measureText a b) := by
  have hword : Solid "measure".toList := solid_of_all (by decide) (by decide)
  have harrow : Solid ['-', '>'] := solid_of_all (by decide) (by decide)
  have hright := harrow.spaced.append hb harrow.nonempty hbne
  have hsides := ha.append hright hane (by simp)
  exact hword.spaced.append hsides hword.nonempty (by simp)

theorem operationText_measure (ha : Spaced a) (hb : Spaced b)
    (hqubit : resolve d.quantum .quantum a room = .ok ⟨q, 1⟩)
    (hbit : resolve d.classical .classical b room = .ok ⟨i, 1⟩) :
    OperationText d room (.measure q i) (measureText a b) := by
  have hsource := referenceText_of_resolve hqubit
  have htarget := referenceText_of_resolve hbit
  have hword : Plain "measure".toList :=
    ⟨by decide, by decide, by decide, uncommented_of_not_mem (by decide)⟩
  have harrow : Plain ['-', '>'] :=
    ⟨by decide, by decide, by decide, uncommented_of_not_mem (by decide)⟩
  have hplain : Plain (measureText a b) :=
    hword.append (hsource.plain.append (harrow.append htarget.plain))
  have hunmarked : '#' ∉ measureText a b :=
    not_mem_spaced (by decide) (by decide) (not_mem_spaced (by decide)
      (hsource.not_mem (by decide)) (not_mem_spaced (s := ['-', '>']) (by decide) (by decide)
        (htarget.not_mem (by decide))))
  have hspaced := spaced_measureText ha hb hsource.nonempty htarget.nonempty
  refine ⟨hplain, hunmarked, hspaced, ?_, ?_, fun condition => ?_⟩
  · exact List.append_ne_nil_of_right_ne_nil _ (List.cons_ne_nil _ _)
  · exact form_of_first (c := 'm') (by decide) rfl (tidy_of_spaced hplain hspaced)
  · exact operation_measureText ha hqubit hbit

theorem operationText_reset (ha : Spaced a)
    (hqubit : resolve d.quantum .quantum a room = .ok ⟨q, 1⟩) :
    OperationText d room (.reset q) (resetText a) := by
  have htarget := referenceText_of_resolve hqubit
  have hplain : Plain (resetText a) :=
    Plain.append ⟨by decide, by decide, by decide, uncommented_of_not_mem (by decide)⟩
      htarget.plain
  have hword : Solid "reset".toList := solid_of_all (by decide) (by decide)
  have hunmarked : '#' ∉ resetText a :=
    not_mem_spaced (by decide) (by decide) (htarget.not_mem (by decide))
  have hspaced : Spaced (resetText a) :=
    hword.spaced.append ha hword.nonempty htarget.nonempty
  refine ⟨hplain, hunmarked, hspaced, ?_, ?_, fun condition => ?_⟩
  · exact List.append_ne_nil_of_right_ne_nil _ (List.cons_ne_nil _ _)
  · exact form_of_first (c := 'r') (by decide) rfl (tidy_of_spaced hplain hspaced)
  · exact operation_resetText ha hqubit

theorem operationText_gate {g : Gate} {as : List (List Char)} {places : List Nat}
    (hsolid : ∀ a ∈ as, Solid a)
    (hplaces : List.Forall₂ (fun a q => resolve d.quantum .quantum a room = .ok ⟨q, 1⟩) as places)
    (hparameters : g.parameterCount = 0) (hqubits : places.length = g.qubitCount)
    (hdistinct : places.Nodup) (hroom : 4 ≤ room.calls) :
    OperationText d room (.gate g [] places) (callText g.name.toList [] (spacedOut as)) := by
  have hspace : ∀ c ∈ [' '], isBlank c = true := List.forall_mem_singleton.mpr (by decide)
  have hcount : 0 < g.qubitCount := by cases g <;> decide
  obtain ⟨a, more, rfl⟩ : ∃ a more, as = a :: more := by
    apply List.exists_cons_of_length_pos
    rw [hplaces.length_eq, hqubits]
    exact hcount
  have hspacedOut : List.Forall₂ (fun a q => resolve d.quantum .quantum a room = .ok ⟨q, 1⟩)
      (spacedOut (a :: more)) places := by
    cases hplaces with
    | cons ha hmore =>
      refine .cons ha (List.forall₂_map_left_iff.mpr (hmore.imp fun b q hq => ?_))
      rwa [← resolve_trim, ← List.singleton_append, trim_append_left hspace, resolve_trim]
  have hparts : CallParts g.name.toList [] (spacedOut (a :: more)) := {
    name := isIdentifier_name g
    expressions := List.forall_mem_nil _
    solid := List.forall_mem_nil _
    references := fun b hb => by
      obtain ⟨q, -, hq⟩ := exists_of_forall₂ hspacedOut.flip hb
      exact referenceText_of_resolve hq
    nonempty := List.cons_ne_nil _ _ }
  obtain ⟨hjoined, hne⟩ := spaced_joined hsolid
  have hname := solid_of_isIdentifier (isIdentifier_name g)
  have hspaced : Spaced (callText g.name.toList [] (spacedOut (a :: more))) :=
    hname.spaced.append hjoined hname.nonempty hne
  refine ⟨hparts.plain, hparts.not_mem (by decide) (by decide) (by decide), hspaced,
    by simp [callText_nil], ?_, fun condition => ?_⟩
  · exact hparts.form_of (not_misread_builtIn g _ _) hspaced.collapse_eq
  · exact operation_gateText hspacedOut hparameters hqubits hparts hdistinct hroom

end Written

section Conditions

variable {register value t : List Char} {instruction : Instruction Float}

def conditionText (register value : List Char) : List Char :=
  "if".toList ++ '(' :: (register ++ '=' :: '=' :: (value ++ [')']))

theorem conditionText_written (hregister : isIdentifier register = true)
    (hvalue : ∀ c ∈ value, isDigit c = true) (hne : value ≠ []) :
    ConditionText register value (conditionText register value) :=
  .written [] [] [] [] [] (List.forall_mem_nil _) (List.forall_mem_nil _) (List.forall_mem_nil _)
    (List.forall_mem_nil _) (List.forall_mem_nil _) hregister hvalue hne

theorem mem_conditionText (hregister : isIdentifier register = true)
    (hvalue : ∀ c ∈ value, isDigit c = true) {c : Char} (h : c ∈ conditionText register value) :
    isWord c = true ∨ isDigit c = true ∨ c ∈ ['(', '=', ')'] := by
  have hif : ∀ c ∈ "if".toList, isWord c = true := List.all_eq_true.mp (by decide)
  unfold conditionText at h
  rcases List.mem_append.mp h with h | h
  · exact .inl (hif c h)
  · simp only [List.mem_cons, List.mem_append, List.not_mem_nil, or_false] at h ⊢
    rcases h with h | h | h | h | h | h
    · exact .inr (.inr (.inl h))
    · exact .inl (isWord_of_isIdentifier hregister c h)
    · exact .inr (.inr (.inr (.inl h)))
    · exact .inr (.inr (.inr (.inl h)))
    · exact .inr (.inl (hvalue c h))
    · exact .inr (.inr (.inr (.inr h)))

theorem not_mem_conditionText (hregister : isIdentifier register = true)
    (hvalue : ∀ c ∈ value, isDigit c = true) {c : Char} (hword : isWord c = false)
    (hdigit : isDigit c = false) (hsign : c ∉ ['(', '=', ')']) :
    c ∉ conditionText register value := by
  intro h
  rcases mem_conditionText hregister hvalue h with h | h | h
  · rw [hword] at h
    cases h
  · rw [hdigit] at h
    cases h
  · exact hsign h

theorem plain_conditionText (hregister : isIdentifier register = true)
    (hvalue : ∀ c ∈ value, isDigit c = true) : Plain (conditionText register value) :=
  have hnone {c : Char} := not_mem_conditionText hregister hvalue (c := c)
  ⟨hnone (by decide) (by decide) (by decide), hnone (by decide) (by decide) (by decide),
    hnone (by decide) (by decide) (by decide),
    uncommented_of_not_mem (hnone (by decide) (by decide) (by decide))⟩

theorem solid_conditionText (hregister : isIdentifier register = true)
    (hvalue : ∀ c ∈ value, isDigit c = true) : Solid (conditionText register value) where
  nonempty := List.append_ne_nil_of_right_ne_nil _ (List.cons_ne_nil _ _)
  solid c hc := by
    have hsigns : Solid ['(', '=', ')'] := solid_of_all (by decide) (by decide)
    rcases mem_conditionText hregister hvalue hc with h | h | h
    · exact isBlank_of_isWord h
    · exact isBlank_of_isDigit h
    · exact hsigns.solid c h

/-- An operation behind a condition on a register that there is. -/
theorem OperationText.conditional (h : OperationText d (room.inside 1) instruction t)
    {r : Register} {n : Nat} (hregister : isIdentifier register = true)
    (hr : d.classical.find? (String.ofList register) = some r) (hn : n < 10 ^ digitLimit) :
    Plain (conditionText register (Nat.toDigits 10 n) ++ ' ' :: t) ∧
      '#' ∉ conditionText register (Nat.toDigits 10 n) ++ ' ' :: t ∧
      Spaced (conditionText register (Nat.toDigits 10 n) ++ ' ' :: t) ∧
      d.statement (conditionText register (Nat.toDigits 10 n) ++ ' ' :: t) room =
        .ok (d.enqueue (some ⟨r.name, r.offset, r.size, n⟩) [instruction]) := by
  have hvalue : ∀ c ∈ Nat.toDigits 10 n, isDigit c = true := fun _ => isDigit_of_mem_toDigits
  have hplain := (plain_conditionText hregister hvalue).append h.plain
  have hsolid := solid_conditionText hregister hvalue
  have hspaced := hsolid.spaced.append h.spaced hsolid.nonempty h.nonempty
  have hoperation : t = trim (' ' :: t) := by
    rw [← List.singleton_append, trim_append_left (List.forall_mem_singleton.mpr (by decide)),
      h.spaced.trim_eq]
  have hform := form_of_eq_conditional_iff.mpr ((congrArg conditional?
    (tidy_of_spaced hplain hspaced)).trans (conditional?_eq_some_iff.mpr ⟨_, _,
      conditionText_written hregister hvalue Nat.toDigits_ne_nil, rfl, List.cons_ne_nil _ _,
      hoperation⟩))
  have hnumber : readNumber (Nat.toDigits 10 n) = .ok n := by
    rw [readNumber, readNat_toDigits hn]
    rfl
  have hunmarked : '#' ∉ conditionText register (Nat.toDigits 10 n) :=
    not_mem_conditionText hregister hvalue (by decide) (by decide) (by decide)
  refine ⟨hplain, not_mem_spaced (by decide) hunmarked h.unmarked, hspaced, ?_⟩
  have hguard : d.guard (some (register, Nat.toDigits 10 n)) =
      .ok (some ⟨r.name, r.offset, r.size, n⟩) := by
    simp only [Draft.guard, hr, hnumber, Except.map]
  rw [Draft.statement_conditional hform, hguard]
  exact h.reads _

theorem OperationText.statement_eq (h : OperationText d (room.inside 1) instruction t) :
    d.statement t room = .ok (d.enqueue none [instruction]) := by
  rw [Draft.statement_operation h.form]
  exact h.reads none

end Conditions

end CircuitConsole.Statement
