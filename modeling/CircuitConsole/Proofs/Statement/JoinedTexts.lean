import CircuitConsole.Proofs.Statement.Drafts
import CircuitConsole.Proofs.Success
import CircuitConsole.Proofs.Text.Trimming
import CircuitConsole.Statement.Draft

/-!
Two texts put together, with a semicolon on a line of its own between them. The line ends close
what comment the first text ends in, and the semicolon ends its last statement, so that the
statements are those of the one text and then those of the other. Working them into a draft does
not depend on what the draft has queued before.
-/

namespace CircuitConsole.Statement

open Text

section Pieces

/-- A character that does not begin a comment is kept. -/
theorem withoutComments_cons {c : Char} {rest : List Char}
    (h : c = '/' → rest.head? ≠ some '/') :
    withoutComments false (c :: rest) = c :: withoutComments false rest := by
  rw [withoutComments.eq_def]
  split
  · rename_i heq
    cases heq
  · rename_i heq _
    cases heq
  · rename_i heq
    obtain ⟨rfl, rfl⟩ := List.cons.inj heq
    exact absurd rfl (h rfl)
  · rename_i heq
    obtain ⟨rfl, rfl⟩ := List.cons.inj heq
    rfl

/-- A comment ends where its line does. -/
theorem withoutComments_append_line (comment : Bool) (s t : List Char) :
    withoutComments comment (s ++ '\n' :: t) =
      withoutComments comment s ++ '\n' :: withoutComments false t := by
  fun_induction withoutComments comment s with
  | case1 comment => cases comment <;> simp [withoutComments]
  | case2 rest ih => simp [withoutComments, ih]
  | case3 c rest hc ih => simp [withoutComments, hc, ih]
  | case4 rest ih => simp [withoutComments, ih]
  | case5 c rest hc ih =>
    have hplain : c = '/' → (rest ++ '\n' :: t).head? ≠ some '/' := by
      intro hslash
      cases rest with
      | nil => simp
      | cons d rest => exact fun hd => hc rest hslash (congrArg (· :: rest) (Option.some.inj hd))
    rw [List.cons_append, withoutComments_cons hplain, ih, List.cons_append]

def cutAt (depth : Nat) (c : Char) : Except Fault (Nat × (List (List Char) → List (List Char))) :=
  if c = '\x7b' then .ok (depth + 1, onFirst c)
  else if c = '\x7d' then
    match depth with
    | 0 => .error .unbalancedBrace
    | 1 => .ok (0, ([c] :: ·))
    | depth + 2 => .ok (depth + 1, onFirst c)
  else if c = ';' && depth == 0 then .ok (0, ([] :: ·))
  else .ok (depth, onFirst c)

theorem pieces_cons (depth : Nat) (c : Char) (rest : List Char) :
    pieces depth (c :: rest) = cutAt depth c >>= fun cut => (pieces cut.1 rest).map cut.2 := by
  rw [pieces.eq_def, cutAt.eq_def]
  dsimp only
  split
  · rfl
  · split
    · split <;> rfl
    · split <;> rfl

/-- A character goes to the first piece, ends a block, or is left out between statements. -/
theorem cutAt_eq_ok {depth depth' : Nat} {c : Char} {f : List (List Char) → List (List Char)}
    (h : cutAt depth c = .ok (depth', f)) :
    f = onFirst c ∨ f = ([c] :: ·) ∨ f = ([] :: ·) := by
  unfold cutAt at h
  split at h
  · exact .inl (Prod.mk.inj (Except.ok.inj h)).2.symm
  · split at h
    · split at h
      · cases h
      · exact .inr (.inl (Prod.mk.inj (Except.ok.inj h)).2.symm)
      · exact .inl (Prod.mk.inj (Except.ok.inj h)).2.symm
    · split at h
      · exact .inr (.inr (Prod.mk.inj (Except.ok.inj h)).2.symm)
      · exact .inl (Prod.mk.inj (Except.ok.inj h)).2.symm

/-- A function on pieces that only looks at the first: more pieces may be added behind, and the last
may be lengthened. -/
def ActsInFront (f : List (List Char) → List (List Char)) : Prop :=
  ∀ front last, ∃ front' last', ∀ b qs,
    f (front ++ [last ++ b] ++ qs) = front' ++ [last' ++ b] ++ qs

theorem cutAt_actsInFront {depth depth' : Nat} {c : Char}
    {f : List (List Char) → List (List Char)} (h : cutAt depth c = .ok (depth', f)) :
    ActsInFront f := by
  intro front last
  rcases cutAt_eq_ok h with rfl | rfl | rfl
  · cases front with
    | nil => exact ⟨[], c :: last, fun _ _ => rfl⟩
    | cons piece front => exact ⟨(c :: piece) :: front, last, fun _ _ => rfl⟩
  · exact ⟨[c] :: front, last, fun _ _ => rfl⟩
  · exact ⟨[] :: front, last, fun _ _ => rfl⟩

/-- A text that is cut has a last piece, and a semicolon on a new line ends it. -/
theorem pieces_append_semicolon {depth : Nat} {s : List Char} {ps : List (List Char)}
    (h : pieces depth s = .ok ps) :
    ∃ front last, ps = front ++ [last] ∧ ∀ t, pieces depth (s ++ '\n' :: ';' :: t) =
      (pieces 0 t).map fun qs => front ++ [last ++ ['\n']] ++ qs := by
  induction s generalizing depth ps with
  | nil =>
    unfold pieces at h
    split at h
    · rename_i hdepth
      obtain rfl := Except.ok.inj h
      subst hdepth
      refine ⟨[], [], rfl, fun t => ?_⟩
      cases hpieces : pieces 0 t <;> simp [pieces, hpieces, Except.map, onFirst]
    · cases h
  | cons c rest ih =>
    rw [pieces_cons] at h
    obtain ⟨⟨depth', f⟩, hcut, hrest⟩ := bind_eq_ok.mp h
    obtain ⟨ps', hps', rfl⟩ := map_eq_ok.mp hrest
    obtain ⟨front, last, rfl, hjoin⟩ := ih hps'
    obtain ⟨front', last', hacts⟩ := cutAt_actsInFront hcut front last
    refine ⟨front', last', by simpa using hacts [] [], fun t => ?_⟩
    rw [List.cons_append, pieces_cons, hcut]
    change (pieces depth' _).map f = _
    rw [hjoin]
    cases pieces 0 t with
    | error fault => rfl
    | ok qs => exact congrArg Except.ok (hacts ['\n'] qs)

theorem isBlank_lineEnd : ∀ c ∈ ['\n'], isBlank c = true := List.all_eq_true.mp rfl

/-- A line end before a text only lengthens its first piece. -/
theorem pieces_lineEnd {t : List Char} {ps : List (List Char)} (h : pieces 0 t = .ok ps) :
    ∃ first rest, ps = first :: rest ∧ pieces 0 ('\n' :: t) = .ok (('\n' :: first) :: rest) := by
  obtain ⟨front, last, hps, _⟩ := pieces_append_semicolon h
  cases ps with
  | nil => simp at hps
  | cons first rest => exact ⟨first, rest, rfl, by simp [pieces, h, Except.map, onFirst]⟩

/-- The statements of two texts put together are those of the one and then those of the other. -/
theorem split_join {front back : List Char} {xs : List (List Char)} (h : split front = .ok xs) :
    split (front ++ "\n;\n".toList ++ back) = (split back).map (xs ++ ·) := by
  obtain ⟨ps, hps, rfl⟩ := map_eq_ok.mp h
  obtain ⟨init, last, rfl, hjoin⟩ := pieces_append_semicolon hps
  have hcomments : withoutComments false (front ++ "\n;\n".toList ++ back) =
      withoutComments false front ++ '\n' :: ';' :: '\n' :: withoutComments false back := by
    have hseparator : "\n;\n".toList = ['\n', ';', '\n'] := by decide
    rw [hseparator, List.append_assoc]
    simp only [List.cons_append, List.nil_append]
    rw [withoutComments_append_line, withoutComments_cons (by simp), withoutComments_cons (by simp)]
  rw [split, hcomments, hjoin, split]
  cases hback : pieces 0 (withoutComments false back) with
  | error fault => simp [pieces, hback, Except.map]
  | ok qs =>
    obtain ⟨first, rest, rfl, hline⟩ := pieces_lineEnd hback
    have hlast : trim (last ++ ['\n']) = trim last := trim_append_right last isBlank_lineEnd
    have hfirst : trim ('\n' :: first) = trim first := trim_append_left isBlank_lineEnd first
    simp only [hline, Except.map, List.map_append, List.map_cons, List.map_nil, List.filter_append,
      hlast, hfirst]

end Pieces

namespace Draft

variable {d d' : Draft} {queue : List (Operation Float)} {declared : Bool}
  {room : Capacity}

def behind (queue : List (Operation Float)) (declared : Bool) (d : Draft) : Draft :=
  { d with queue := queue ++ d.queue, declared := declared || d.declared }

theorem enqueue_behind (condition : Option Condition) (instructions : List (Instruction Float)) :
    (d.behind queue declared).enqueue condition instructions =
      (d.enqueue condition instructions).behind queue declared := by
  simp [enqueue, behind]

theorem declare_behind (kind : RegisterKind) (name : String) (size : Nat) :
    (d.behind queue declared).declare kind name size =
      (d.declare kind name size).map (behind queue declared) := by
  unfold declare
  by_cases hname : (d.quantum.contains name || d.classical.contains name) = true
  · rw [if_pos hname, behind, if_pos hname]
    rfl
  · rw [if_neg hname, behind, if_neg hname]
    by_cases hsize : size < 1
    · rw [if_pos hsize, if_pos hsize]
      rfl
    · rw [if_neg hsize, if_neg hsize]
      cases kind <;> simp [Except.map, behind]

theorem define_behind (form : DefinitionForm) :
    (d.behind queue declared).define form = (d.define form).map (behind queue declared) := by
  unfold define
  dsimp only
  by_cases hname : ((Gate.ofName? (String.ofList form.name)).isSome ||
      d.definitions.any fun x => decide (x.name = String.ofList form.name)) = true
  · rw [if_pos hname, behind, if_pos hname]
    rfl
  · rw [if_neg hname, behind, if_neg hname]
    cases List.find? (fun i => !isIdentifier i)
      ((commaParts form.parameters).filter (· ≠ []) ++ commaParts (trim form.qubits)) with
    | some i => rfl
    | none =>
      by_cases hqubits : commaParts (trim form.qubits) = []
      · simp only [if_pos hqubits]
        rfl
      · simp only [if_neg hqubits, map_bind_except]
        rfl

theorem call_behind (condition : Option Condition) (form : CallForm) :
    (d.behind queue declared).call condition form room =
      (d.call condition form room).map (behind queue declared) := by
  unfold call
  simp only [map_bind_except, enqueue_behind]
  rfl

theorem operation_behind (condition : Option Condition) (s : List Char) :
    (d.behind queue declared).operation condition s room =
      (d.operation condition s room).map (behind queue declared) := by
  cases operation_reading s with
  | measurement source target h =>
    rw [operation_measurement h, operation_measurement h]
    simp only [map_bind_except, enqueue_behind, apply_ite (Except.map (behind queue declared))]
    rfl
  | reset target hmeasurement h =>
    rw [operation_reset hmeasurement h, operation_reset hmeasurement h]
    simp only [enqueue_behind, map_map_except]
    rfl
  | barrier arguments hmeasurement hreset h =>
    rw [operation_barrier hmeasurement hreset h, operation_barrier hmeasurement hreset h]
    rw [map_map_except]
    rfl
  | call form h hqubits =>
    rw [h.operation_eq hqubits, h.operation_eq hqubits]
    exact call_behind condition form
  | nothing h =>
    rw [h, h]
    rfl

theorem guard_behind (guard : Option (List Char × List Char)) :
    (d.behind queue declared).guard guard = d.guard guard := by
  cases guard <;> rfl

theorem statement_behind (s : List Char) :
    (d.behind queue declared).statement s room =
      (d.statement s room).map (behind queue declared) := by
  cases hform : Form.of s with
  | ignored =>
    rw [statement_ignored hform, statement_ignored hform]
    rfl
  | declaration kind name size =>
    rw [statement_declaration hform, statement_declaration hform, map_bind_except]
    exact bind_congr fun size => declare_behind kind _ size
  | definition form =>
    rw [statement_definition hform, statement_definition hform]
    exact define_behind form
  | conditional register value text =>
    rw [statement_conditional hform, statement_conditional hform, guard_behind, map_bind_except]
    exact bind_congr fun condition => operation_behind condition text
  | operation text =>
    rw [statement_operation hform, statement_operation hform]
    exact operation_behind none text

theorem statements_behind (texts : List (List Char)) :
    (d.behind queue declared).statements texts room =
      ((d.statements texts room).1.behind queue declared, (d.statements texts room).2) := by
  induction texts generalizing d with
  | nil => rfl
  | cons s texts ih =>
    rw [statements_cons, statements_cons, statement_behind]
    cases d.statement s (room.inside 1) with
    | error fault => rfl
    | ok d' => exact ih

/-- Statements are worked in one after the other; those behind the first that fails are not. -/
theorem statements_append (xs ys : List (List Char)) :
    d.statements (xs ++ ys) room =
      match d.statements xs room with
      | (d', none) => d'.statements ys room
      | (d', some fault) => (d', some fault) := by
  induction xs generalizing d with
  | nil => rfl
  | cons s xs ih =>
    rw [List.cons_append, statements_cons, statements_cons]
    cases d.statement s (room.inside 1) with
    | error fault => rfl
    | ok d' => exact ih

theorem statements_append_eq_none {d d'' : Draft} {xs ys : List (List Char)} :
    d.statements (xs ++ ys) room = (d'', none) ↔
      ∃ d', d.statements xs room = (d', none) ∧ d'.statements ys room = (d'', none) := by
  rw [statements_append]
  rcases d.statements xs room with ⟨d', _ | fault⟩
  · simp
  · simp

end Draft

end CircuitConsole.Statement
