import CircuitConsole.Proofs.Circuit.Tiling
import CircuitConsole.Proofs.Statement.JoinedTexts
import CircuitConsole.Proofs.Statement.MovedCalls

/-!
Operations in longer tables. A table of definitions that goes on behind another one has other names
there, so that a call goes to the definition that it went to before, and its body to the definitions
before that one. An operation that is accepted with some tables is accepted with tables that go on
behind them, and queues the same instructions.
-/

namespace CircuitConsole.Statement

section Definitions

variable {definitions more : List Definition} {gate : String} {parameters : List Float}
  {qubits : List Nat} {instructions : List (Instruction Float)} {room : Nat}

/-- Definitions of other gates do not matter for the expansion of a gate. -/
theorem expand_behind (h : ∀ x ∈ more, x.name ≠ gate) :
    expand room (more ++ definitions) gate parameters qubits =
      expand room definitions gate parameters qubits := by
  induction more with
  | nil => rfl
  | cons x more ih =>
    obtain ⟨hx, hmore⟩ := List.forall_mem_cons.mp h
    rw [← ih hmore, List.cons_append]
    exact expand_earlier hx

/-- What can be expanded is built in or defined. -/
theorem known_of_expand (h : expand room definitions gate parameters qubits = .ok instructions) :
    (Gate.ofName? gate).isSome ∨ ∃ x ∈ definitions, x.name = gate := by
  refine expand_ok_induction ?builtIn ?latest ?earlier h
  case builtIn => exact fun _ _ _ _ g _ hgate => .inl (by rw [hgate]; rfl)
  case latest => exact fun _ x _ _ _ _ _ => .inr ⟨x, List.mem_cons_self .., rfl⟩
  case earlier =>
    intro x _ _ _ _ _ _ _ ih
    exact ih.imp_right fun ⟨y, hy, hname⟩ => ⟨y, List.mem_cons_of_mem x hy, hname⟩

/-- The names of a sound table are distinct and not built in, so that definitions behind a table do
not hide what is known there. -/
theorem Sound.later_name (h : Sound (definitions ++ more))
    (hknown : (Gate.ofName? gate).isSome ∨ ∃ x ∈ definitions, x.name = gate) :
    ∀ y ∈ more, y.name ≠ gate := by
  intro y hy
  obtain ⟨before, after, rfl⟩ := List.append_of_mem hy
  have hfits : Fits (definitions ++ before) y := h.fits (by rw [List.append_assoc])
  rcases hknown with hbuiltIn | ⟨x, hx, rfl⟩
  · rintro rfl
    rw [hfits.notBuiltIn] at hbuiltIn
    cases hbuiltIn
  · exact (hfits.new x (List.mem_append_left _ hx)).symm

theorem expand_longer {definitions' : List Definition} (h : definitions <+: definitions')
    (hsound : Sound definitions')
    (hexpand : expand room definitions.reverse gate parameters qubits = .ok instructions) :
    expand room definitions'.reverse gate parameters qubits = .ok instructions := by
  obtain ⟨more, rfl⟩ := h
  have hknown : (Gate.ofName? gate).isSome ∨ ∃ x ∈ definitions, x.name = gate := by
    simpa using known_of_expand hexpand
  have hlater := hsound.later_name hknown
  rw [List.reverse_append, expand_behind, hexpand]
  intro y hy
  exact hlater y (List.mem_reverse.mp hy)

theorem checkArity_longer {definitions' : List Definition} {p q : Nat}
    (h : definitions <+: definitions') (harity : checkArity definitions gate p q = .ok ()) :
    checkArity definitions' gate p q = .ok () := by
  obtain ⟨more, rfl⟩ := h
  have hsame : arity? (definitions ++ more) gate = some (p, q) := by
    have hfound := checkArity_eq_ok harity
    unfold arity? at hfound ⊢
    cases hgate : Gate.ofName? gate with
    | some g => rwa [hgate] at hfound
    | none =>
      rw [hgate] at hfound
      obtain ⟨x, hx, hcounts⟩ := Option.map_eq_some_iff.mp hfound
      dsimp only
      rw [List.find?_append, hx, Option.some_or, Option.map_some, hcounts]
  unfold checkArity
  rw [hsame]
  simp

end Definitions

/-- A reference that is found in a table is found in one that goes on behind it. -/
theorem resolve_longer {table table' : RegisterTable} {kind : RegisterKind}
    {argument : List Char} {span : Span} {room : Capacity} (h : table <+: table')
    (hspan : resolve table kind argument room = .ok span) :
    resolve table' kind argument room = .ok span := by
  unfold resolve at hspan ⊢
  dsimp only at hspan ⊢
  split at hspan
  · cases hspan
  · split at hspan
    · cases hspan
    · rename_i r hr
      rw [RegisterTable.find?_longer h hr]
      exact hspan

namespace Draft

structure Continues (d d' : Draft) : Prop where
  quantum : d.quantum <+: d'.quantum
  classical : d.classical <+: d'.classical
  definitions : d.definitions <+: d'.definitions
  sound : Sound d'.definitions

namespace Continues

variable {d d' e : Draft} {condition : Option Condition} {s : List Char} {room : Capacity}
  (h : Continues d d')

include h

theorem enqueue (condition condition' : Option Condition)
    (instructions instructions' : List (Instruction Float)) :
    Continues (d.enqueue condition instructions) (d'.enqueue condition' instructions') :=
  ⟨h.quantum, h.classical, h.definitions, h.sound⟩

theorem resolveAll {arguments : List (List Char)} {spans : List Span}
    (hspans : arguments.mapM (resolve d.quantum .quantum · room) = .ok spans) :
    arguments.mapM (resolve d'.quantum .quantum · room) = .ok spans :=
  mapM_eq_ok.mpr ((mapM_eq_ok.mp hspans).imp fun _ _ => resolve_longer h.quantum)

theorem call {form : CallForm} (hcall : d.call condition form room = .ok e) :
    ∃ instructions, e = d.enqueue condition instructions ∧
      d'.call condition form room = .ok (d'.enqueue condition instructions) := by
  unfold Draft.call at hcall ⊢
  obtain ⟨_, harity, hcall⟩ := bind_eq_ok.mp hcall
  obtain ⟨parameters, hparameters, hcall⟩ := bind_eq_ok.mp hcall
  obtain ⟨spans, hspans, hcall⟩ := bind_eq_ok.mp hcall
  obtain ⟨turns, hturns, hcall⟩ := bind_eq_ok.mp hcall
  obtain ⟨parts, hparts, hcall⟩ := bind_eq_ok.mp hcall
  have hparts' : turns.mapM (expand (room.calls - 1) d'.definitions.reverse
      (String.ofList form.gate) parameters) = .ok parts :=
    mapM_eq_ok.mpr ((mapM_eq_ok.mp hparts).imp fun _ _ =>
      expand_longer h.definitions h.sound)
  refine ⟨parts.flatten, (Except.ok.inj hcall).symm, ?_⟩
  dsimp only
  rw [checkArity_longer h.definitions harity, hparameters, h.resolveAll hspans]
  dsimp only [bind, Except.bind]
  rw [hturns]
  dsimp only
  rw [hparts']
  rfl

/-- An operation is accepted with the longer tables, and queues what it did. -/
theorem operation (hoperation : d.operation condition s room = .ok e) :
    ∃ instructions, e = d.enqueue condition instructions ∧
      d'.operation condition s room = .ok (d'.enqueue condition instructions) := by
  cases operation_reading s with
  | measurement source target hmeasurement =>
    rw [operation_measurement hmeasurement] at hoperation ⊢
    obtain ⟨qubits, hqubits, hoperation⟩ := bind_eq_ok.mp hoperation
    obtain ⟨bits, hbits, hoperation⟩ := bind_eq_ok.mp hoperation
    rw [resolve_longer h.quantum hqubits, resolve_longer h.classical hbits]
    dsimp only [bind, Except.bind]
    split at hoperation
    · cases hoperation
    · rename_i hsizes
      rw [if_neg hsizes]
      exact ⟨_, (Except.ok.inj hoperation).symm, rfl⟩
  | reset target hmeasurement hreset =>
    rw [operation_reset hmeasurement hreset] at hoperation ⊢
    obtain ⟨qubits, hqubits, rfl⟩ := map_eq_ok.mp hoperation
    rw [resolve_longer h.quantum hqubits]
    exact ⟨_, rfl, rfl⟩
  | barrier arguments hmeasurement hreset hbarrier =>
    rw [operation_barrier hmeasurement hreset hbarrier] at hoperation ⊢
    obtain ⟨spans, hspans, rfl⟩ := map_eq_ok.mp hoperation
    rw [h.resolveAll hspans]
    refine ⟨[], ?_, ?_⟩
    · rw [enqueue_nil]
    · rw [enqueue_nil]
      rfl
  | call form hcall hqubits =>
    rw [hcall.operation_eq hqubits] at hoperation ⊢
    exact h.call hoperation
  | nothing hnothing =>
    rw [hnothing] at hoperation
    cases hoperation

theorem guard {guard : Option (List Char × List Char)}
    (hguard : d.guard guard = .ok condition) : d'.guard guard = .ok condition := by
  cases guard with
  | none => exact hguard
  | some p =>
    obtain ⟨r, number, hr, hnumber, rfl⟩ := guard_eq_ok hguard
    unfold Draft.guard
    dsimp only
    rw [RegisterTable.find?_longer h.classical hr]
    dsimp only
    rw [hnumber]
    rfl

end Continues

inductive Performs (s : List Char) : Prop
  | plain {text : List Char} (h : Form.of s = .operation text)
  | conditional {register value text : List Char} (h : Form.of s = .conditional register value text)

theorem Continues.statement {d d' e : Draft} {s : List Char} {room : Capacity} (h : Continues d d')
    (hs : Performs s) (hstatement : d.statement s room = .ok e) :
    ∃ condition instructions, e = d.enqueue condition instructions ∧
      d'.statement s room = .ok (d'.enqueue condition instructions) := by
  cases hs with
  | plain hform =>
    rw [statement_operation hform] at hstatement ⊢
    exact ⟨none, h.operation hstatement⟩
  | conditional hform =>
    rw [statement_conditional hform] at hstatement ⊢
    obtain ⟨condition, hguard, hstatement⟩ := bind_eq_ok.mp hstatement
    rw [h.guard hguard]
    exact ⟨condition, h.operation hstatement⟩

/-- Statements that only queue operations queue the same ones with longer tables. -/
theorem Continues.statements {d d' e : Draft} {texts : List (List Char)} {room : Capacity}
    (h : Continues d d')
    (htexts : ∀ s ∈ texts, Performs s) (hstatements : d.statements texts room = (e, none)) :
    ∃ operations, e = { d with queue := d.queue ++ operations } ∧
      d'.statements texts room = ({ d' with queue := d'.queue ++ operations }, none) := by
  induction texts generalizing d d' with
  | nil =>
    obtain rfl := (Prod.mk.inj hstatements).1
    exact ⟨[], by rw [List.append_nil], by rw [List.append_nil]; rfl⟩
  | cons s texts ih =>
    obtain ⟨hs, htexts⟩ := List.forall_mem_cons.mp htexts
    rw [statements_cons] at hstatements
    cases hfirst : d.statement s (room.inside 1) with
    | error fault =>
      rw [hfirst] at hstatements
      cases hstatements
    | ok e' =>
      rw [hfirst] at hstatements
      obtain ⟨condition, instructions, rfl, hfirst'⟩ := h.statement hs hfirst
      obtain ⟨operations, rfl, hlater⟩ :=
        ih (h.enqueue condition condition instructions instructions) htexts hstatements
      refine ⟨instructions.map (⟨·, condition⟩) ++ operations, ?_, ?_⟩
      · rw [← List.append_assoc]
        rfl
      · rw [statements_cons, hfirst', ← List.append_assoc]
        exact hlater

end Draft

end CircuitConsole.Statement
