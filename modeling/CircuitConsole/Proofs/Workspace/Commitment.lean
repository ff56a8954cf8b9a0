import CircuitConsole.Proofs.Circuit.Tiling
import CircuitConsole.Proofs.Statement.Changes
import CircuitConsole.Workspace.State

/-!
What accepting a text and executing the queue make of a workspace. An accepted text is a row of
changes to the draft, and the workspace takes the last draft over. Registers are never taken away,
and where a text declares none the tables are the old ones.
-/

namespace CircuitConsole

namespace Statement.Draft

/-- A draft with the old registers and operations and maybe more, and with just the old registers
where none is said to be declared. -/
structure Grows (d d' : Draft) : Prop where
  quantum : d.quantum <+: d'.quantum
  classical : d.classical <+: d'.classical
  queue : d.queue <+: d'.queue
  kept : d'.declared = false →
    d.declared = false ∧ d'.quantum = d.quantum ∧ d'.classical = d.classical

theorem Grows.refl (d : Draft) : Grows d d :=
  ⟨List.prefix_refl _, List.prefix_refl _, List.prefix_refl _, fun h => ⟨h, rfl, rfl⟩⟩

theorem Grows.trans {d d' d'' : Draft} (h : Grows d d') (h' : Grows d' d'') : Grows d d'' where
  quantum := h.quantum.trans h'.quantum
  classical := h.classical.trans h'.classical
  queue := h.queue.trans h'.queue
  kept hdeclared := by
    obtain ⟨hd', hq', hc'⟩ := h'.kept hdeclared
    obtain ⟨hd, hq, hc⟩ := h.kept hd'
    exact ⟨hd, hq'.trans hq, hc'.trans hc⟩

theorem Change.grows {d d' : Draft} (h : Change d d') : Grows d d' := by
  cases h with
  | nothing => exact .refl d
  | register kind name size =>
    cases kind with
    | quantum =>
      exact ⟨List.prefix_append _ _, List.prefix_refl _, List.prefix_refl _,
        fun h => Bool.noConfusion h⟩
    | classical =>
      exact ⟨List.prefix_refl _, List.prefix_append _ _, List.prefix_refl _,
        fun h => Bool.noConfusion h⟩
  | definition x =>
    exact ⟨List.prefix_refl _, List.prefix_refl _, List.prefix_refl _, fun h => ⟨h, rfl, rfl⟩⟩
  | operations condition instructions =>
    exact ⟨List.prefix_refl _, List.prefix_refl _, List.prefix_append _ _, fun h => ⟨h, rfl, rfl⟩⟩

theorem grows_of_changes {d d' : Draft} (h : Relation.ReflTransGen Change d d') :
    Grows d d' := by
  induction h with
  | refl => exact .refl d
  | tail _ hlast ih => exact ih.trans hlast.grows

end Statement.Draft

namespace Workspace

open Simulation

/-- A text is accepted if it is cut into statements that can all be worked into the draft. -/
theorem accept_eq_ok_iff {w w' : Workspace} {text : List Char} {room : Capacity} :
    (w.accept text room).result = .ok w' ↔
      ∃ xs d, Statement.split text = .ok xs ∧ w.draft.statements xs room = (d, none) ∧
        w' = w.commit d := by
  unfold accept
  cases Statement.split text with
  | error fault => simp
  | ok xs =>
    rcases hstatements : w.draft.statements xs room with ⟨d, _ | fault⟩
    · simp [hstatements, eq_comm]
    · simp [hstatements]

/-- An accepted text is a row of changes to the draft, all taken over. -/
theorem accept_eq_ok {w w' : Workspace} {text : List Char} {room : Capacity}
    (h : (w.accept text room).result = .ok w') :
    ∃ d, Relation.ReflTransGen Statement.Draft.Change w.draft d ∧ w' = w.commit d := by
  obtain ⟨statements, d, -, hstatements, hw'⟩ := accept_eq_ok_iff.mp h
  exact ⟨d, Statement.Draft.statements_changes hstatements, hw'⟩

/-- A text of a single statement is accepted as the statement is. -/
theorem accept_single {w : Workspace} {text s : List Char} {room : Capacity}
    (h : Statement.split text = .ok [s]) :
    (w.accept text room).result = (w.draft.statement s (room.inside 1)).map w.commit := by
  unfold accept
  rw [h]
  dsimp only
  rw [Statement.Draft.statements_cons]
  cases w.draft.statement s (room.inside 1) <;> rfl

/-- A text fails with its first statement, before anything is defined. -/
theorem accept_first {w : Workspace} {text s : List Char} {rest : List (List Char)}
    {fault : Statement.Fault} {room : Capacity} (hsplit : Statement.split text = .ok (s :: rest))
    (h : w.draft.statement s (room.inside 1) = .error fault) :
    w.accept text room = ⟨[], .error fault⟩ := by
  have hread : w.draft.statements (s :: rest) room = (w.draft, some fault) :=
    Statement.Draft.statements_of_error h
  unfold accept
  simp only [hsplit, hread]
  simp [draft]

theorem accept_uncut {w : Workspace} {text : List Char} {fault : Statement.Fault}
    (hsplit : Statement.split text = .error fault) (room : Capacity) :
    w.accept text room = ⟨[], .error fault⟩ := by
  simp only [accept, hsplit]

/-- An execution that succeeds keeps its outcome and nothing pending. -/
theorem execute_eq_ok {draws : Draws Float} {drawn : Nat} {w w' : Workspace} {room : Capacity}
    (h : (w.execute draws drawn room).2 = .ok w') :
    ∃ outcome, (w.circuit.execute draws drawn room).2 = .ok outcome ∧
      w' = { w with
        amplitudes := outcome.amplitudes
        bits := outcome.bits
        executed := w.queue.length
        dirty := false } := by
  obtain ⟨outcome, houtcome, rfl⟩ := map_eq_ok.mp h
  exact ⟨outcome, houtcome, rfl⟩

end Workspace

end CircuitConsole
