import CircuitConsole.Proofs.Console.JoinedTexts
import CircuitConsole.Proofs.Statement.LongerTables
import CircuitConsole.Proofs.Workspace.DefinitionTables

/-!
What later texts and executions leave as it was. A workspace only gets further registers, further
definitions and further operations, and none of them hides an earlier one. So whatever was queued
keeps its place and its text, and whatever could be performed earlier is performed in the same way,
although the definitions are looked up by their names only when they are called.
-/

namespace CircuitConsole

open Simulation Statement

theorem Statement.Draft.Change.definitions_grow {d d' : Draft} (h : Draft.Change d d') :
    d.definitions <+: d'.definitions := by
  cases h with
  | nothing => exact List.prefix_refl _
  | register kind name size => cases kind <;> exact List.prefix_refl _
  | definition x => exact List.prefix_append _ _
  | operations condition instructions => exact List.prefix_refl _

theorem Statement.Draft.definitions_grow_of_changes {d d' : Draft}
    (h : Relation.ReflTransGen Draft.Change d d') : d.definitions <+: d'.definitions := by
  induction h with
  | refl => exact List.prefix_refl _
  | tail _ hlast ih => exact ih.trans hlast.definitions_grow

namespace Workspace

variable {draws : Draws Float} {w w' v : Workspace}

/-- What a workspace has become after further texts and executions. Those that fail leave it as it
was. -/
inductive Later (draws : Draws Float) (w : Workspace) : Workspace → Prop
  | refl : Later draws w w
  | accept (room : Capacity) (text : List Char) {v : Workspace} (h : Later draws w v) :
      Later draws w ((v.accept text room).result.toOption.getD v)
  | execute (room : Capacity) (drawn : Nat) {v : Workspace} (h : Later draws w v) :
      Later draws w ((v.execute draws drawn room).2.toOption.getD v)

structure Continues (w w' : Workspace) : Prop where
  quantum : w.quantum <+: w'.quantum
  classical : w.classical <+: w'.classical
  definitions : w.definitions <+: w'.definitions
  queue : w.queue <+: w'.queue

theorem Continues.refl (w : Workspace) : w.Continues w :=
  ⟨List.prefix_refl _, List.prefix_refl _, List.prefix_refl _, List.prefix_refl _⟩

theorem Continues.trans (h : w.Continues v) (h' : v.Continues w') : w.Continues w' :=
  ⟨h.quantum.trans h'.quantum, h.classical.trans h'.classical,
    h.definitions.trans h'.definitions, h.queue.trans h'.queue⟩

theorem continues_accept {text : List Char} {room : Capacity}
    (h : (w.accept text room).result = .ok w') :
    w.Continues w' := by
  obtain ⟨d, hchanges, rfl⟩ := accept_eq_ok h
  have hgrows := Draft.grows_of_changes hchanges
  exact ⟨hgrows.quantum, hgrows.classical, Draft.definitions_grow_of_changes hchanges,
    List.prefix_append _ _⟩

theorem continues_execute {drawn : Nat} {room : Capacity}
    (h : (w.execute draws drawn room).2 = .ok w') :
    w.Continues w' := by
  obtain ⟨outcome, -, rfl⟩ := execute_eq_ok h
  exact ⟨List.prefix_refl _, List.prefix_refl _, List.prefix_refl _, List.prefix_refl _⟩

/-- A single text or execution, and so any row of them, leads on behind a workspace, and what is
reached stays reachable. -/
theorem Later.continues (h : w.Later draws w') (hw : w.Reachable draws) :
    w'.Reachable draws ∧ w.Continues w' := by
  induction h with
  | refl => exact ⟨hw, .refl w⟩
  | @accept room text v _ ih =>
    obtain ⟨hreachable, hcontinues⟩ := ih
    cases haccept : (v.accept text room).result with
    | error fault => exact ⟨hreachable, hcontinues⟩
    | ok w' =>
      exact ⟨.accept room text hreachable haccept, hcontinues.trans (continues_accept haccept)⟩
  | @execute room drawn v _ ih =>
    obtain ⟨hreachable, hcontinues⟩ := ih
    cases hexecute : (v.execute draws drawn room).2 with
    | error fault => exact ⟨hreachable, hcontinues⟩
    | ok w' =>
      exact ⟨.execute room drawn hreachable hexecute,
        hcontinues.trans (continues_execute hexecute)⟩

theorem commit_queue (w : Workspace) (operations : List (Operation Float)) :
    w.commit { w.draft with queue := w.draft.queue ++ operations } = { w with
      queue := w.queue ++ operations
      dirty := w.dirty || operations ≠ [] } := by
  cases operations <;> simp [commit, draft]

namespace Continues

variable (h : w.Continues w')

include h

/-- The text of an operation only has the names of bits that were there when it was queued. -/
theorem describe_eq (hw : w.WellFormed) {op : Operation Float} (hop : op ∈ w.queue) :
    w'.describe op = w.describe op := by
  have hfits := hw.instructions op hop
  have hqubits : op.instruction.qubits.map w'.quantum.bitName =
      op.instruction.qubits.map w.quantum.bitName :=
    List.map_congr_left fun q hq =>
      RegisterTable.bitName_longer hw.tiledQuantum h.quantum (hfits.qubits_lt q hq)
  have hbits : op.instruction.bits.map w'.classical.bitName =
      op.instruction.bits.map w.classical.bitName :=
    List.map_congr_left fun b hb =>
      RegisterTable.bitName_longer hw.tiledClassical h.classical (hfits.bits_lt b hb)
  unfold describe
  dsimp only
  rw [hqubits, hbits]

/-- A text that only queues operations queues the same ones later on. -/
theorem accept_performs (hw' : Sound w'.definitions) {text : List Char} {room : Capacity}
    {statements : List (List Char)} {v : Workspace} (hsplit : split text = .ok statements)
    (hperforms : ∀ s ∈ statements, Draft.Performs s) (hv : (w.accept text room).result = .ok v) :
    ∃ operations,
      v = { w with
        queue := w.queue ++ operations
        dirty := w.dirty || operations ≠ [] } ∧
      (w'.accept text room).result = .ok { w' with
        queue := w'.queue ++ operations
        dirty := w'.dirty || operations ≠ [] } := by
  obtain ⟨xs, d, hxs, hstatements, rfl⟩ := accept_eq_ok_iff.mp hv
  obtain rfl := Except.ok.inj (hsplit.symm.trans hxs)
  have hdrafts : w.draft.Continues w'.draft := ⟨h.quantum, h.classical, h.definitions, hw'⟩
  obtain ⟨operations, rfl, hlater⟩ := hdrafts.statements hperforms hstatements
  exact ⟨operations, w.commit_queue operations,
    accept_eq_ok_iff.mpr ⟨_, _, hsplit, hlater, (w'.commit_queue operations).symm⟩⟩

end Continues

structure Preserved (w w' : Workspace) : Prop where
  queue : w.queue <+: w'.queue
  quantum : ∀ r ∈ w.quantum, w'.quantum.find? r.name = some r
  classical : ∀ r ∈ w.classical, w'.classical.find? r.name = some r
  texts : ∀ op ∈ w.queue, w'.describe op = w.describe op
  expansions : ∀ room gate parameters qubits instructions,
    expand room w.definitions.reverse gate parameters qubits = .ok instructions →
    expand room w'.definitions.reverse gate parameters qubits = .ok instructions
  performs : ∀ room text statements v, split text = .ok statements →
    (∀ s ∈ statements, Draft.Performs s) → (w.accept text room).result = .ok v →
    ∃ operations,
      v = { w with
        queue := w.queue ++ operations
        dirty := w.dirty || operations ≠ [] } ∧
      (w'.accept text room).result = .ok { w' with
        queue := w'.queue ++ operations
        dirty := w'.dirty || operations ≠ [] }

/-- Later texts and executions change nothing of what was there: neither the queue, nor the places
of the registers, nor the texts of the operations, nor what a gate expands to, nor what a text
queues that neither declares nor defines anything. -/
theorem Later.preserved (h : w.Later draws w')
    (hw : w.Reachable draws ∨ ∃ c : Console, c.Reachable draws ∧ w ∈ c.workspaces) :
    w.Preserved w' := by
  have hreachable := Console.reachable_of_held hw
  obtain ⟨hreachable', hcontinues⟩ := h.continues hreachable
  have hwell := hreachable.wellFormed
  have hwell' := hreachable'.wellFormed
  obtain ⟨hquantum, hclassical, -⟩ := List.nodup_append.mp hwell'.names
  exact {
    queue := hcontinues.queue
    quantum := fun r hr => RegisterTable.find?_of_mem hquantum (hcontinues.quantum.subset hr)
    classical := fun r hr =>
      RegisterTable.find?_of_mem hclassical (hcontinues.classical.subset hr)
    texts := fun op hop => hcontinues.describe_eq hwell hop
    expansions := fun _ _ _ _ _ => expand_longer hcontinues.definitions hwell'.sound
    performs := fun _ _ _ _ => hcontinues.accept_performs hwell'.sound }

/-- A gate that a later text fails to define once more, with a register and a gate of a third text,
and an execution. -/
theorem preserved_behind_failure :
    let t := "qreg q[2]; creg c[1]; gate g a,b \x7bcx b,a;\x7d if(c==1) g q[0],q[1];".toList
    let failing := "qreg r[1]; gate g a,b \x7bswap a,b;\x7d".toList
    ∃ w w', (empty.accept t .usual).result = .ok w ∧ w.Later (fun _ => 0) w' ∧
      (w.accept failing .usual).result.toOption = none ∧ w'.quantum.names = ["q", "r"] ∧
      w'.queue.length = 4 ∧ w.Preserved w' := by
  intro t failing
  let further := "qreg r[3]; gate k a \x7bx a;\x7d k r;".toList
  obtain ⟨w, hw, hchecked⟩ := ok_of_any (x := (empty.accept t .usual).result)
    (p := fun w => (w.accept failing .usual).result.toOption.isNone &&
      (w.accept further .usual).result.toOption.any fun v =>
        v.quantum.names = ["q", "r"] && v.queue.length = 4) (by decide +kernel)
  obtain ⟨hfailing, hfurther⟩ := Bool.and_eq_true_iff.mp hchecked
  obtain ⟨v, hv, hlengths⟩ := ok_of_any hfurther
  simp only [Bool.and_eq_true, decide_eq_true_eq] at hlengths
  have hreachable : w.Reachable fun _ => 0 := .accept .usual t .empty hw
  have hlater : w.Later (fun _ => 0) v := by
    have hafter : w.Later (fun _ => 0) _ :=
      .accept .usual further (.accept .usual failing .refl)
    rwa [Option.isNone_iff_eq_none.mp hfailing, Option.getD_none, hv] at hafter
  have hcircuit : ((v.execute (fun _ => 0) 0 .usual).2.toOption.getD v).quantum = v.quantum ∧
      ((v.execute (fun _ => 0) 0 .usual).2.toOption.getD v).queue = v.queue := by
    cases hexecute : (v.execute (fun _ => 0) 0 .usual).2 with
    | error fault => exact ⟨rfl, rfl⟩
    | ok v' =>
      obtain ⟨outcome, -, rfl⟩ := execute_eq_ok hexecute
      exact ⟨rfl, rfl⟩
  refine ⟨w, _, hw, hlater.execute .usual 0, Option.isNone_iff_eq_none.mp hfailing, ?_, ?_,
    (hlater.execute .usual 0).preserved (.inl hreachable)⟩
  · rw [hcircuit.1]
    exact hlengths.1
  · rw [hcircuit.2]
    exact hlengths.2

end Workspace

namespace Console

variable {draws : Draws Float}

/-- Whatever comes of a text, the console has a later workspace. -/
theorem accept_later (c : Console) (room : Capacity) (text : List Char) :
    c.workspace.Later draws (c.accept room text).console.workspace := by
  have hlater : c.workspace.Later draws _ := .accept room text .refl
  rcases c.accept_cases room text with ⟨w, hw, -, rfl⟩ | ⟨fault, hfault, -, hsame⟩
  · rwa [hw] at hlater
  · rw [hsame]
    exact .refl

/-- Whatever comes of an execution, the console has a later workspace. -/
theorem go_later (s : Setting) (c : Console) :
    c.workspace.Later s.draws (c.go s).console.workspace := by
  have hlater : c.workspace.Later s.draws _ := .execute s.room c.drawn .refl
  unfold go
  split
  · exact .refl
  · rename_i w hexecute
    rwa [hexecute] at hlater

end Console

end CircuitConsole
