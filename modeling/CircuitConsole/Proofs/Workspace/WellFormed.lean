import CircuitConsole.Proofs.Console.Workspaces
import CircuitConsole.Proofs.Statement.Placement
import CircuitConsole.Proofs.Workspace.Commitment

/-!
Well-formed circuits. The registers of either kind tile their bits and all names differ; every
definition fits to those before it; every queued operation fits into the registers, and a condition
reads a register that is declared. Each change of a draft keeps this, and so does every way to make
a workspace.
-/

namespace CircuitConsole

structure WellFormed (quantum classical : RegisterTable) (definitions : List Definition)
    (queue : List (Operation Float)) : Prop where
  tiledQuantum : quantum.Tiled
  tiledClassical : classical.Tiled
  names : (quantum.names ++ classical.names).Nodup
  sound : Statement.Sound definitions
  instructions : ∀ op ∈ queue, op.instruction.FitsIn quantum.width classical.width
  conditions : ∀ op ∈ queue, ∀ c ∈ op.condition, Statement.Reads classical c

theorem Statement.Reads.mono {table table' : RegisterTable} {c : Condition}
    (h : Statement.Reads table c) (htable : table <+: table') : Statement.Reads table' c := by
  obtain ⟨r, hr, heq⟩ := h
  exact ⟨r, htable.subset hr, heq⟩

namespace WellFormed

variable {quantum quantum' classical classical' : RegisterTable}
  {definitions definitions' : List Definition} {queue queue' : List (Operation Float)}

theorem empty : WellFormed [] [] [] [] :=
  ⟨trivial, trivial, .nil, .nil, by simp, by simp⟩

/-- Operations that fit into tables fit into longer ones. -/
theorem operations (h : WellFormed quantum classical definitions queue)
    (h' : WellFormed quantum' classical' definitions' queue')
    (hquantum : quantum <+: quantum') (hclassical : classical <+: classical') :
    WellFormed quantum' classical' definitions' (queue ++ queue') := by
  refine ⟨h'.tiledQuantum, h'.tiledClassical, h'.names, h'.sound, ?_, ?_⟩
  · intro op hop
    rcases List.mem_append.mp hop with hop | hop
    · exact (h.instructions op hop).mono (RegisterTable.width_le_of_prefix hquantum)
        (RegisterTable.width_le_of_prefix hclassical)
    · exact h'.instructions op hop
  · intro op hop c hc
    rcases List.mem_append.mp hop with hop | hop
    · exact (h.conditions op hop c hc).mono hclassical
    · exact h'.conditions op hop c hc

end WellFormed

namespace Statement.Draft

def WellFormed (d : Draft) : Prop :=
  CircuitConsole.WellFormed d.quantum d.classical d.definitions d.queue

theorem Change.wellFormed {d d' : Draft} (hd : d.WellFormed) (h : Change d d') :
    d'.WellFormed := by
  cases h with
  | nothing => exact hd
  | register kind name size hquantum hclassical hsize =>
    have hnew : (name :: (d.quantum.names ++ d.classical.names)).Nodup := by
      refine List.nodup_cons.mpr ⟨?_, hd.names⟩
      rw [List.mem_append]
      rintro (h | h)
      · exact RegisterTable.not_mem_names hquantum h
      · exact RegisterTable.not_mem_names hclassical h
    cases kind with
    | quantum =>
      refine ⟨hd.tiledQuantum.declare name hsize, hd.tiledClassical, ?_, hd.sound, ?_,
        hd.conditions⟩
      · change ((d.quantum.declare name size).names ++ d.classical.names).Nodup
        rw [RegisterTable.names_declare, List.append_assoc]
        exact List.nodup_middle.mpr hnew
      · intro op hop
        exact (hd.instructions op hop).mono
          (RegisterTable.width_le_of_prefix (List.prefix_append _ _)) (Nat.le_refl _)
    | classical =>
      refine ⟨hd.tiledQuantum, hd.tiledClassical.declare name hsize, ?_, hd.sound, ?_, ?_⟩
      · change (d.quantum.names ++ (d.classical.declare name size).names).Nodup
        rw [RegisterTable.names_declare, ← List.append_assoc]
        exact List.nodup_middle.mpr (by rwa [List.append_nil])
      · intro op hop
        exact (hd.instructions op hop).mono (Nat.le_refl _)
          (RegisterTable.width_le_of_prefix (List.prefix_append _ _))
      · intro op hop c hc
        exact (hd.conditions op hop c hc).mono (List.prefix_append _ _)
  | definition x hfits =>
    exact ⟨hd.tiledQuantum, hd.tiledClassical, hd.names, .snoc hd.sound hfits, hd.instructions,
      hd.conditions⟩
  | operations condition instructions hcondition hqueued =>
    have hnew : CircuitConsole.WellFormed d.quantum d.classical d.definitions
        (instructions.map (⟨·, condition⟩)) := by
      refine ⟨hd.tiledQuantum, hd.tiledClassical, hd.names, hd.sound, ?_, ?_⟩
      · intro op hop
        obtain ⟨i, hi, rfl⟩ := List.mem_map.mp hop
        exact hqueued.fitsIn hd.tiledQuantum hd.tiledClassical hd.sound i hi
      · intro op hop c hc
        obtain ⟨i, _, rfl⟩ := List.mem_map.mp hop
        exact hcondition c hc
    exact hd.operations hnew (List.prefix_refl _) (List.prefix_refl _)

theorem wellFormed_of_changes {d d' : Draft} (hd : d.WellFormed)
    (h : Relation.ReflTransGen Change d d') : d'.WellFormed := by
  induction h with
  | refl => exact hd
  | tail _ hlast ih => exact hlast.wellFormed ih

end Statement.Draft

namespace Workspace

def WellFormed (w : Workspace) : Prop :=
  CircuitConsole.WellFormed w.quantum w.classical w.definitions w.queue

theorem accept_wellFormed {w w' : Workspace} {text : List Char} {room : Capacity}
    (h : (w.accept text room).result = .ok w') (hw : w.WellFormed) : w'.WellFormed := by
  obtain ⟨d, hchanges, rfl⟩ := accept_eq_ok h
  have hgrows := Statement.Draft.grows_of_changes hchanges
  have hdraft : w.draft.WellFormed :=
    ⟨hw.tiledQuantum, hw.tiledClassical, hw.names, hw.sound, by simp [draft], by simp [draft]⟩
  exact hw.operations (Statement.Draft.wellFormed_of_changes hdraft hchanges) hgrows.quantum
    hgrows.classical

/-- Every workspace made by accepting texts and executing is well-formed. -/
theorem Reachable.wellFormed {draws : Simulation.Draws Float} {w : Workspace}
    (h : w.Reachable draws) : w.WellFormed := by
  induction h with
  | empty => exact .empty
  | accept room text _ haccept ih => exact accept_wellFormed haccept ih
  | execute room drawn _ hexecute ih =>
    obtain ⟨outcome, _, rfl⟩ := execute_eq_ok hexecute
    exact ih

end Workspace

end CircuitConsole
