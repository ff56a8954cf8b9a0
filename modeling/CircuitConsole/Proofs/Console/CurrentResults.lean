import CircuitConsole.Proofs.Console.Workspaces
import CircuitConsole.Proofs.Simulation.Shape
import CircuitConsole.Proofs.Workspace.Commitment

/-!
Results are current. A workspace that is not dirty holds the outcome of its whole queue over all
its registers, for some of the random numbers; this survives every action, since whatever changes
the circuit makes the workspace dirty, and only an execution that succeeds makes it clean again.
Views that need an execution therefore show the circuit as it stands. A dirty workspace may hold
an older result, but never one for more qubits or bits than it has.
-/

namespace CircuitConsole

open Simulation

namespace Workspace

/-- The result is that of the whole queue on all registers, with random numbers from some place
on. -/
def Current (draws : Draws Float) (w : Workspace) : Prop :=
  w.executed = w.queue.length ∧
    ∃ drawn room, (w.circuit.execute draws drawn room).2 = .ok ⟨w.amplitudes, w.bits⟩

/-- The result fits into the registers, and no more was executed than is queued. -/
structure Sized (w : Workspace) : Prop where
  executed : w.executed ≤ w.queue.length
  amplitudes : ∃ k, k ≤ w.quantum.width ∧ w.amplitudes.size = Nat.pow 2 k
  bits : w.bits.length ≤ w.classical.width

structure Faithful (draws : Draws Float) (w : Workspace) : Prop extends Sized w where
  current : w.dirty = false → Current draws w

variable {draws : Draws Float}

theorem empty_faithful : Faithful draws .empty where
  executed := Nat.le_refl 0
  amplitudes := ⟨0, Nat.le_refl 0, rfl⟩
  bits := Nat.le_refl 0
  current _ := ⟨rfl, 0, .usual, rfl⟩

theorem circuit_commit_of_clean {w : Workspace} {d : Statement.Draft}
    (h : Relation.ReflTransGen Statement.Draft.Change w.draft d)
    (hclean : (w.commit d).dirty = false) :
    w.dirty = false ∧ (w.commit d).queue = w.queue ∧ (w.commit d).circuit = w.circuit := by
  simp only [commit, Bool.or_eq_false_iff, decide_eq_false_iff_not, not_not] at hclean
  obtain ⟨⟨hdirty, hdeclared⟩, hqueue⟩ := hclean
  obtain ⟨_, hquantum, hclassical⟩ := (Statement.Draft.grows_of_changes h).kept hdeclared
  refine ⟨hdirty, by simp [commit, hqueue], ?_⟩
  simp [circuit, commit, hqueue, hquantum, hclassical, draft]

theorem accept_faithful {w w' : Workspace} {text : List Char} {room : Capacity}
    (h : (w.accept text room).result = .ok w') (hw : Faithful draws w) : Faithful draws w' := by
  obtain ⟨d, hchanges, rfl⟩ := accept_eq_ok h
  have hgrows := Statement.Draft.grows_of_changes hchanges
  obtain ⟨k, hk, hsize⟩ := hw.amplitudes
  refine ⟨⟨?_, ⟨k, Nat.le_trans hk (RegisterTable.width_le_of_prefix hgrows.quantum), hsize⟩,
    Nat.le_trans hw.bits (RegisterTable.width_le_of_prefix hgrows.classical)⟩, ?_⟩
  · have := hw.executed
    simp only [commit, List.length_append]
    omega
  · intro hclean
    obtain ⟨hdirty, hqueue, hcircuit⟩ := circuit_commit_of_clean hchanges hclean
    obtain ⟨hexecuted, drawn, room, houtcome⟩ := hw.current hdirty
    exact ⟨by rw [hqueue]; exact hexecuted, drawn, room, by rw [hcircuit]; exact houtcome⟩

theorem execute_faithful {w w' : Workspace} {drawn : Nat} {room : Capacity}
    (h : (w.execute draws drawn room).2 = .ok w') : Faithful draws w' := by
  obtain ⟨outcome, houtcome, rfl⟩ := execute_eq_ok h
  obtain ⟨hsize, hlength⟩ := Circuit.execute_shape houtcome
  exact ⟨⟨Nat.le_refl _, ⟨_, Nat.le_refl _, hsize⟩, Nat.le_of_eq hlength⟩,
    fun _ => ⟨rfl, drawn, room, houtcome⟩⟩

theorem Reachable.faithful {w : Workspace} (h : w.Reachable draws) : Faithful draws w := by
  induction h with
  | empty => exact empty_faithful
  | accept room text _ haccept ih => exact accept_faithful haccept ih
  | execute room drawn _ hexecute _ => exact execute_faithful hexecute

end Workspace

namespace Console

/-- A view that needs an execution is shown of clean workspaces only. -/
theorem display_clean {s : Setting} {view : View} {c : Console} (hview : view.needsExecution = true)
    (h : (c.display s view).failure = none) :
    c.workspace.dirty = false ∧
      ∃ text, view.render c.workspace s.room = .ok text ∧
        c.display s view = (c.say text).done := by
  unfold display at h ⊢
  cases hdirty : c.workspace.dirty with
  | true => simp [hview, hdirty, fail] at h
  | false =>
    simp only [hview, hdirty, Bool.and_false, Bool.false_eq_true, if_false] at h ⊢
    cases hrender : view.render c.workspace s.room with
    | error o => simp [hrender, fail] at h
    | ok text => exact ⟨trivial, text, rfl, rfl⟩

/-- Wherever lines take a console, and wherever single actions take it from there, as in the middle
of a line: the workspace at hand and every tagged one has a result that fits, which is current
where the workspace is not dirty; and a view that needs an execution shows an outcome of the
circuit as it stands. -/
theorem results_current {draws : Draws Float} {p : Prompt} {c : Console}
    (hp : p.Reachable draws) (hc : Steps draws p.console c) :
    (∀ w ∈ c.workspaces, w.Sized ∧ (w.dirty = false → w.Current draws)) ∧
    (∀ (s : Setting) (view : View), view.needsExecution = true →
      (c.display s view).failure = none →
      ∃ drawn room outcome text, (c.workspace.circuit.execute draws drawn room).2 = .ok outcome ∧
        view.render { c.workspace with amplitudes := outcome.amplitudes, bits := outcome.bits }
          s.room = .ok text ∧
        (c.display s view).console = c.say text) := by
  have hreach : c.Reachable draws := hp.console.trans hc
  have hfaithful (w : Workspace) (hw : w ∈ c.workspaces) : w.Faithful draws :=
    (hreach.workspaces w hw).faithful
  constructor
  · intro w hw
    exact ⟨(hfaithful w hw).toSized, (hfaithful w hw).current⟩
  · intro s view hview hshown
    obtain ⟨hclean, text, hrender, hdisplay⟩ := display_clean hview hshown
    obtain ⟨_, drawn, room, houtcome⟩ := (hfaithful _ c.workspace_mem).current hclean
    exact ⟨drawn, room, _, text, houtcome, hrender, by rw [hdisplay]; rfl⟩

/-- A flipped qubit, executed: the result is shown, and it is that of the circuit. -/
theorem flipped_qubit_current :
    let s : Setting := ⟨fun _ => .error .missing, fun _ => 0⟩
    let p := ((Prompt.start.feed s "qreg q[1]; x q;".toList).1.feed s ":go".toList).1
    p.console.workspace.dirty = false ∧ p.console.workspace.queue.length = 1 ∧
      p.console.workspace.Current s.draws := by
  intro s p
  have hp : p.Reachable s.draws := .feed s rfl _ (.feed s rfl _ .start)
  have hclean : p.console.workspace.dirty = false := by decide +kernel
  refine ⟨hclean, by decide +kernel, ?_⟩
  exact ((results_current hp .refl).1 _ (workspace_mem _)).2 hclean

end Console

end CircuitConsole
