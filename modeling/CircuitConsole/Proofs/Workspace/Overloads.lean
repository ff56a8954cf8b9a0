import CircuitConsole.Proofs.Statement.Overloads
import CircuitConsole.Proofs.Workspace.Commitment
import CircuitConsole.Workspace.View

/-!
What in a workspace can be too much for the machine. Accepting a text fails so only for a draft that
is too much, executing only for registers with too many bits in all, and a view only for bits that
cannot be listed and for numbers that are too long to be written.
-/

namespace CircuitConsole

open Simulation Text

theorem writeNat_overload {n : Nat} {o : Overload} (h : writeNat n = .error o) :
    o = .digitsWritten ∧ Nat.pow 10 digitLimit ≤ n := by
  unfold writeNat at h
  split at h
  · cases h
  · rename_i hlong
    cases h
    exact ⟨rfl, Nat.le_of_not_lt hlong⟩

def Circuit.Exceeds {R : Type} (c : Circuit R) : Overload → Prop
  | .digitsWritten => Nat.pow 10 digitLimit ≤ c.qubits
  | .count => countLimit < c.bits
  | _ => False

theorem Circuit.execute_overload {R : Type} [Scalar R] {draws : Draws R} {drawn : Nat}
    {c : Circuit R} {room : Capacity} {o : Overload}
    (h : (c.execute draws drawn room).2 = .error (.overload o)) :
    c.Exceeds o := by
  unfold execute at h
  split at h
  · unfold ExecutionFault.ofWidth at h
    split at h
    · cases h
    · rename_i hwidth
      obtain ⟨rfl, hlong⟩ := writeNat_overload hwidth
      cases h
      exact hlong
  · split at h
    · rename_i hcount
      cases h
      exact hcount
    · split at h
      · cases h
      · split at h
        · cases h
        · cases h

namespace Workspace

def Exceeds (w : Workspace) (room : Capacity) : Overload → Prop
  | .count => countLimit < w.classical.width
  | .memory => room.row < w.classical.width
  | .digitsWritten => Nat.pow 10 digitLimit ≤ bitsToNat w.allBits ∨
    ∃ r ∈ w.quantum ++ w.classical, Nat.pow 10 digitLimit ≤ r.offset + r.size
  | _ => False

variable {w : Workspace} {o : Overload} {room : Capacity}

/-- A text that is overloaded has led to a draft in which something is too much. -/
theorem accept_overload {text : List Char}
    (h : (w.accept text room).result = .error (.overload o)) :
    ∃ statements d, Statement.split text = .ok statements ∧
      w.draft.statements statements room = (d, some (.overload o)) ∧
      d.Exceeds (room.inside 2) o := by
  unfold accept at h
  split at h
  · rename_i fault hsplit
    obtain rfl := Except.error.inj h
    have hnone : Statement.FailsOnly (Statement.Fault.Overloads fun _ => False)
        (Statement.split text) := Statement.split_overloads text
    exact (hnone _ hsplit).elim
  · rename_i statements hsplit
    rcases hstatements : w.draft.statements statements room with ⟨d, fault⟩
    cases fault with
    | none => simp [hstatements] at h
    | some fault =>
      simp only [hstatements] at h
      obtain rfl := Except.error.inj h
      exact ⟨statements, d, hsplit, hstatements, Statement.statements_overload hstatements⟩

theorem execute_overload {draws : Draws Float} {drawn : Nat}
    (h : (w.execute draws drawn room).2 = .error (.overload o)) : w.circuit.Exceeds o := by
  refine @Circuit.execute_overload Float _ draws drawn _ room _ ?_
  unfold execute at h
  cases hresult : (w.circuit.execute draws drawn room).2 with
  | ok outcome => simp [hresult, Except.map] at h
  | error fault => simpa [hresult, Except.map] using h

theorem classicalView_overload (h : w.classicalView room = .error o) : w.Exceeds room o := by
  unfold classicalView at h
  split at h
  · rename_i hcount
    cases h
    exact hcount
  · split at h
    · rename_i hmemory
      cases h
      exact hmemory
    · cases htotal : writeNat (bitsToNat w.allBits) with
      | ok total =>
        rw [htotal] at h
        cases h
      | error fault =>
        rw [htotal] at h
        cases h
        obtain ⟨rfl, hlong⟩ := writeNat_overload htotal
        exact .inl hlong

theorem registerLine_overload {r : Register} (h : registerLine r = .error o) :
    o = .digitsWritten ∧ Nat.pow 10 digitLimit ≤ r.offset + r.size := by
  have hwritten {n : Nat} (hn : writeNat n = .error o) (hle : n ≤ r.offset + r.size) :
      o = .digitsWritten ∧ Nat.pow 10 digitLimit ≤ r.offset + r.size :=
    (writeNat_overload hn).imp_right fun hlong => Nat.le_trans hlong hle
  rcases bind_eq_error.mp h with hsize | ⟨_, _, h⟩
  · exact hwritten hsize (Nat.le_add_left _ _)
  · rcases bind_eq_error.mp h with hfirst | ⟨_, _, h⟩
    · exact hwritten hfirst (Nat.le_add_right _ _)
    · rcases bind_eq_error.mp h with hlast | ⟨_, _, h⟩
      · exact hwritten hlast (Nat.sub_le _ _)
      · cases h

theorem tableLines_overload {title : String} {table : RegisterTable}
    (h : tableLines title table = .error o) :
    o = .digitsWritten ∧ ∃ r ∈ table, Nat.pow 10 digitLimit ≤ r.offset + r.size := by
  rcases bind_eq_error.mp h with hlines | ⟨_, _, h⟩
  · obtain ⟨r, hr, hline⟩ := exists_of_mapM_eq_error hlines
    exact (registerLine_overload hline).imp_right fun hlong => ⟨r, hr, hlong⟩
  · cases h

theorem namesView_overload (h : w.namesView = .error o) : w.Exceeds room o := by
  rcases bind_eq_error.mp h with hquantum | ⟨_, _, h⟩
  · obtain ⟨rfl, r, hr, hlong⟩ := tableLines_overload hquantum
    exact .inr ⟨r, List.mem_append_left _ hr, hlong⟩
  · rcases bind_eq_error.mp h with hclassical | ⟨_, _, h⟩
    · obtain ⟨rfl, r, hr, hlong⟩ := tableLines_overload hclassical
      exact .inr ⟨r, List.mem_append_right _ hr, hlong⟩
    · cases h

end Workspace

end CircuitConsole
