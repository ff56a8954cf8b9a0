import CircuitConsole.Proofs.Simulation.GateOperator
import CircuitConsole.Proofs.Simulation.Shape

/-!
Gates that are accepted. Before the state is normalised, a gate on distinct qubits of the state is
its matrix applied to the targets wherever all controls have their values. Fixing the controls takes
axes out of the state and shifts the others; the targets found there are nevertheless the ones asked
for. What a measurement and a reset make of a machine is told in the same way.
-/

namespace CircuitConsole

open Simulation

def Simulation.Machine.gateControls (g : Gate) (qubits : List Nat) : List (Nat × Bool) :=
  (qubits.take g.controlCount).map fun q => (q, true)

namespace Gate

open Machine

variable {K : Type} [Zero K] [Add K] [Mul K]

/-- Applies a matrix to the targets of a gate where its controls are one, and does not normalise;
the controls are the first of the qubits. -/
def transform (g : Gate) (width : Nat) (qubits : List Int) (U : Operator K) (v : Array K) :
    Except Simulation.Fault (Array K) :=
  if g.controlCount = 0 then applyUnitary width qubits U v
  else applyControlledUnitary width (qubits.take g.controlCount) (qubits.drop g.controlCount) U
    none v

theorem length_drop_controls {g : Gate} {qubits : List Nat}
    (hcount : qubits.length = g.qubitCount) :
    (qubits.drop g.controlCount).length = g.targetCount := by
  rw [List.length_drop, hcount, qubitCount]
  omega

theorem targetCount_pos (g : Gate) : 0 < g.targetCount := by
  cases g <;> decide

/-- On the right number of distinct qubits, the targets of a gate are transformed where its controls
are one. -/
theorem transform_eq {g : Gate} {width : Nat} {qubits : List Nat} {U : Operator K} {v : Array K}
    (hcount : qubits.length = g.qubitCount) (hdistinct : qubits.Nodup)
    (hrange : ∀ q ∈ qubits, q < width) (hsquare : U.isSquare (Nat.pow 2 g.targetCount) = true)
    (hsize : v.size = Nat.pow 2 width) :
    g.transform width (qubits.map Int.ofNat) U v =
      .ok (applyWhere (controlsHold (gateControls g qubits)) U (qubits.drop g.controlCount) v) := by
  have htargets := length_drop_controls hcount
  rw [← htargets] at hsquare
  unfold transform
  split
  · rename_i hnone
    have hne : qubits ≠ [] := by
      rintro rfl
      have hpos := targetCount_pos g
      simp only [List.drop_nil, List.length_nil] at htargets
      omega
    simp only [hnone, List.drop_zero, gateControls, List.take_zero, List.map_nil] at hsquare ⊢
    exact applyUnitary_eq hne hdistinct hrange hsquare hsize
  · have hfirst : (gateControls g qubits).map (·.1) = qubits.take g.controlCount := by
      rw [gateControls, List.map_map]
      exact List.map_id _
    have hsplit : (gateControls g qubits).map (·.1) ++ qubits.drop g.controlCount = qubits := by
      rw [hfirst, List.take_append_drop]
    have hones : (none : Option (List Int)).getD ((gateControls g qubits).map fun _ => 1) =
        (gateControls g qubits).map fun c => (c.2.toNat : Int) := by
      rw [gateControls, List.map_map, List.map_map]
      rfl
    rw [← List.map_take, ← List.map_drop, ← hfirst]
    exact applyControlledUnitary_eq hones (by rwa [hsplit]) (by rwa [hsplit]) hsquare hsize

end Gate

namespace Simulation.Machine

variable {R : Type} [Scalar R]

/-- A gate on any qubits transforms the vector by its matrix and then normalises. -/
theorem applyGate_eq_transform (m : Machine R) (g : Gate) (parameters : List R)
    {qubits : List Int} (hne : qubits ≠ []) :
    m.applyGate g parameters qubits = do
      let U ← g.operator parameters
      let v ← g.transform m.width qubits U m.vector
      return { m with vector := normalise v } := by
  unfold applyGate Gate.transform
  refine bind_congr fun U => ?_
  split
  · unfold apply
    simp only [if_neg hne]
  · rfl

/-- A gate with a matrix, on the right number of distinct qubits, is applied to its targets where
its controls are one. -/
theorem applyGate_eq {m : Machine R} {g : Gate} {parameters : List R}
    {U : Operator (Amplitude R)} {qubits : List Nat} (hwhole : m.Whole)
    (hU : g.operator parameters = .ok U)
    (hcount : qubits.length = g.qubitCount) (hdistinct : qubits.Nodup)
    (hrange : ∀ q ∈ qubits, q < m.width) :
    m.applyGate g parameters (qubits.map Int.ofNat) =
      .ok { m with
        vector := normalise (applyWhere (controlsHold (gateControls g qubits)) U
          (qubits.drop g.controlCount) m.vector) } := by
  have hne : qubits.map Int.ofNat ≠ [] := by
    rintro hnil
    have hpos := Gate.targetCount_pos g
    rw [List.map_eq_nil_iff.mp hnil, List.length_nil, Gate.qubitCount] at hcount
    omega
  rw [applyGate_eq_transform m g parameters hne, hU]
  change (g.transform m.width (qubits.map Int.ofNat) U m.vector >>= fun v => _) = _
  rw [Gate.transform_eq hcount hdistinct hrange (Gate.operator_isSquare hU) hwhole]
  rfl

def outcome (draws : Draws R) (m : Machine R) (q : Nat) : Bool :=
  Scalar.less (draws m.drawn) (oneProbability m.vector q)

def collapse (m : Machine R) (q : Nat) (value : Bool) : Machine R :=
  { m with vector := normalise (project m.vector q value), drawn := m.drawn + 1 }

theorem measure_eq (draws : Draws R) {m : Machine R} {q : Nat} (hq : q < m.width)
    (bit : Option Int) :
    m.measure draws q bit = .ok (m.outcome draws q,
      match bit with
      | some bit => (m.collapse q (m.outcome draws q)).writeBit bit (m.outcome draws q)
      | none => m.collapse q (m.outcome draws q)) := by
  have hcheck : checkQubits m.width [(q : Int)] = .ok [q] :=
    @checkQubits_eq m.width [q] (by simpa using hq)
  unfold measure
  rw [hcheck]
  rfl

theorem collapse_whole {m : Machine R} (hwhole : m.Whole) (q : Nat) (value : Bool) :
    (m.collapse q value).Whole := by
  rw [Whole, collapse, size_normalise, size_project]
  exact hwhole

theorem reset_eq (draws : Draws R) {m : Machine R} (hwhole : m.Whole) {q : Nat}
    (hq : q < m.width) :
    m.reset draws q = .ok
      (if m.outcome draws q then
        { m.collapse q true with
          vector := normalise (applyTo Gate.flip [q] (m.collapse q true).vector) }
      else m.collapse q false) := by
  unfold reset
  rw [measure_eq draws hq]
  change (if m.outcome draws q then _ else _) = _
  cases m.outcome draws q with
  | false => rfl
  | true =>
    exact @applyGate_eq R _ (m.collapse q true) .x [] Gate.flip [q] (collapse_whole hwhole q true)
      rfl rfl
      (List.nodup_singleton q) (by simpa [collapse] using hq)

end Simulation.Machine

end CircuitConsole
