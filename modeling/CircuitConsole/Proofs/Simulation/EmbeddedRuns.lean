import CircuitConsole.Proofs.Simulation.Embedding

/-!
Runs on two machines, the second of which has the qubits of the first at chosen places. Operations
that fit into the first machine find the same outcomes on both, with the same random numbers, and
write the same classical bits; where one machine refuses an operation, so does the other. A circuit
on some qubits of a wider machine therefore leaves the amplitudes that it leaves on its own.
-/

namespace CircuitConsole

open Simulation

inductive Alike {ε α β : Type} (related : α → β → Prop) : Except ε α → Except ε β → Prop
  | ok {a : α} {b : β} (h : related a b) : Alike related (.ok a) (.ok b)
  | error (e : ε) : Alike related (.error e) (.error e)

namespace Alike

variable {ε α β : Type} {related : α → β → Prop} {x : Except ε α} {y : Except ε β}

theorem eq_error_iff (h : Alike related x y) {e : ε} : y = .error e ↔ x = .error e := by
  cases h with
  | ok _ => simp
  | error e' => simp

theorem exists_of_eq_ok (h : Alike related x y) {a : α} (hx : x = .ok a) :
    ∃ b, y = .ok b ∧ related a b := by
  cases h with
  | ok hab =>
    obtain rfl := Except.ok.inj hx
    exact ⟨_, rfl, hab⟩
  | error e => contradiction

end Alike

namespace Simulation.Machine

/-- Machines in the same state, the second with the qubits of the first at the given places, and
with zero in all other qubits and in the classical bits that are added. -/
structure Embedded {R : Type} [Scalar R] (p : Nat → Nat) (added : Nat) (m m' : Machine R) :
    Prop where
  places : Places p m.width m'.width
  vector : Simulation.Embedded p m.width m'.width m.vector m'.vector
  bits : m'.bits = m.bits ++ List.replicate added false
  drawn : m'.drawn = m.drawn

theorem start_embedded {R : Type} [Scalar R] {p : Nat → Nat} {n n' : Nat} (hp : Places p n n')
    (bits added drawn : Nat) :
    Embedded p added (start n bits drawn : Machine R) (start n' (bits + added) drawn) where
  places := hp
  vector := .zeroVector hp
  bits := List.replicate_add bits added false
  drawn := rfl

section

variable {R : Type} [Scalar R] {p : Nat → Nat} {added : Nat} {m m' : Machine R}

/-- Controls have their values where the digits at their places have them. -/
theorem controlsHold_gateControls_map {n : Nat} (g : Gate) {qubits : List Nat}
    (hrange : ∀ q ∈ qubits, q < n) (j : Nat) :
    controlsHold (gateControls g (qubits.map p)) j =
      controlsHold (gateControls g qubits) (restrict p n j) := by
  have hcontrols : ∀ q ∈ qubits.take g.controlCount, q < n :=
    fun q hq => hrange q (List.mem_of_mem_take hq)
  rw [gateControls, gateControls, ← List.map_take, Bool.eq_iff_iff]
  simp only [controlsHold, List.all_map, List.all_eq_true, Function.comp_apply]
  constructor
  · intro h q hq
    rw [testBit_restrict (hcontrols q hq)]
    exact h q hq
  · intro h q hq
    rw [← testBit_restrict (hcontrols q hq)]
    exact h q hq

theorem applyGate_error {g : Gate} {parameters : List R} {fault : Fault}
    (h : g.operator parameters = .error fault) (m : Machine R) (qubits : List Int) :
    m.applyGate g parameters qubits = .error fault := by
  rw [applyGate, h]
  rfl

theorem writeBit_embedded (h : Embedded p added m m') {b : Nat} (hb : b < m.bits.length)
    (value : Bool) :
    Embedded p added (m.writeBit (b : Int) value) (m'.writeBit (b : Int) value) := by
  rw [writeBit_natCast, writeBit_natCast]
  refine ⟨h.places, h.vector, ?_, h.drawn⟩
  change m'.bits.set b value = m.bits.set b value ++ _
  rw [h.bits, List.set_append_left b value hb]

/-- A condition on bits of the first machine holds on both or on neither. -/
theorem holds_embedded (h : Embedded p added m m') {c : Condition}
    (hc : c.offset + c.size ≤ m.bits.length) : c.holds m'.bits = c.holds m.bits := by
  refine Condition.holds_congr fun b hb => ?_
  have hlt : b < m.bits.length := Nat.lt_of_lt_of_le hb.2 hc
  rw [h.bits, List.getElem?_append_left hlt]

variable [ExactNumbers R]

theorem outcome_embedded (h : Embedded p added m m') (draws : Draws R) {q : Nat}
    (hq : q < m.width) : m'.outcome draws (p q) = m.outcome draws q := by
  rw [outcome, outcome, h.drawn, h.vector.oneProbability_eq h.places hq]

theorem collapse_embedded (h : Embedded p added m m') {q : Nat} (hq : q < m.width)
    (value : Bool) : Embedded p added (m.collapse q value) (m'.collapse (p q) value) where
  places := h.places
  vector := (h.vector.project hq value).normalise h.places
  bits := h.bits
  drawn := congrArg (· + 1) h.drawn

theorem applyGate_embedded (h : Embedded p added m m') {g : Gate} (parameters : List R)
    {qubits : List Nat} (hcount : qubits.length = g.qubitCount) (hdistinct : qubits.Nodup)
    (hrange : ∀ q ∈ qubits, q < m.width) :
    Alike (Embedded p added) (m.applyGate g parameters (qubits.map Int.ofNat))
      (m'.applyGate g parameters ((qubits.map p).map Int.ofNat)) := by
  cases hU : g.operator parameters with
  | error fault =>
    rw [applyGate_error hU, applyGate_error hU]
    exact .error fault
  | ok U =>
    have hdistinct' : (qubits.map p).Nodup :=
      hdistinct.map_on fun q hq q' hq' => h.places.injective q (hrange q hq) q' (hrange q' hq')
    have hrange' : ∀ b ∈ qubits.map p, b < m'.width := by
      intro b hb
      obtain ⟨q, hq, rfl⟩ := List.mem_map.mp hb
      exact h.places.lt q (hrange q hq)
    rw [applyGate_eq h.vector.size hU hcount hdistinct hrange,
      applyGate_eq h.vector.size' hU (by rwa [List.length_map]) hdistinct' hrange', ← List.map_drop]
    have htargets : ∀ t ∈ qubits.drop g.controlCount, t < m.width :=
      fun t ht => hrange t (List.mem_of_mem_drop ht)
    have hvector := h.vector.applyWhere h.places htargets (controlsHold_gateControls_map g hrange) U
    exact .ok ⟨h.places, hvector.normalise h.places, h.bits, h.drawn⟩

theorem reset_embedded (h : Embedded p added m m') (draws : Draws R) {q : Nat}
    (hq : q < m.width) :
    Alike (Embedded p added) (m.reset draws q) (m'.reset draws (p q : Nat)) := by
  rw [reset_eq draws h.vector.size hq, reset_eq draws h.vector.size' (h.places.lt q hq),
    outcome_embedded h draws hq]
  cases m.outcome draws q with
  | false => exact .ok (collapse_embedded h hq false)
  | true =>
    have hcollapse := collapse_embedded h hq true
    have hq' : ∀ t ∈ [q], t < (m.collapse q true).width := by simpa [collapse] using hq
    have hflip := hcollapse.vector.applyTo hcollapse.places hq' Gate.flip
    exact .ok ⟨h.places, hflip.normalise h.places, h.bits, hcollapse.drawn⟩

/-- An instruction that fits does the same on both machines. -/
theorem perform_embedded (h : Embedded p added m m') (draws : Draws R) {i : Instruction R}
    (hfits : i.FitsIn m.width m.bits.length) :
    Alike (Embedded p added) (m.perform draws i) (m'.perform draws (i.mapQubits p)) := by
  cases hfits with
  | gate g parameters qubits hparameters hqubits hdistinct hrange =>
    exact applyGate_embedded h parameters hqubits hdistinct hrange
  | measure q b hq hb =>
    have hwritten (m : Machine R) {q : Nat} (hq : q < m.width) :
        m.perform draws (.measure q b) =
          .ok ((m.collapse q (m.outcome draws q)).writeBit b (m.outcome draws q)) :=
      map_eq_ok.mpr ⟨_, measure_eq draws hq _, rfl⟩
    rw [Instruction.mapQubits, hwritten m hq, hwritten m' (h.places.lt q hq),
      outcome_embedded h draws hq]
    exact .ok (writeBit_embedded (collapse_embedded h hq _) hb _)
  | reset q hq => exact reset_embedded h draws hq

structure Fits (width bits : Nat) (op : Operation R) : Prop where
  instruction : op.instruction.FitsIn width bits
  condition : ∀ c ∈ op.condition, c.offset + c.size ≤ bits

theorem step_embedded (h : Embedded p added m m') (draws : Draws R) {op : Operation R}
    (hop : Fits m.width m.bits.length op) :
    Alike (Embedded p added) (m.step draws op) (m'.step draws (op.mapQubits p)) := by
  have hsame : (op.mapQubits p).condition = op.condition := rfl
  unfold step
  rw [hsame]
  cases hcondition : op.condition with
  | none => exact perform_embedded h draws hop.instruction
  | some c =>
    dsimp only
    rw [holds_embedded h (hop.condition c hcondition)]
    split
    · exact perform_embedded h draws hop.instruction
    · exact .ok h

/-- Operations that fit are carried out on both machines up to the same one, with the same fault. -/
theorem run_embedded (h : Embedded p added m m') (draws : Draws R) {ops : List (Operation R)}
    (hops : ∀ op ∈ ops, Fits m.width m.bits.length op) :
    (m'.run draws (ops.map (·.mapQubits p))).2 = (m.run draws ops).2 ∧
      Embedded p added (m.run draws ops).1 (m'.run draws (ops.map (·.mapQubits p))).1 := by
  induction ops generalizing m m' with
  | nil => exact ⟨rfl, h⟩
  | cons op ops ih =>
    have hstep := step_embedded h draws (hops op (List.mem_cons_self ..))
    rw [List.map_cons, run, run]
    cases hm : m.step draws op with
    | error fault =>
      rw [hm] at hstep
      cases hm' : m'.step draws (op.mapQubits p) with
      | ok m₁' => rw [hm'] at hstep; cases hstep
      | error fault' =>
        rw [hm'] at hstep
        cases hstep
        exact ⟨rfl, h⟩
    | ok m₁ =>
      rw [hm] at hstep
      have hshape := step_sameShape hm
      cases hm' : m'.step draws (op.mapQubits p) with
      | error fault' => rw [hm'] at hstep; cases hstep
      | ok m₁' =>
        rw [hm'] at hstep
        cases hstep with
        | ok h₁ =>
          refine ih h₁ fun op hop => ?_
          rw [hshape.width, hshape.length]
          exact hops op (List.mem_cons_of_mem _ hop)

end

end Simulation.Machine

end CircuitConsole
