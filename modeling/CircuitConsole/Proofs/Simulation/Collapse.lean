import CircuitConsole.Proofs.Simulation.ControlledMatrices
import CircuitConsole.Proofs.Simulation.ExactNumbers
import CircuitConsole.Proofs.Simulation.Application

/-!
Measurements one after the other. Over exact numbers a measurement makes every entry zero where its
qubit has not the value found, and neither the measurements after it nor the scaling and pruning
that they do ever bring back an entry that is zero. Each writes the value that it has found to its
own bit, where it stays unless another measurement is given the same bit. When all qubits have been
measured, at most one entry is left, whose index the recorded values spell.
-/

namespace CircuitConsole.Simulation

structure Finding where
  qubit : Nat
  bit : Nat
  value : Bool
  deriving DecidableEq, Repr

namespace Machine

section

variable {R : Type} [Scalar R]

def measureEach (draws : Draws R) :
    Machine R → List (Nat × Nat) → Except Fault (List Finding × Machine R)
  | m, [] => .ok ([], m)
  | m, (qubit, bit) :: rest => do
    let (value, m) ← m.measure draws qubit (some (bit : Int))
    let (findings, m) ← measureEach draws m rest
    return (⟨qubit, bit, value⟩ :: findings, m)

structure Collapsed (m m' : Machine R) (findings : List Finding) : Prop where
  width : m'.width = m.width
  length : m'.bits.length = m.bits.length
  projected : m'.vector = findings.foldl (fun v f => normalise (project v f.qubit f.value)) m.vector
  vanished : ∀ f ∈ findings, ∀ i, i.testBit f.qubit ≠ f.value → amplitudeAt m'.vector i = 0
  recorded : ∀ f ∈ findings, m'.bits[f.bit]? = some f.value
  zeros : ∀ i, amplitudeAt m.vector i = 0 → amplitudeAt m'.vector i = 0
  others : ∀ b, b ∉ findings.map (·.bit) → m'.bits[b]? = m.bits[b]?

variable {m m₁ m₂ : Machine R}

theorem Collapsed.refl (m : Machine R) : Collapsed m m [] where
  width := rfl
  length := rfl
  projected := rfl
  vanished _ hf := absurd hf List.not_mem_nil
  recorded _ hf := absurd hf List.not_mem_nil
  zeros _ h := h
  others _ _ := rfl

/-- Findings recorded in other bits are added to those before. -/
theorem Collapsed.append {findings findings' : List Finding} (h : Collapsed m m₁ findings)
    (h' : Collapsed m₁ m₂ findings')
    (hbits : (findings.map (·.bit)).Disjoint (findings'.map (·.bit))) :
    Collapsed m m₂ (findings ++ findings') where
  width := h'.width.trans h.width
  length := h'.length.trans h.length
  projected := by rw [List.foldl_append, ← h.projected, h'.projected]
  vanished f hf i hi := by
    rcases List.mem_append.mp hf with hf | hf
    · apply h'.zeros
      exact h.vanished f hf i hi
    · exact h'.vanished f hf i hi
  recorded f hf := by
    rcases List.mem_append.mp hf with hf | hf
    · rw [h'.others f.bit (hbits (List.mem_map.mpr ⟨f, hf, rfl⟩))]
      exact h.recorded f hf
    · exact h'.recorded f hf
  zeros i hi := h'.zeros i (h.zeros i hi)
  others b hb := by
    rw [List.map_append, List.mem_append, not_or] at hb
    rw [h'.others b hb.2, h.others b hb.1]

/-- Only at an index with all values that were found can there be an entry other than zero. -/
theorem Collapsed.eq_placeBits {m' : Machine R} {findings : List Finding}
    (h : Collapsed m m' findings) (hdistinct : (findings.map (·.qubit)).Nodup)
    (hall : ∀ q, q < m.width → q ∈ findings.map (·.qubit)) {i : Nat} (hi : i < Nat.pow 2 m.width)
    (hne : amplitudeAt m'.vector i ≠ 0) :
    i = placeBits (findings.map (·.qubit)) (bitsToNat (findings.map (·.value))) 0 := by
  have hheld : controlsHold (findings.map fun f => (f.qubit, f.value)) i = true := by
    simp only [controlsHold, List.all_map, List.all_eq_true, Function.comp_apply, beq_iff_eq]
    intro f hf
    by_contra hvalue
    exact hne (h.vanished f hf i hvalue)
  rw [controlsHold_iff, List.map_map, List.map_map] at hheld
  have hnone : Spells (findings.map (·.qubit)) (pickBits (findings.map (·.qubit)) i) 0 i :=
    { inside := fun j hj => (testBit_pickBits hj i).symm
      outside := fun q hq => by
        rw [Nat.zero_testBit, Bool.eq_false_iff]
        intro hbit
        apply hq
        exact hall q (lt_of_testBit hi hbit) }
  have hspelled := spells_placeBits hdistinct (pickBits_lt (findings.map (·.qubit)) i) 0
  calc i = placeBits (findings.map (·.qubit)) (pickBits (findings.map (·.qubit)) i) 0 :=
        hnone.eq hspelled
    _ = placeBits (findings.map (·.qubit)) (bitsToNat (findings.map (·.value))) 0 :=
        congrArg (placeBits _ · 0) hheld

variable [ExactNumbers R]

/-- A single measurement. -/
theorem measure_collapsed (draws : Draws R) {q b : Nat} (hq : q < m.width)
    (hb : b < m.bits.length) :
    ∃ value m₁, m.measure draws q (some (b : Int)) = .ok (value, m₁) ∧
      Collapsed m m₁ [⟨q, b, value⟩] := by
  refine ⟨_, _, measure_eq draws hq _, ?_⟩
  generalize m.outcome draws q = value
  dsimp only
  rw [writeBit_natCast]
  exact {
    width := rfl
    length := List.length_set
    projected := rfl
    vanished := by
      intro f hf i hi
      obtain rfl := List.mem_singleton.mp hf
      apply amplitudeAt_normalise
      rw [amplitudeAt_project, if_neg hi]
    recorded := by
      intro f hf
      obtain rfl := List.mem_singleton.mp hf
      exact List.getElem?_set_self hb
    zeros := by
      intro i hi
      apply amplitudeAt_normalise
      rw [amplitudeAt_project, hi, ite_self]
    others := by
      intro b' hb'
      have hne : b ≠ b' := by simpa [eq_comm] using hb'
      exact List.getElem?_set_ne hne }

/-- Measurements of qubits that exist, into different bits that exist, all happen. -/
theorem measureEach_collapsed (draws : Draws R) {measured : List (Nat × Nat)}
    (hbits : (measured.map (·.2)).Nodup)
    (hexist : ∀ p ∈ measured, p.1 < m.width ∧ p.2 < m.bits.length) :
    ∃ findings m', m.measureEach draws measured = .ok (findings, m') ∧
      findings.map (fun f => (f.qubit, f.bit)) = measured ∧ Collapsed m m' findings := by
  induction measured generalizing m with
  | nil => exact ⟨[], m, rfl, rfl, .refl m⟩
  | cons p rest ih =>
    obtain ⟨q, b⟩ := p
    obtain ⟨⟨hq, hb⟩, hexist⟩ := List.forall_mem_cons.mp hexist
    obtain ⟨hfresh, hbits⟩ := List.nodup_cons.mp hbits
    obtain ⟨value, m₁, hmeasure, hfirst⟩ := measure_collapsed draws hq hb
    obtain ⟨findings, m', hrest, hmap, hcollapsed⟩ := ih hbits (m := m₁) (by
      rw [hfirst.width, hfirst.length]
      exact hexist)
    refine ⟨⟨q, b, value⟩ :: findings, m', ?_, ?_, ?_⟩
    · rw [measureEach, hmeasure]
      change (m₁.measureEach draws rest >>= _) = _
      rw [hrest]
      rfl
    · rw [List.map_cons, hmap]
    · apply hfirst.append hcollapsed
      have hsame : findings.map (·.bit) = rest.map (·.2) := by
        rw [← hmap, List.map_map]
        rfl
      rw [hsame]
      exact List.singleton_disjoint.mpr hfresh

/-- However different qubits are measured into different bits that exist, the vector is projected to
one value found after the other. The entries are zero afterwards wherever one of the qubits has not
its value, each value is in its bit, and the other bits are as before. When all qubits have been
measured, only the entry at the index that the recorded values spell can be other than zero. -/
theorem measurements_consistent (draws : Draws R) (hwhole : m.Whole) {measured : List (Nat × Nat)}
    (hqubits : (measured.map (·.1)).Nodup) (hbits : (measured.map (·.2)).Nodup)
    (hexist : ∀ p ∈ measured, p.1 < m.width ∧ p.2 < m.bits.length) :
    ∃ findings m', m.measureEach draws measured = .ok (findings, m') ∧
      findings.map (fun f => (f.qubit, f.bit)) = measured ∧
      m'.vector = findings.foldl (fun v f => normalise (project v f.qubit f.value)) m.vector ∧
      (∀ f ∈ findings, ∀ i, i.testBit f.qubit ≠ f.value → amplitudeAt m'.vector i = 0) ∧
      (∀ f ∈ findings, m'.bits[f.bit]? = some f.value) ∧
      (∀ b, b ∉ measured.map (·.2) → m'.bits[b]? = m.bits[b]?) ∧
      ((∀ q, q < m.width → q ∈ measured.map (·.1)) → ∀ i, amplitudeAt m'.vector i ≠ 0 →
        i = placeBits (measured.map (·.1))
          (bitsToNat (measured.map fun p => m'.bits.getD p.2 false)) 0) := by
  obtain ⟨findings, m', hmeasured, rfl, h⟩ := measureEach_collapsed draws hbits hexist
  simp only [List.map_map] at hqubits ⊢
  refine ⟨findings, m', hmeasured, rfl, h.projected, h.vanished, h.recorded, h.others, ?_⟩
  intro hall i hne
  have hi : i < Nat.pow 2 m.width := by
    rw [← hwhole]
    by_contra hout
    exact hne (h.zeros i (amplitudeAt_of_le (by omega)))
  have hvalues : findings.map (fun f => m'.bits.getD f.bit false) = findings.map (·.value) := by
    apply List.map_congr_left
    intro f hf
    rw [List.getD_eq_getElem?_getD, h.recorded f hf, Option.getD_some]
  rw [h.eq_placeBits hqubits hall hi hne, ← hvalues]
  rfl

end

/-- Both qubits of a state that is not normalised, each into the bit of the other one. -/
theorem crossed_measurements_consistent :
    ∃ findings m', measureEach (fun _ => (1 / 2 : ℝ)) ⟨2, #[1, 1, 1, 1], [false, false, true], 0⟩
        [(0, 1), (1, 0)] = .ok (findings, m') ∧
      findings.map (fun f => (f.qubit, f.bit)) = [(0, 1), (1, 0)] ∧
      m'.vector = findings.foldl (fun v f => normalise (project v f.qubit f.value)) #[1, 1, 1, 1] ∧
      (∀ f ∈ findings, ∀ i, i.testBit f.qubit ≠ f.value → amplitudeAt m'.vector i = 0) ∧
      (∀ f ∈ findings, m'.bits[f.bit]? = some f.value) ∧
      (∀ b, b ∉ [1, 0] → m'.bits[b]? = [false, false, true][b]?) ∧
      ((∀ q, q < 2 → q ∈ [0, 1]) → ∀ i, amplitudeAt m'.vector i ≠ 0 →
        i = placeBits [0, 1] (bitsToNat [m'.bits.getD 1 false, m'.bits.getD 0 false]) 0) :=
  measurements_consistent (fun _ => (1 / 2 : ℝ)) (by rfl) (by decide) (by decide) (by decide)

end Machine

end CircuitConsole.Simulation
