import CircuitConsole.Proofs.Simulation.Application
import CircuitConsole.Proofs.Simulation.Conditions
import CircuitConsole.Proofs.Simulation.ExactNumbers
import CircuitConsole.Proofs.Simulation.Indices
import CircuitConsole.Proofs.Statement.Expansion

/-!
Circuits carried out on chosen qubits of another machine. Where the qubits of a machine are given
places of their own in a machine that may have more of them, the second machine is in the same
state, with zero in all qubits that have no part in it: its amplitude at an index is that of the
index with the digits of the chosen places. With exact numbers both states have the same norm, so
that a gate, a measurement and a reset keep the two machines alike, and so does a whole run.
-/

namespace CircuitConsole.Simulation

/-- A map that gives the qubits of a machine places of their own in another one. -/
structure Places (p : Nat → Nat) (n n' : Nat) : Prop where
  lt : ∀ q, q < n → p q < n'
  injective : ∀ q, q < n → ∀ q', q' < n → p q = p q' → q = q'

def placeList (p : Nat → Nat) (n : Nat) : List Nat := (List.range n).map p

def restrict (p : Nat → Nat) (n j : Nat) : Nat := pickBits (placeList p n) j

def Within (p : Nat → Nat) (n j : Nat) : Prop := ∀ b, j.testBit b = true → b ∈ placeList p n

section

variable {p : Nat → Nat} {n n' : Nat}

theorem mem_placeList {b : Nat} : b ∈ placeList p n ↔ ∃ q, q < n ∧ p q = b := by
  simp [placeList]

theorem length_placeList : (placeList p n).length = n := by simp [placeList]

theorem nodup_placeList (hp : Places p n n') : (placeList p n).Nodup := by
  refine List.Nodup.map_on (fun q hq q' hq' heq => ?_) List.nodup_range
  exact hp.injective q (List.mem_range.mp hq) q' (List.mem_range.mp hq') heq

theorem placeList_lt (hp : Places p n n') : ∀ b ∈ placeList p n, b < n' := by
  intro b hb
  obtain ⟨q, hq, rfl⟩ := mem_placeList.mp hb
  exact hp.lt q hq

theorem testBit_restrict {q : Nat} (hq : q < n) (j : Nat) :
    (restrict p n j).testBit q = j.testBit (p q) := by
  have hlength : q < (placeList p n).length := by rwa [length_placeList]
  rw [restrict, testBit_pickBits hlength]
  simp [placeList]

theorem restrict_lt (p : Nat → Nat) (n j : Nat) : restrict p n j < Nat.pow 2 n := by
  have h := pickBits_lt (placeList p n) j
  rwa [length_placeList] at h

theorem Within.lt (hp : Places p n n') {j : Nat} (hj : Within p n j) : j < Nat.pow 2 n' := by
  refine Nat.lt_pow_two_of_testBit _ fun b hb => ?_
  by_contra hbit
  have := placeList_lt hp b (hj b (by simpa using hbit))
  omega

/-- An index within the places is known by the digits there. -/
theorem Within.ext {j k : Nat} (hj : Within p n j) (hk : Within p n k)
    (h : restrict p n j = restrict p n k) : j = k := by
  refine eq_of_pickBits_eq h fun b hb => ?_
  rw [Bool.eq_false_iff.mpr fun hbit => hb (hj b hbit),
    Bool.eq_false_iff.mpr fun hbit => hb (hk b hbit)]

theorem exists_within (hp : Places p n n') {i : Nat} (hi : i < Nat.pow 2 n) :
    ∃ j, Within p n j ∧ restrict p n j = i := by
  refine ⟨placeBits (placeList p n) i 0, fun b hb => ?_, ?_⟩
  · by_contra hnot
    rw [testBit_placeBits_of_notMem hnot, Nat.zero_testBit] at hb
    contradiction
  · exact pickBits_placeBits (nodup_placeList hp) (by rwa [length_placeList]) 0

/-- Indices are compared digit by digit at the places. -/
theorem restrict_eq_iff {i j : Nat} (hi : i < Nat.pow 2 n) :
    restrict p n j = i ↔ ∀ q, q < n → i.testBit q = j.testBit (p q) := by
  constructor
  · rintro rfl q hq
    exact testBit_restrict hq j
  · intro h
    refine Nat.eq_of_testBit_eq fun q => ?_
    by_cases hq : q < n
    · rw [testBit_restrict hq, h q hq]
    · rw [Bool.eq_false_iff.mpr (mt (lt_of_testBit (restrict_lt p n j)) hq),
        Bool.eq_false_iff.mpr (mt (lt_of_testBit hi) hq)]

/-- The digits at the places of some qubits are the digits of these qubits. -/
theorem pickBits_map {targets : List Nat} (hrange : ∀ t ∈ targets, t < n) (j : Nat) :
    pickBits (targets.map p) j = pickBits targets (restrict p n j) := by
  induction targets with
  | nil => rfl
  | cons t targets ih =>
    rw [List.map_cons, pickBits, pickBits, testBit_restrict (hrange t (List.mem_cons_self ..)),
      ih fun u hu => hrange u (List.mem_cons_of_mem _ hu)]

theorem writeBit_within {q : Nat} (hq : q < n) (value : Bool) {j : Nat} :
    Within p n (writeBit j (p q) value) ↔ Within p n j := by
  have hplace : p q ∈ placeList p n := mem_placeList.mpr ⟨q, hq, rfl⟩
  constructor
  · intro h b hb
    by_cases hbq : b = p q
    · exact hbq ▸ hplace
    · exact h b (by rwa [testBit_writeBit, if_neg hbq])
  · intro h b hb
    by_cases hbq : b = p q
    · exact hbq ▸ hplace
    · exact h b (by rwa [testBit_writeBit, if_neg hbq] at hb)

theorem restrict_writeBit (hp : Places p n n') {q : Nat} (hq : q < n) (value : Bool) (j : Nat) :
    restrict p n (writeBit j (p q) value) = writeBit (restrict p n j) q value := by
  refine (restrict_eq_iff (writeBit_lt hq (restrict_lt p n j) value)).mpr fun q' hq' => ?_
  rw [testBit_writeBit, testBit_writeBit, testBit_restrict hq']
  by_cases heq : q' = q
  · rw [if_pos heq, if_pos (by rw [heq])]
  · rw [if_neg heq, if_neg fun h => heq (hp.injective q' hq' q hq h)]

theorem placeBits_within {targets : List Nat} (hrange : ∀ t ∈ targets, t < n) (c : Nat) {j : Nat} :
    Within p n (placeBits (targets.map p) c j) ↔ Within p n j := by
  induction targets generalizing c j with
  | nil => rfl
  | cons t targets ih =>
    rw [List.map_cons, placeBits, ih fun u hu => hrange u (List.mem_cons_of_mem _ hu),
      writeBit_within (hrange t (List.mem_cons_self ..))]

theorem restrict_placeBits (hp : Places p n n') {targets : List Nat}
    (hrange : ∀ t ∈ targets, t < n) (c j : Nat) :
    restrict p n (placeBits (targets.map p) c j) = placeBits targets c (restrict p n j) := by
  induction targets generalizing c j with
  | nil => rfl
  | cons t targets ih =>
    rw [List.map_cons, placeBits, placeBits, ih fun u hu => hrange u (List.mem_cons_of_mem _ hu),
      restrict_writeBit hp (hrange t (List.mem_cons_self ..))]

end

/-- Two vectors, the second of which has the entries of the first at the places of its qubits and
zero elsewhere. -/
structure Embedded {R : Type} [Scalar R] (p : Nat → Nat) (n n' : Nat)
    (v v' : Array (Amplitude R)) : Prop where
  size : v.size = Nat.pow 2 n
  size' : v'.size = Nat.pow 2 n'
  inside : ∀ j, Within p n j → amplitudeAt v' j = amplitudeAt v (restrict p n j)
  outside : ∀ j, ¬ Within p n j → amplitudeAt v' j = 0

namespace Embedded

variable {R : Type} [Scalar R] {p : Nat → Nat} {n n' : Nat} {v v' : Array (Amplitude R)}

theorem zeroVector (hp : Places p n n') :
    Embedded p n n' (zeroVector n : Array (Amplitude R)) (zeroVector n') where
  size := size_zeroVector n
  size' := size_zeroVector n'
  inside j hj := by
    rw [amplitudeAt_zeroVector (hj.lt hp), amplitudeAt_zeroVector (restrict_lt p n j)]
    have hzero : restrict p n 0 = 0 :=
      (restrict_eq_iff (Nat.two_pow_pos n)).mpr fun q _ => by simp
    have hiff : j = 0 ↔ restrict p n j = 0 := by
      constructor
      · rintro rfl
        exact hzero
      · intro h
        exact hj.ext (fun b hb => by simp at hb) (h.trans hzero.symm)
    simp only [hiff]
  outside j hj := by
    by_cases hlt : j < Nat.pow 2 n'
    · rw [amplitudeAt_zeroVector hlt, if_neg]
      rintro rfl
      exact hj fun b hb => by simp at hb
    · exact amplitudeAt_of_le (by rw [size_zeroVector]; omega)

/-- A change of all entries that leaves zero alone. -/
theorem map (h : Embedded p n n' v v') {f : Amplitude R → Amplitude R} (hf : f 0 = 0) :
    Embedded p n n' (v.map f) (v'.map f) where
  size := by rw [Array.size_map, h.size]
  size' := by rw [Array.size_map, h.size']
  inside j hj := by rw [amplitudeAt_map hf, amplitudeAt_map hf, h.inside j hj]
  outside j hj := by rw [amplitudeAt_map hf, h.outside j hj, hf]

theorem project (h : Embedded p n n' v v') {q : Nat} (hq : q < n) (value : Bool) :
    Embedded p n n' (project v q value) (project v' (p q) value) where
  size := by rw [size_project, h.size]
  size' := by rw [size_project, h.size']
  inside j hj := by
    rw [amplitudeAt_project, amplitudeAt_project, testBit_restrict hq, h.inside j hj]
  outside j hj := by rw [amplitudeAt_project, h.outside j hj, ite_self]

variable [ExactNumbers R]

theorem normSqSum_eq (hp : Places p n n') (h : Embedded p n n' v v') :
    normSqSum v' = normSqSum v := by
  classical
  let within := (Finset.range (Nat.pow 2 n')).filter fun j => Within p n j
  have hmem {j : Nat} : j ∈ within ↔ Within p n j := by
    simp only [within, Finset.mem_filter, Finset.mem_range]
    exact ⟨And.right, fun hj => ⟨hj.lt hp, hj⟩⟩
  refine normSqSum_eq_of_places (restrict p n) within ?_ ?_ ?_ ?_ ?_ ?_
  · rw [h.size']
    exact Finset.filter_subset _ _
  · intro j _
    rw [h.size]
    exact restrict_lt p n j
  · exact fun j hj k hk heq => (hmem.mp hj).ext (hmem.mp hk) heq
  · intro i hi
    rw [h.size] at hi
    obtain ⟨j, hj, rfl⟩ := exists_within hp hi
    exact ⟨j, hmem.mpr hj, rfl⟩
  · exact fun j hj => h.inside j (hmem.mp hj)
  · exact fun j hj => h.outside j fun hwithin => hj (hmem.mpr hwithin)

/-- Vectors of one norm are scaled and pruned in the same way. -/
theorem normalise (hp : Places p n n') (h : Embedded p n n' v v') :
    Embedded p n n' (normalise v) (normalise v') := by
  unfold Simulation.normalise
  dsimp only
  rw [h.normSqSum_eq hp]
  split
  · exact (h.map (Amplitude.divide_zero _)).map Amplitude.prune_zero
  · exact h.map Amplitude.prune_zero

theorem oneProbability_eq (hp : Places p n n') (h : Embedded p n n' v v') {q : Nat} (hq : q < n) :
    oneProbability v' (p q) = oneProbability v q := by
  have hsum := (h.project hq true).normSqSum_eq hp
  unfold Simulation.project at hsum
  unfold oneProbability
  rw [hsum]

/-- An operator on some qubits does the same as on their places. -/
theorem applyWhere (hp : Places p n n') (h : Embedded p n n' v v') {targets : List Nat}
    (hrange : ∀ t ∈ targets, t < n) {holds holds' : Nat → Bool}
    (hholds : ∀ j, holds' j = holds (restrict p n j)) (U : Operator (Amplitude R)) :
    Embedded p n n' (applyWhere holds U targets v)
      (applyWhere holds' U (targets.map p) v') where
  size := by rw [size_applyWhere, h.size]
  size' := by rw [size_applyWhere, h.size']
  inside j hj := by
    have hlt : j < v'.size := h.size' ▸ hj.lt hp
    have hlt' : restrict p n j < v.size := h.size ▸ restrict_lt p n j
    have hfibre : fibre (targets.map p) v' j = fibre targets v (restrict p n j) := by
      rw [fibre, fibre, List.length_map]
      refine List.map_congr_left fun c _ => ?_
      rw [h.inside _ ((placeBits_within hrange c).mpr hj), restrict_placeBits hp hrange]
    rw [amplitudeAt_applyWhere hlt, amplitudeAt_applyWhere hlt', hholds, hfibre,
      pickBits_map hrange, h.inside j hj]
  outside j hj := by
    by_cases hlt : j < v'.size
    · have hzeros : ∀ a ∈ fibre (targets.map p) v' j, a = 0 := by
        intro a ha
        obtain ⟨c, _, rfl⟩ := List.mem_map.mp ha
        exact h.outside _ fun hwithin => hj ((placeBits_within hrange c).mp hwithin)
      rw [amplitudeAt_applyWhere hlt, dot_zeros _ _ hzeros, h.outside j hj, ite_self]
    · exact amplitudeAt_of_le (by rw [size_applyWhere]; omega)

theorem applyTo (hp : Places p n n') (h : Embedded p n n' v v') {targets : List Nat}
    (hrange : ∀ t ∈ targets, t < n) (U : Operator (Amplitude R)) :
    Embedded p n n' (applyTo U targets v) (applyTo U (targets.map p) v') :=
  h.applyWhere hp hrange (fun _ => rfl) U

end Embedded

end CircuitConsole.Simulation
