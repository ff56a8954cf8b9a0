import CircuitConsole.Proofs.Simulation.Indices
import CircuitConsole.Proofs.Simulation.Tensors
import CircuitConsole.Proofs.Success
import CircuitConsole.Simulation.Kernel
import Mathlib.Algebra.BigOperators.Fin
import Mathlib.Algebra.Ring.Int.Defs

/-!
The plain kernel, index by index. The axes of the targets, the last target first, are moved to the
front of the state, multiplied by the matrix and moved back. At every index this gives the product
of a row, which the values of the targets spell, with the amplitudes whose indices differ from it in
the targets only.
-/

namespace CircuitConsole.Simulation

/-! ### Qubits and axes -/

theorem axisOf_lt {width q : Nat} (hq : q < width) : axisOf width q < width := by
  rw [axisOf]
  omega

theorem axisOf_axisOf {width q : Nat} (hq : q < width) : axisOf width (axisOf width q) = q := by
  rw [axisOf, axisOf]
  omega

theorem axisOf_inj {width q q' : Nat} (hq : q < width) (hq' : q' < width)
    (h : axisOf width q = axisOf width q') : q = q' := by
  rw [← axisOf_axisOf hq, h, axisOf_axisOf hq']

theorem digitAt_axisOf {width q : Nat} (hq : q < width) (i : Nat) :
    digitAt (digitsOf width i) (axisOf width q) = i.testBit q := by
  rw [digitAt_digitsOf (axisOf_lt hq)]
  exact congrArg i.testBit (axisOf_axisOf hq)

def targetAxes (width : Nat) (targets : List Nat) : List Nat :=
  (targets.map (axisOf width)).reverse

@[simp] theorem length_targetAxes (width : Nat) (targets : List Nat) :
    (targetAxes width targets).length = targets.length := by
  simp [targetAxes]

theorem mem_targetAxes {width a : Nat} {targets : List Nat} :
    a ∈ targetAxes width targets ↔ ∃ t ∈ targets, axisOf width t = a := by
  simp [targetAxes]

theorem axisOf_mem_targetAxes {width q : Nat} {targets : List Nat}
    (hrange : ∀ t ∈ targets, t < width) (hq : q < width) :
    axisOf width q ∈ targetAxes width targets ↔ q ∈ targets := by
  rw [mem_targetAxes]
  constructor
  · rintro ⟨t, ht, heq⟩
    exact axisOf_inj (hrange t ht) hq heq ▸ ht
  · exact fun hq' => ⟨q, hq', rfl⟩

theorem nodup_targetAxes {width : Nat} {targets : List Nat} (hdistinct : targets.Nodup)
    (hrange : ∀ t ∈ targets, t < width) : (targetAxes width targets).Nodup := by
  rw [targetAxes, List.nodup_reverse]
  exact hdistinct.map_on fun t ht t' ht' h => axisOf_inj (hrange t ht) (hrange t' ht') h

theorem getElem_targetAxes {width : Nat} {targets : List Nat} {j : Nat} (hj : j < targets.length)
    (hplace : targets.length - 1 - j < (targetAxes width targets).length) :
    (targetAxes width targets)[targets.length - 1 - j] = axisOf width targets[j] := by
  have hback : targets.length - 1 - (targets.length - 1 - j) = j := by omega
  simp [targetAxes, List.getElem_reverse, hback]

/-- The digits on the axes of the targets spell the row. -/
theorem numberOf_targetAxes {width : Nat} {targets : List Nat}
    (hrange : ∀ t ∈ targets, t < width) (i : Nat) :
    numberOf (digitsAt (targetAxes width targets) (digitsOf width i)) = pickBits targets i := by
  induction targets with
  | nil => rfl
  | cons t targets ih =>
    obtain ⟨ht, hrange⟩ := List.forall_mem_cons.mp hrange
    have hlast : digitsAt (targetAxes width (t :: targets)) (digitsOf width i) =
        digitsAt (targetAxes width targets) (digitsOf width i) ++ [i.testBit t] := by
      rw [targetAxes, List.map_cons, List.reverse_cons, digitsAt, List.map_append,
        List.map_singleton, digitAt_axisOf ht]
      rfl
    rw [hlast, numberOf_append_singleton, ih hrange, pickBits]

/-- Replacing the digits on the axes of distinct targets writes them there. -/
theorem numberOf_replaceDigits {width : Nat} {targets : List Nat} (hdistinct : targets.Nodup)
    (hrange : ∀ t ∈ targets, t < width) {c i : Nat} (hc : c < Nat.pow 2 targets.length)
    (hi : i < Nat.pow 2 width) :
    numberOf (replaceDigits width (targetAxes width targets) (digitsOf targets.length c)
      (digitsOf width i)) = placeBits targets c i := by
  have hlt := numberOf_lt (replaceDigits width (targetAxes width targets)
    (digitsOf targets.length c) (digitsOf width i))
  rw [length_replaceDigits] at hlt
  refine eq_of_testBit_lt hlt (placeBits_lt hrange hi c) fun q hq => ?_
  rw [testBit_numberOf _ (by simpa using hq), length_replaceDigits]
  change digitAt _ (axisOf width q) = _
  rw [digitAt_replaceDigits (axisOf_lt hq)]
  by_cases hmem : q ∈ targets
  · obtain ⟨j, hj, rfl⟩ := List.getElem_of_mem hmem
    have hplace : targets.length - 1 - j < (targetAxes width targets).length := by
      rw [length_targetAxes]
      omega
    have hback : targets.length - 1 - (targets.length - 1 - j) = j := by omega
    rw [if_pos ((axisOf_mem_targetAxes hrange hq).mpr hmem), ← getElem_targetAxes hj hplace,
      digitFor_getElem (nodup_targetAxes hdistinct hrange), digitAt_digitsOf (by omega), hback,
      testBit_placeBits hdistinct hc hj]
  · rw [if_neg fun h => hmem ((axisOf_mem_targetAxes hrange hq).mp h), digitAt_axisOf hq,
      testBit_placeBits_of_notMem hmem]

/-- The entries that a matrix on the axes of distinct targets combines. -/
theorem map_replaceDigits {K : Type} [Zero K] {width : Nat} {targets : List Nat}
    (hdistinct : targets.Nodup) (hrange : ∀ t ∈ targets, t < width) {i : Nat}
    (hi : i < Nat.pow 2 width) (v : Array K) :
    ((List.range (Nat.pow 2 targets.length)).map fun c =>
      Tensor.ofArray v (replaceDigits width (targetAxes width targets)
        (digitsOf targets.length c) (digitsOf width i))) = fibre targets v i := by
  refine List.map_congr_left fun c hc => ?_
  rw [Tensor.ofArray, numberOf_replaceDigits hdistinct hrange (List.mem_range.mp hc) hi]

/-! ### What is accepted -/

theorem checkQubits_eq {width : Nat} {qubits : List Nat} (h : ∀ q ∈ qubits, q < width) :
    checkQubits width (qubits.map Int.ofNat) = .ok qubits := by
  unfold checkQubits
  rw [List.mapM_map]
  refine (mapM_of_forall (g := id) fun q hq => ?_).trans (by simp)
  have := h q hq
  simp [this]

/-- The qubits accepted are those given, and the state has them. -/
theorem checkQubits_eq_ok {width : Nat} {qubits : List Int} {places : List Nat}
    (h : checkQubits width qubits = .ok places) :
    qubits = places.map Int.ofNat ∧ ∀ q ∈ places, q < width := by
  have heach := mapM_eq_ok.mp h
  clear h
  induction heach with
  | nil => simp
  | @cons q place qubits places hq _ ih =>
    split at hq
    · rename_i hrange
      obtain rfl := Except.ok.inj hq
      have hnat : (q.toNat : Int) = q := Int.toNat_of_nonneg hrange.1
      refine ⟨by rw [List.map_cons, ← ih.1, Int.ofNat_eq_natCast, hnat], ?_⟩
      rw [List.forall_mem_cons]
      exact ⟨by omega, ih.2⟩
    · contradiction

theorem normalizeAxis_natCast {d a : Nat} (ha : a < d) : normalizeAxis d a = .ok a := by
  have hplace : (0 : Int) ≤ a ∧ (a : Int) < d := by omega
  have hsign : ¬ (a : Int) < 0 := by omega
  simp only [normalizeAxis, if_neg hsign, if_pos hplace, Int.toNat_natCast]

theorem lt_of_normalizeAxis {d a : Nat} {axis : Int} (h : normalizeAxis d axis = .ok a) :
    a < d := by
  unfold normalizeAxis at h
  generalize (if axis < 0 then axis + d else axis) = place at h
  dsimp only at h
  split at h
  · obtain rfl := Except.ok.inj h
    omega
  · contradiction

variable {K : Type}

theorem checkShape_eq {U : Operator K} {targets : Nat}
    (h : U.isSquare (Nat.pow 2 targets) = true) : checkShape U targets = .ok () := by
  rw [checkShape, if_pos h]

theorem checkShape_eq_ok {U : Operator K} {targets : Nat} {u : Unit}
    (h : checkShape U targets = .ok u) : U.isSquare (Nat.pow 2 targets) = true := by
  unfold checkShape at h
  split at h
  · assumption
  · contradiction

@[simp] theorem size_store [Zero K] (d : Nat) (t : Tensor K) (v : Array K) :
    (t.store d v).size = v.size := by
  simp [Tensor.store]

variable [Zero K] [Add K] [Mul K]

/-- On distinct axes, a matrix combines the entries whose indices differ on these axes only. -/
theorem applyMatrix_exists {d : Nat} {axes : List Int} {source : List Nat}
    (hsource : axes.reverse.mapM (normalizeAxis d) = .ok source) (hdistinct : source.Nodup)
    (U : Operator K) (t : Tensor K) :
    ∃ t', applyMatrix d axes U t = .ok t' ∧ ∀ x, t' x =
      dot (U.row (numberOf (digitsAt source x)))
        ((List.range (Nat.pow 2 source.length)).map fun c =>
          t (replaceDigits d source (digitsOf source.length c) x)) := by
  have hlength : axes.length = source.length := by
    rw [length_of_mapM hsource, List.length_reverse]
  have hrange : ∀ a ∈ source, a < d := fun a ha =>
    let ⟨_, _, haxis⟩ := exists_of_mem_mapM hsource ha
    lt_of_normalizeAxis haxis
  refine ⟨_, ?_, multiply_between hdistinct hrange U t⟩
  unfold applyMatrix
  rw [hsource, hlength]
  simp [bind, Except.bind, hdistinct, pure, Except.pure]

theorem applyMatrix_eq_ok {d : Nat} {axes : List Int} {U : Operator K} {t t' : Tensor K}
    (h : applyMatrix d axes U t = .ok t') :
    ∃ source, axes.reverse.mapM (normalizeAxis d) = .ok source ∧ source.Nodup := by
  unfold applyMatrix at h
  obtain ⟨source, hsource, h⟩ := bind_eq_ok.mp h
  dsimp only at h
  split at h
  · exact absurd h throw_bind_ne_ok
  · rename_i hdistinct
    exact ⟨source, hsource, by simpa using hdistinct⟩

/-! ### The plain kernel -/

theorem size_applyWhere (holds : Nat → Bool) (U : Operator K) (targets : List Nat) (v : Array K) :
    (applyWhere holds U targets v).size = v.size := by
  simp [applyWhere]

/-- On distinct targets, an operator of the right size is applied. -/
theorem applyUnitary_eq {width : Nat} {targets : List Nat} (hne : targets ≠ [])
    (hdistinct : targets.Nodup) (hrange : ∀ t ∈ targets, t < width) {U : Operator K}
    (hsquare : U.isSquare (Nat.pow 2 targets.length) = true) {v : Array K}
    (hsize : v.size = Nat.pow 2 width) :
    applyUnitary width (targets.map Int.ofNat) U v = .ok (applyTo U targets v) := by
  have hne' : targets.map Int.ofNat ≠ [] := by simpa using hne
  have hsource : (targets.map fun q => (axisOf width q : Int)).reverse.mapM (normalizeAxis width) =
      .ok (targetAxes width targets) := by
    rw [← List.map_reverse, List.mapM_map]
    refine (mapM_of_forall (g := axisOf width) fun q hq => ?_).trans ?_
    · exact normalizeAxis_natCast (axisOf_lt (hrange q (List.mem_reverse.mp hq)))
    · rw [targetAxes, List.map_reverse]
  obtain ⟨t', happlied, hentry⟩ := applyMatrix_exists hsource
    (nodup_targetAxes hdistinct hrange) U (Tensor.ofArray v)
  have hstored : t'.store width v = applyTo U targets v := by
    refine Array.ext (by simp [applyTo, size_applyWhere]) fun i hi _ => ?_
    have hi : i < Nat.pow 2 width := by simpa [hsize] using hi
    simp only [Tensor.store, Array.getElem_mapIdx, applyTo, applyWhere, Array.getElem_ofFn, if_true]
    rw [hentry, numberOf_targetAxes hrange, length_targetAxes,
      map_replaceDigits hdistinct hrange hi]
  unfold applyUnitary
  rw [if_neg hne', checkQubits_eq hrange]
  simp [bind, Except.bind, hdistinct, checkShape_eq hsquare, happlied, hstored, pure, Except.pure]

/-- A plain application that is accepted has no targets, or distinct ones of the state and an
operator of the right size. -/
theorem applyUnitary_eq_ok {width : Nat} {targets : List Int} {U : Operator K} {v v' : Array K}
    (hsize : v.size = Nat.pow 2 width) (h : applyUnitary width targets U v = .ok v') :
    (targets = [] ∧ v' = v) ∨ ∃ places : List Nat, targets = places.map Int.ofNat ∧
      places.Nodup ∧ (∀ t ∈ places, t < width) ∧
      U.isSquare (Nat.pow 2 places.length) = true ∧ v' = applyTo U places v := by
  have happlied := h
  unfold applyUnitary at h
  split at h
  · rename_i hnone
    exact .inl ⟨hnone, (Except.ok.inj h).symm⟩
  · rename_i hne
    obtain ⟨places, hplaces, h⟩ := bind_eq_ok.mp h
    obtain ⟨hgiven, hrange⟩ := checkQubits_eq_ok hplaces
    dsimp only at h
    split at h
    · exact absurd h throw_bind_ne_ok
    · rename_i hnot
      have hdistinct : places.Nodup := by simpa using hnot
      obtain ⟨_, hshape, _⟩ := bind_eq_ok.mp h
      have hsquare := checkShape_eq_ok hshape
      have hne' : places ≠ [] := fun h => hne (by rw [hgiven, h]; rfl)
      rw [hgiven, applyUnitary_eq hne' hdistinct hrange hsquare hsize] at happlied
      exact .inr ⟨places, hgiven, hdistinct, hrange, hsquare, (Except.ok.inj happlied).symm⟩

/-- No application changes the number of amplitudes. -/
theorem size_applyUnitary {width : Nat} {targets : List Int} {U : Operator K} {v v' : Array K}
    (h : applyUnitary width targets U v = .ok v') : v'.size = v.size := by
  unfold applyUnitary at h
  split at h
  · obtain rfl := Except.ok.inj h
    rfl
  · obtain ⟨places, _, h⟩ := bind_eq_ok.mp h
    dsimp only at h
    split at h
    · exact absurd h throw_bind_ne_ok
    · obtain ⟨_, _, h⟩ := bind_eq_ok.mp h
      obtain ⟨t, _, h⟩ := bind_eq_ok.mp h
      obtain rfl := Except.ok.inj h
      exact size_store _ _ _

end CircuitConsole.Simulation
