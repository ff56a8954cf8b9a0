import CircuitConsole.Proofs.Simulation.ControlledKernel
import Mathlib.Algebra.BigOperators.Fin
import Mathlib.Algebra.Ring.Int.Defs

/-!
The entries that the kernel computes, over any commutative ring. An operator on distinct targets
multiplies, at every index, the row which the bits of the targets spell by the amplitudes at the
indices where these bits have been replaced. With controls it does so where all controls have their
values and leaves the other amplitudes alone, or it is refused, as long as no control is given
twice: a control given twice takes an axis out once, but shifts the targets twice.
-/

namespace CircuitConsole.Simulation

/-- The number that bits spell as a sum of powers of two. -/
theorem pickBits_eq_sum (targets : List Nat) (i : Nat) :
    pickBits targets i = ∑ j : Fin targets.length, (i.testBit targets[j]).toNat * 2 ^ j.val := by
  induction targets with
  | nil => rfl
  | cons t targets ih =>
    have hstep : ∑ j : Fin (t :: targets).length,
          (i.testBit (t :: targets)[j]).toNat * 2 ^ j.val =
        (i.testBit t).toNat * 2 ^ 0 +
          ∑ j : Fin targets.length, (i.testBit targets[j]).toNat * 2 ^ (j.val + 1) :=
      Fin.sum_univ_succ fun j : Fin (targets.length + 1) =>
        (i.testBit (t :: targets)[j]).toNat * 2 ^ j.val
    rw [hstep, pickBits, ih, Finset.mul_sum, pow_zero, mul_one]
    congr 1
    refine Finset.sum_congr rfl fun j _ => ?_
    rw [pow_succ, Nat.mul_left_comm, Nat.mul_comm 2]

/-- An index that differs from another one in the targets only, which spell a number there. -/
structure Spells (targets : List Nat) (c i i' : Nat) : Prop where
  inside : ∀ j (hj : j < targets.length), i'.testBit targets[j] = c.testBit j
  outside : ∀ q, q ∉ targets → i'.testBit q = i.testBit q

theorem Spells.eq {targets : List Nat} {c i a b : Nat} (ha : Spells targets c i a)
    (hb : Spells targets c i b) : a = b := by
  refine Nat.eq_of_testBit_eq fun q => ?_
  by_cases hq : q ∈ targets
  · obtain ⟨j, hj, rfl⟩ := List.getElem_of_mem hq
    rw [ha.inside j hj, hb.inside j hj]
  · rw [ha.outside q hq, hb.outside q hq]

theorem spells_placeBits {targets : List Nat} (hdistinct : targets.Nodup) {c : Nat}
    (hc : c < Nat.pow 2 targets.length) (i : Nat) : Spells targets c i (placeBits targets c i) where
  inside _ hj := testBit_placeBits hdistinct hc hj i
  outside _ hq := testBit_placeBits_of_notMem hq c i

variable {K : Type}

theorem length_row {U : Operator K} {size r : Nat} (hsquare : U.isSquare size = true)
    (hr : r < size) : (U.row r).length = size := by
  unfold Operator.isSquare at hsquare
  simp only [Bool.and_eq_true, decide_eq_true_eq, List.all_eq_true] at hsquare
  have hlt : r < U.rows.length := hsquare.1.symm ▸ hr
  have hrow : U.row r = U.rows[r] := by simp [Operator.row, hlt]
  rw [hrow]
  exact hsquare.2 _ (List.getElem_mem hlt)

def Selected (controls : List Int) (asked : Option (List Int)) (i : Nat) : Prop :=
  ∀ j (hj : j < controls.length), (asked.getD (controls.map fun _ => 1))[j]? =
    some ((i.testBit controls[j].toNat).toNat : Int)

/-- Controls that are accepted select the indices of the part that they hold. -/
theorem Accepted.selected_iff {width : Nat} {controls targets : List Nat} {U : Operator K}
    {asked : Option (List Int)} {s : Slice} {source : List Nat}
    (h : Accepted width controls targets U (asked.getD (controls.map fun _ => 1)) s source)
    (hdistinct : controls.Nodup)
    (hbits : ∀ b ∈ asked.getD (controls.map fun _ => 1), b = 0 ∨ b = 1) (i : Nat) :
    Selected (controls.map Int.ofNat) asked i ↔ s.holds (digitsOf width i) = true := by
  have hdefault : (controls.map Int.ofNat).map (fun _ => (1 : Int)) =
      controls.map fun _ => 1 := by
    rw [List.map_map]
    rfl
  rw [h.holds_iff hdistinct, Selected, hdefault]
  generalize asked.getD (controls.map fun _ => 1) = values at h hbits
  have hcount := h.count
  constructor
  · rintro hsel ⟨c, value⟩ hpair
    obtain ⟨j, hj, hget⟩ := List.mem_iff_getElem.mp hpair
    rw [List.getElem_zip] at hget
    obtain ⟨rfl, rfl⟩ := Prod.mk.inj hget
    rw [List.length_zip] at hj
    have hvalue := hsel j (by rw [List.length_map]; omega)
    rw [List.getElem?_eq_getElem (by omega)] at hvalue
    rw [heldValue_eq_ok (hbits _ (List.getElem_mem _))]
    simpa using (Option.some.inj hvalue).symm
  · intro hpairs j hj
    rw [List.length_map] at hj
    have hj' : j < values.length := hcount.symm ▸ hj
    have hpair : (controls[j], values[j]) ∈ controls.zip values :=
      List.mem_iff_getElem.mpr ⟨j, by rw [List.length_zip]; omega, by rw [List.getElem_zip]⟩
    have hheld := hpairs _ hpair
    rw [heldValue_eq_ok (hbits _ (List.getElem_mem _))] at hheld
    rw [List.getElem?_eq_getElem hj']
    simpa using hheld.symm

variable [CommRing K]

/-- A row times a column as a sum. -/
theorem dot_row_eq_sum {U : Operator K} {size r : Nat} (hsquare : U.isSquare size = true)
    (hr : r < size) (f : Nat → K) :
    dot (U.row r) ((List.range size).map f) = ∑ c ∈ Finset.range size, U.entry r c * f c := by
  have hlength := length_row hsquare hr
  have hrow : U.row r = (List.range size).map (U.entry r) := by
    refine List.ext_getElem (by simp [hlength]) fun c hc _ => ?_
    simp [Operator.entry, hc]
  rw [dot, hrow, List.zipWith_map, List.zipWith_self, ← List.toFinset_range,
    List.sum_toFinset _ List.nodup_range]

/-- What an operator makes of some qubits at an index: the row which the bits of the targets spell,
times the amplitudes at the indices where these bits have been replaced. -/
def IsProductAt (U : Operator K) (targets : List Nat) (v : Array K) (i : Nat) (x : K) : Prop :=
  ∃ index : Nat → Nat,
    (∀ c, c < Nat.pow 2 targets.length → Spells targets c i (index c)) ∧
    x = ∑ c ∈ Finset.range (Nat.pow 2 targets.length),
      U.entry (∑ j : Fin targets.length, (i.testBit targets[j]).toNat * 2 ^ j.val) c *
        amplitudeAt v (index c)

theorem isProductAt_iff {U : Operator K} {targets : List Nat} (hdistinct : targets.Nodup)
    (hsquare : U.isSquare (Nat.pow 2 targets.length) = true) {v : Array K} {i : Nat} {x : K} :
    IsProductAt U targets v i x ↔ x = dot (U.row (pickBits targets i)) (fibre targets v i) := by
  rw [fibre, dot_row_eq_sum hsquare (pickBits_lt targets i), pickBits_eq_sum]
  constructor
  · rintro ⟨index, hindex, rfl⟩
    refine Finset.sum_congr rfl fun c hc => ?_
    have hc := Finset.mem_range.mp hc
    rw [(hindex c hc).eq (spells_placeBits hdistinct hc i)]
  · rintro rfl
    exact ⟨fun c => placeBits targets c i, fun c hc => spells_placeBits hdistinct hc i, rfl⟩

/-- The plain kernel carries out every operator of the right size on distinct targets, whatever
their order. -/
theorem applyUnitary_product {n : Nat} {targets : List Nat} (hne : targets ≠ [])
    (hdistinct : targets.Nodup) (hrange : ∀ t ∈ targets, t < n) {U : Operator K}
    (hsquare : U.isSquare (Nat.pow 2 targets.length) = true) {v : Array K}
    (hsize : v.size = Nat.pow 2 n) :
    ∃ v', applyUnitary n (targets.map Int.ofNat) U v = .ok v' ∧ v'.size = Nat.pow 2 n ∧
      ∀ i (hi : i < v'.size), IsProductAt U targets v i v'[i] := by
  refine ⟨_, applyUnitary_eq hne hdistinct hrange hsquare hsize, ?_, fun i hi => ?_⟩
  · rw [applyTo, size_applyWhere, hsize]
  · rw [isProductAt_iff hdistinct hsquare]
    simp [applyTo, applyWhere]

/-- A matrix that exchanges neither its digits nor its values: it tells its two targets apart. -/
def digitCycle : Operator Int := ⟨[[1, 0, 0, 0], [0, 0, 1, 0], [0, 0, 0, 1], [0, 1, 0, 0]]⟩

/-- The first of the targets is the least significant digit, although it is the higher qubit. -/
theorem digitCycle_product :
    applyUnitary 3 [2, 0] digitCycle #[0, 10, 20, 30, 40, 50, 60, 70] =
      .ok #[0, 50, 20, 70, 10, 40, 30, 60] ∧
    ∃ v', applyUnitary 3 ([2, 0].map Int.ofNat) digitCycle #[0, 10, 20, 30, 40, 50, 60, 70] =
        .ok v' ∧ v'.size = Nat.pow 2 3 ∧
      ∀ i (hi : i < v'.size),
        IsProductAt digitCycle [2, 0] #[0, 10, 20, 30, 40, 50, 60, 70] i v'[i] :=
  ⟨rfl, applyUnitary_product (by decide) (by decide) (by decide) rfl rfl⟩

/-- The controlled kernel refuses, and there is no new state, or gives the product with the operator
at the selected indices and the old amplitude at the others. -/
def RightOrRefused (n : Nat) (controls targets : List Int) (U : Operator K)
    (asked : Option (List Int)) (v : Array K) : Prop :=
  (∃ fault, applyControlledUnitary n controls targets U asked v = .error fault) ∨
  ∃ v', applyControlledUnitary n controls targets U asked v = .ok v' ∧ v'.size = Nat.pow 2 n ∧
    ∀ i (hi : i < v'.size),
      (Selected controls asked i → IsProductAt U (targets.map Int.toNat) v i v'[i]) ∧
      (¬ Selected controls asked i → v'[i] = amplitudeAt v i)

/-- When no control is given twice, the controlled kernel is right or refuses. -/
theorem applyControlledUnitary_right {n : Nat} {controls targets : List Int} {U : Operator K}
    {asked : Option (List Int)} {v : Array K} (hsize : v.size = Nat.pow 2 n)
    (hasked : ∀ values, asked = some values → ∀ b ∈ values, b = 0 ∨ b = 1)
    (hdistinct : controls.Nodup) : RightOrRefused n controls targets U asked v := by
  cases happlied : applyControlledUnitary n controls targets U asked v with
  | error fault => exact .inl ⟨fault, happlied⟩
  | ok v' =>
    obtain ⟨cs, ts, s, source, rfl, rfl, haccepted, _⟩ := applyControlledUnitary_eq_ok happlied
    have hcontrols : cs.Nodup := hdistinct.of_map Int.ofNat
    have hfound := haccepted.foundQubits_eq hcontrols
    have htargets : ts.Nodup :=
      hfound ▸ nodup_foundQubits haccepted.length haccepted.distinct haccepted.source_lt
    have hbits : ∀ b ∈ asked.getD (cs.map fun _ => 1), b = 0 ∨ b = 1 := by
      cases asked with
      | none => simp
      | some values => exact hasked values rfl
    have hback : (ts.map Int.ofNat).map Int.toNat = ts := by
      rw [List.map_map]
      exact List.map_id _
    have hresult := haccepted.eq hsize
    rw [hfound, happlied] at hresult
    obtain rfl := Except.ok.inj hresult
    refine .inr ⟨_, happlied, by rw [size_applyWhere, hsize], fun i hi => ?_⟩
    have hi' : i < v.size := by rwa [size_applyWhere] at hi
    rw [haccepted.selected_iff hcontrols hbits, hback,
      isProductAt_iff htargets haccepted.square]
    simp only [applyWhere, Array.getElem_ofFn]
    constructor
    · intro hholds
      rw [if_pos hholds]
    · intro hholds
      rw [if_neg hholds]
      simp [amplitudeAt, hi']

/-- Controls above and below the target, one of which asks for zero. -/
theorem controls_around_target_right :
    applyControlledUnitary 3 [2, 0] [1] ⟨[[0, 1], [1, 0]]⟩ (some [0, 1])
        (#[0, 10, 20, 30, 40, 50, 60, 70] : Array Int) =
      .ok #[0, 30, 20, 10, 40, 50, 60, 70] ∧
    RightOrRefused 3 [2, 0] [1] ⟨[[0, 1], [1, 0]]⟩ (some [0, 1])
      (#[0, 10, 20, 30, 40, 50, 60, 70] : Array Int) :=
  ⟨rfl, applyControlledUnitary_right rfl (by rintro values ⟨⟩; decide) (by decide)⟩

/-- A control given twice sends the operator to the qubit beside the target. -/
theorem repeated_control_not_right :
    ¬ RightOrRefused 3 [2, 2] [0] ⟨[[0, 1], [1, 0]]⟩ none
      (#[0, 0, 0, 0, 1, 0, 0, 0] : Array Int) := by
  have hresult : applyControlledUnitary 3 [2, 2] [0] ⟨[[0, 1], [1, 0]]⟩ none
      (#[0, 0, 0, 0, 1, 0, 0, 0] : Array Int) = .ok #[0, 0, 0, 0, 0, 0, 1, 0] := rfl
  rintro (⟨fault, hfault⟩ | ⟨v', hv', -, hentries⟩)
  · rw [hresult] at hfault
    cases hfault
  · rw [hresult] at hv'
    obtain rfl := Except.ok.inj hv'
    have hselected : Selected [2, 2] none 5 := by
      unfold Selected
      decide
    have hproduct := (hentries 5 (by decide)).1 hselected
    rw [isProductAt_iff (by decide) rfl] at hproduct
    exact absurd hproduct (by decide)

end CircuitConsole.Simulation
