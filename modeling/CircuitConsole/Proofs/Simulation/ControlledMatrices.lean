import CircuitConsole.Proofs.Simulation.KernelEntries
import CircuitConsole.Proofs.Simulation.Shape

/-!
Controlled operators as matrices. An operator under controls is a larger operator on the targets and
the controls together: its matrix is the given one on the block where the digits of the controls are
the values asked for, and the identity on every other block. The plain kernel makes of this matrix
what the controlled kernel makes of the operator.
-/

namespace CircuitConsole

namespace Operator

variable {K : Type}

def ofEntries (size : Nat) (entry : Nat → Nat → K) : Operator K :=
  ⟨(List.range size).map fun r => (List.range size).map (entry r)⟩

theorem isSquare_ofEntries (size : Nat) (entry : Nat → Nat → K) :
    (ofEntries size entry).isSquare size = true := by
  simp [isSquare, ofEntries]

theorem entry_ofEntries [Zero K] {size r c : Nat} (hr : r < size) (hc : c < size)
    (f : Nat → Nat → K) : (ofEntries size f).entry r c = f r c := by
  simp [entry, row, ofEntries, hr, hc]

/-- The matrix of an operator under controls, whose digits stand behind those of the targets. -/
def controlled [Zero K] [One K] (U : Operator K) (targets : Nat) (values : List Bool) :
    Operator K :=
  ofEntries (Nat.pow 2 (targets + values.length)) fun r c =>
    if r / Nat.pow 2 targets = bitsToNat values ∧ c / Nat.pow 2 targets = bitsToNat values then
      U.entry (r % Nat.pow 2 targets) (c % Nat.pow 2 targets)
    else if r = c then 1 else 0

theorem isSquare_controlled [Zero K] [One K] (U : Operator K) (targets : Nat)
    (values : List Bool) :
    (U.controlled targets values).isSquare (Nat.pow 2 (targets + values.length)) = true :=
  isSquare_ofEntries _ _

end Operator

namespace Simulation

theorem bitsToNat_lt (bits : List Bool) : bitsToNat bits < Nat.pow 2 bits.length := by
  induction bits with
  | nil => exact Nat.one_pos
  | cons b bits ih =>
    have hdigit := Bool.toNat_le b
    have hpow : Nat.pow 2 (b :: bits).length = 2 * Nat.pow 2 bits.length := Nat.pow_succ'
    rw [bitsToNat, hpow]
    omega

/-- The digits of the controls spell the values asked for where the controls have them. -/
theorem controlsHold_iff (controls : List (Nat × Bool)) (i : Nat) :
    controlsHold controls i = true ↔
      pickBits (controls.map (·.1)) i = bitsToNat (controls.map (·.2)) := by
  induction controls with
  | nil => simp [controlsHold, pickBits, bitsToNat]
  | cons control controls ih =>
    obtain ⟨q, value⟩ := control
    have hfirst : controlsHold ((q, value) :: controls) i =
        (i.testBit q == value && controlsHold controls i) := rfl
    have hdigit := Bool.toNat_le (i.testBit q)
    have hvalue := Bool.toNat_le value
    rw [hfirst, Bool.and_eq_true, ih, beq_iff_eq]
    change _ ↔ (i.testBit q).toNat + 2 * _ = value.toNat + 2 * _
    constructor
    · rintro ⟨hq, hrest⟩
      rw [hq, hrest]
    · intro h
      exact ⟨eq_of_toNat_eq (by omega), by omega⟩

/-- Where further places have their digits already, it is enough to write at the others. -/
theorem Spells.behind {targets places : List Nat} {c i i' : Nat} (h : Spells targets c i i')
    (hc : c < Nat.pow 2 targets.length) (hapart : targets.Disjoint places) :
    Spells (targets ++ places) (Nat.pow 2 targets.length * pickBits places i + c) i i' where
  inside j hj := by
    rw [List.length_append] at hj
    change _ = (2 ^ targets.length * pickBits places i + c).testBit j
    rw [Nat.testBit_two_pow_mul_add _ hc]
    by_cases hlow : j < targets.length
    · rw [if_pos hlow, List.getElem_append_left hlow, h.inside j hlow]
    · have hhigh : targets.length ≤ j := by omega
      have hplace : j - targets.length < places.length := by omega
      rw [if_neg hlow, List.getElem_append_right hhigh, testBit_pickBits hplace]
      exact h.outside _ fun hmem => hapart hmem (List.getElem_mem hplace)
  outside q hq := h.outside q fun hmem => hq (List.mem_append_left _ hmem)

variable {K : Type} [CommRing K] {U : Operator K} {values : List Bool}

/-- A number by its upper and its lower digits. -/
theorem div_mod_of_digits {k r : Nat} (hr : r < Nat.pow 2 k) (s : Nat) :
    (Nat.pow 2 k * s + r) / Nat.pow 2 k = s ∧ (Nat.pow 2 k * s + r) % Nat.pow 2 k = r := by
  constructor
  · rw [Nat.mul_add_div (Nat.zero_lt_of_lt hr), Nat.div_eq_of_lt hr, Nat.add_zero]
  · rw [Nat.mul_add_mod, Nat.mod_eq_of_lt hr]

theorem digits_lt {k p s r : Nat} (hs : s < Nat.pow 2 p) (hr : r < Nat.pow 2 k) :
    Nat.pow 2 k * s + r < Nat.pow 2 (k + p) := by
  have hpow : Nat.pow 2 (k + p) = Nat.pow 2 k * Nat.pow 2 p := Nat.pow_add 2 k p
  calc Nat.pow 2 k * s + r < Nat.pow 2 k * s + Nat.pow 2 k := by omega
    _ = Nat.pow 2 k * (s + 1) := (Nat.mul_succ _ _).symm
    _ ≤ Nat.pow 2 k * Nat.pow 2 p := Nat.mul_le_mul_left _ hs
    _ = Nat.pow 2 (k + p) := hpow.symm

/-- A row on the block of the values asked for has the entries of the operator there, and no
others. -/
theorem sum_row_held {k r : Nat} (hr : r < Nat.pow 2 k) (f : Nat → K) :
    ∑ c ∈ Finset.range (Nat.pow 2 (k + values.length)),
        (U.controlled k values).entry (Nat.pow 2 k * bitsToNat values + r) c * f c =
      ∑ c ∈ Finset.range (Nat.pow 2 k), U.entry r c * f (Nat.pow 2 k * bitsToNat values + c) := by
  have hvalues := bitsToNat_lt values
  obtain ⟨hdiv, hmod⟩ := div_mod_of_digits hr (bitsToNat values)
  symm
  apply Finset.sum_of_injOn (fun c => Nat.pow 2 k * bitsToNat values + c)
  · intro c _ c' _ h
    exact Nat.add_left_cancel h
  · intro c hc
    have hc : c < Nat.pow 2 k := by simpa using hc
    simpa using digits_lt hvalues hc
  · intro c hc hout
    have hc : c < Nat.pow 2 (k + values.length) := by simpa using hc
    have hblock : c / Nat.pow 2 k ≠ bitsToNat values := by
      intro h
      apply hout
      refine ⟨c % Nat.pow 2 k, by simpa using Nat.mod_lt c (Nat.two_pow_pos k), ?_⟩
      change Nat.pow 2 k * bitsToNat values + c % Nat.pow 2 k = c
      rw [← h, Nat.div_add_mod]
    have hne : Nat.pow 2 k * bitsToNat values + r ≠ c := by
      rintro rfl
      exact hblock hdiv
    rw [Operator.controlled, Operator.entry_ofEntries (digits_lt hvalues hr) hc,
      if_neg fun h => hblock h.2, if_neg hne, zero_mul]
  · intro c hc
    have hc : c < Nat.pow 2 k := by simpa using hc
    obtain ⟨hdiv', hmod'⟩ := div_mod_of_digits hc (bitsToNat values)
    rw [Operator.controlled, Operator.entry_ofEntries (digits_lt hvalues hr) (digits_lt hvalues hc),
      if_pos ⟨hdiv, hdiv'⟩, hmod, hmod']

/-- A row on any other block is one of the identity. -/
theorem sum_row_free {k s r : Nat} (hs : s < Nat.pow 2 values.length) (hr : r < Nat.pow 2 k)
    (hother : s ≠ bitsToNat values) (f : Nat → K) :
    ∑ c ∈ Finset.range (Nat.pow 2 (k + values.length)),
        (U.controlled k values).entry (Nat.pow 2 k * s + r) c * f c =
      f (Nat.pow 2 k * s + r) := by
  have hlt := digits_lt hs hr
  have hentry {c : Nat} (hc : c < Nat.pow 2 (k + values.length)) :
      (U.controlled k values).entry (Nat.pow 2 k * s + r) c =
        if Nat.pow 2 k * s + r = c then 1 else 0 := by
    rw [Operator.controlled, Operator.entry_ofEntries hlt hc, if_neg]
    rw [(div_mod_of_digits hr s).1]
    exact fun h => hother h.1
  rw [Finset.sum_eq_single_of_mem _ (Finset.mem_range.mpr hlt)]
  · rw [hentry hlt, if_pos rfl, one_mul]
  · intro c hc hne
    rw [hentry (Finset.mem_range.mp hc), if_neg hne.symm, zero_mul]

/-- The matrix of an operator under controls does on targets and controls what the operator does on
the targets where the controls have their values. -/
theorem applyTo_controlled {controls : List (Nat × Bool)} {targets : List Nat}
    (hdistinct : (targets ++ controls.map (·.1)).Nodup)
    (hsquare : U.isSquare (Nat.pow 2 targets.length) = true) (v : Array K) :
    applyTo (U.controlled targets.length (controls.map (·.2))) (targets ++ controls.map (·.1)) v =
      applyWhere (controlsHold controls) U targets v := by
  obtain ⟨htargets, _, hapart⟩ := List.nodup_append'.mp hdistinct
  refine ext_amplitudeAt (by rw [applyTo, size_applyWhere, size_applyWhere]) fun i hi => ?_
  have hi : i < v.size := by rwa [applyTo, size_applyWhere] at hi
  have hlength : (targets ++ controls.map (·.1)).length =
      targets.length + (controls.map (·.2)).length := by simp
  have hlow := pickBits_lt targets i
  have hhigh : pickBits (controls.map (·.1)) i < Nat.pow 2 (controls.map (·.2)).length := by
    simpa using pickBits_lt (controls.map (·.1)) i
  rw [applyTo, amplitudeAt_applyWhere hi, amplitudeAt_applyWhere hi, if_pos rfl, fibre, hlength,
    pickBits_append, dot_row_eq_sum (U.isSquare_controlled _ _) (digits_lt hhigh hlow)]
  split
  · rename_i hheld
    rw [controlsHold_iff] at hheld
    rw [fibre, dot_row_eq_sum hsquare hlow, hheld, sum_row_held hlow]
    refine Finset.sum_congr rfl fun c hc => ?_
    have hc := Finset.mem_range.mp hc
    have hlt : Nat.pow 2 targets.length * bitsToNat (controls.map (·.2)) + c <
        Nat.pow 2 (targets ++ controls.map (·.1)).length := by
      rw [hlength]
      exact digits_lt (bitsToNat_lt _) hc
    have hspells := (spells_placeBits htargets hc i).behind hc hapart
    rw [hheld] at hspells
    rw [(spells_placeBits hdistinct hlt i).eq hspells]
  · rename_i hfree
    rw [controlsHold_iff] at hfree
    rw [sum_row_free hhigh hlow hfree, ← pickBits_append, placeBits_pickBits hdistinct]

/-- On distinct controls and targets in any order, and for any values asked of the controls, the
controlled kernel makes of an operator what the plain kernel makes of its matrix under controls. -/
theorem kernels_agree {n : Nat} {controls targets : List Nat} (hne : targets ≠ [])
    (hdistinct : (controls ++ targets).Nodup) (hrange : ∀ q ∈ controls ++ targets, q < n)
    (hcount : values.length = controls.length)
    (hsquare : U.isSquare (Nat.pow 2 targets.length) = true) {v : Array K}
    (hsize : v.size = Nat.pow 2 n) :
    ∃ v', applyControlledUnitary n (controls.map Int.ofNat) (targets.map Int.ofNat) U
        (some (values.map fun b => (b.toNat : Int))) v = .ok v' ∧
      applyUnitary n ((targets ++ controls).map Int.ofNat) (U.controlled targets.length values) v =
        .ok v' := by
  obtain ⟨pairs, rfl, rfl⟩ : ∃ pairs : List (Nat × Bool),
      pairs.map (·.1) = controls ∧ pairs.map (·.2) = values :=
    ⟨controls.zip values, List.map_fst_zip hcount.ge, List.map_snd_zip hcount.le⟩
  have hperm : (targets ++ pairs.map (·.1)).Perm (pairs.map (·.1) ++ targets) :=
    List.perm_append_comm
  have hdistinct' := hperm.nodup_iff.mpr hdistinct
  have hrange' : ∀ q ∈ targets ++ pairs.map (·.1), q < n :=
    fun q hq => hrange q (hperm.mem_iff.mp hq)
  have hne' : targets ++ pairs.map (·.1) ≠ [] := by simp [hne]
  have hsquare' : (U.controlled targets.length (pairs.map (·.2))).isSquare
      (Nat.pow 2 (targets ++ pairs.map (·.1)).length) = true := by
    have hlength : (targets ++ pairs.map (·.1)).length =
        targets.length + (pairs.map (·.2)).length := by simp
    rw [hlength]
    exact U.isSquare_controlled _ _
  refine ⟨applyWhere (controlsHold pairs) U targets v, ?_, ?_⟩
  · have hasked : (some ((pairs.map (·.2)).map fun b => (b.toNat : Int))).getD
        (pairs.map fun _ => 1) = pairs.map fun c => (c.2.toNat : Int) := List.map_map
    exact applyControlledUnitary_eq hasked hdistinct hrange hsquare hsize
  · rw [applyUnitary_eq hne' hdistinct' hrange' hsquare' hsize,
      applyTo_controlled hdistinct' hsquare]

/-- Controls on both sides of the target, one of which asks for zero. -/
theorem controls_around_target_agree :
    applyUnitary 3 [1, 2, 0] (Operator.controlled ⟨[[1, 2], [3, 4]]⟩ 1 [false, true])
        (#[0, 10, 20, 30, 40, 50, 60, 70] : Array Int) =
      .ok #[0, 70, 20, 150, 40, 50, 60, 70] ∧
    ∃ v', applyControlledUnitary 3 ([2, 0].map Int.ofNat) ([1].map Int.ofNat) ⟨[[1, 2], [3, 4]]⟩
        (some ([false, true].map fun b => (b.toNat : Int)))
        (#[0, 10, 20, 30, 40, 50, 60, 70] : Array Int) = .ok v' ∧
      applyUnitary 3 (([1] ++ [2, 0]).map Int.ofNat)
        (Operator.controlled ⟨[[1, 2], [3, 4]]⟩ [1].length [false, true])
        (#[0, 10, 20, 30, 40, 50, 60, 70] : Array Int) = .ok v' :=
  ⟨rfl, kernels_agree (by decide) (by decide) (by decide) rfl rfl rfl⟩

end Simulation

end CircuitConsole
