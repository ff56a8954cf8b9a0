import CircuitConsole.Proofs.Simulation.Isometries
import CircuitConsole.Proofs.Simulation.Basis
import CircuitConsole.Proofs.Simulation.KernelEntries

/-!
Gates on different qubits. What an operator makes of a state at an index depends on the indices that
differ from it in the targets only, and at all of these the controls and targets of an operator on
other qubits have the same values. Over any commutative ring, two operators on different qubits can
therefore be applied in either order, plain or controlled, and so can two gates before the state is
normalised. Exact amplitudes form such a ring.
-/

namespace CircuitConsole

namespace Simulation

/-- Operators that have nothing to do with each other: neither the targets nor the condition of one
of them has a part in the other. -/
structure Apart (holds : Nat → Bool) (targets : List Nat) (holds' : Nat → Bool)
    (targets' : List Nat) : Prop where
  disjoint : targets.Disjoint targets'
  ignores : Ignores holds targets'
  ignores' : Ignores holds' targets

theorem Apart.symm {holds holds' : Nat → Bool} {targets targets' : List Nat}
    (h : Apart holds targets holds' targets') : Apart holds' targets' holds targets :=
  ⟨h.disjoint.symm, h.ignores', h.ignores⟩

section

variable {K : Type} [CommRing K] {holds holds' : Nat → Bool} {U U' : Operator K}
  {targets targets' : List Nat} {v : Array K} {n i : Nat}

/-- An operator at an index that differs in the targets of another one. -/
theorem amplitudeAt_applyWhere_placeBits (hapart : Apart holds targets holds' targets')
    (hrange : ∀ t ∈ targets, t < n) (hsize : v.size = Nat.pow 2 n) (hi : i < Nat.pow 2 n)
    (c : Nat) :
    amplitudeAt (applyWhere holds' U' targets' v) (placeBits targets c i) =
      if holds' i then dot (U'.row (pickBits targets' i)) (fibre targets' v (placeBits targets c i))
      else amplitudeAt v (placeBits targets c i) := by
  have hlt : placeBits targets c i < v.size := hsize ▸ placeBits_lt hrange hi c
  have hsame : holds' (placeBits targets c i) = holds' i :=
    hapart.ignores' _ _ fun _ hb => testBit_placeBits_of_notMem hb c i
  have hrow : pickBits targets' (placeBits targets c i) = pickBits targets' i :=
    pickBits_congr fun _ ht => testBit_placeBits_of_notMem (hapart.disjoint.symm ht) c i
  rw [amplitudeAt_applyWhere hlt, hsame, hrow]

/-- Where one of two operators is not applied, their order does not matter. -/
theorem amplitudeAt_comm_of_not (hapart : Apart holds targets holds' targets')
    (hrange' : ∀ t ∈ targets', t < n) (hsize : v.size = Nat.pow 2 n) (hi : i < Nat.pow 2 n)
    (hnot : holds i = false) :
    amplitudeAt (applyWhere holds U targets (applyWhere holds' U' targets' v)) i =
      amplitudeAt (applyWhere holds' U' targets' (applyWhere holds U targets v)) i := by
  have hlt : i < v.size := hsize.symm ▸ hi
  have hfibre : fibre targets' (applyWhere holds U targets v) i = fibre targets' v i := by
    apply List.map_congr_left
    intro d _
    rw [amplitudeAt_applyWhere_placeBits hapart.symm hrange' hsize hi, hnot]
    rfl
  have hstays : amplitudeAt (applyWhere holds U targets v) i = amplitudeAt v i := by
    rw [amplitudeAt_applyWhere hlt, hnot]
    rfl
  rw [amplitudeAt_applyWhere (by rwa [size_applyWhere]), hnot, if_neg Bool.false_ne_true,
    amplitudeAt_applyWhere hlt, amplitudeAt_applyWhere (by rwa [size_applyWhere]), hfibre, hstays]

/-- Where both are applied, the rows of both are multiplied by the amplitudes that differ in the
targets of either. -/
theorem amplitudeAt_twice (hapart : Apart holds targets holds' targets')
    (hsquare : U.isSquare (Nat.pow 2 targets.length) = true)
    (hsquare' : U'.isSquare (Nat.pow 2 targets'.length) = true)
    (hrange : ∀ t ∈ targets, t < n) (hsize : v.size = Nat.pow 2 n) (hi : i < Nat.pow 2 n)
    (hholds : holds i = true) (hholds' : holds' i = true) :
    amplitudeAt (applyWhere holds U targets (applyWhere holds' U' targets' v)) i =
      ∑ c ∈ Finset.range (Nat.pow 2 targets.length),
        ∑ d ∈ Finset.range (Nat.pow 2 targets'.length),
          U.entry (pickBits targets i) c * (U'.entry (pickBits targets' i) d *
            amplitudeAt v (placeBits targets' d (placeBits targets c i))) := by
  have hlt : i < (applyWhere holds' U' targets' v).size := by
    rw [size_applyWhere, hsize]
    exact hi
  rw [amplitudeAt_applyWhere hlt, hholds, if_pos rfl, fibre,
    dot_row_eq_sum hsquare (pickBits_lt targets i)]
  apply Finset.sum_congr rfl
  intro c _
  rw [amplitudeAt_applyWhere_placeBits hapart hrange hsize hi, hholds', if_pos rfl, fibre,
    dot_row_eq_sum hsquare' (pickBits_lt targets' i), Finset.mul_sum]

/-- Operators that have nothing to do with each other commute. -/
theorem applyWhere_comm (hapart : Apart holds targets holds' targets')
    (hsquare : U.isSquare (Nat.pow 2 targets.length) = true)
    (hsquare' : U'.isSquare (Nat.pow 2 targets'.length) = true)
    (hrange : ∀ t ∈ targets, t < n) (hrange' : ∀ t ∈ targets', t < n)
    (hsize : v.size = Nat.pow 2 n) :
    applyWhere holds U targets (applyWhere holds' U' targets' v) =
      applyWhere holds' U' targets' (applyWhere holds U targets v) := by
  apply ext_amplitudeAt
  · simp only [size_applyWhere]
  intro i hi
  have hi : i < Nat.pow 2 n := by simpa only [size_applyWhere, hsize] using hi
  by_cases hholds : holds i = true
  · by_cases hholds' : holds' i = true
    · rw [amplitudeAt_twice hapart hsquare hsquare' hrange hsize hi hholds hholds',
        amplitudeAt_twice hapart.symm hsquare' hsquare hrange' hsize hi hholds' hholds,
        Finset.sum_comm]
      apply Finset.sum_congr rfl
      intro d _
      apply Finset.sum_congr rfl
      intro c _
      rw [placeBits_comm hapart.disjoint.symm, mul_left_comm]
    · exact (amplitudeAt_comm_of_not hapart.symm hrange hsize hi (by simpa using hholds')).symm
  · exact amplitudeAt_comm_of_not hapart hrange' hsize hi (by simpa using hholds)

end

/-- Gates on different qubits have nothing to do with each other. -/
theorem apart_of_nodup {g g' : Gate} {qubits qubits' : List Nat}
    (hdistinct : (qubits ++ qubits').Nodup) :
    Apart (controlsHold (Machine.gateControls g qubits)) (qubits.drop g.controlCount)
      (controlsHold (Machine.gateControls g' qubits')) (qubits'.drop g'.controlCount) := by
  obtain ⟨_, _, hdisjoint⟩ := List.nodup_append'.mp hdistinct
  refine ⟨fun q hq hq' => ?_, ignores_gateControls fun q hq hq' => ?_,
    ignores_gateControls fun q hq hq' => ?_⟩
  · exact hdisjoint (List.mem_of_mem_drop hq) (List.mem_of_mem_drop hq')
  · exact hdisjoint (List.mem_of_mem_take hq) (List.mem_of_mem_drop hq')
  · exact hdisjoint (List.mem_of_mem_drop hq') (List.mem_of_mem_take hq)

end Simulation

def Operator.map {K L : Type} (f : K → L) (U : Operator K) : Operator L :=
  ⟨U.rows.map fun row => row.map f⟩

theorem Operator.isSquare_map {K L : Type} (f : K → L) {U : Operator K} {size : Nat}
    (h : U.isSquare size = true) : (U.map f).isSquare size = true := by
  unfold isSquare at h
  simpa [isSquare, map, Function.comp_def] using h

namespace Amplitude

attribute [ext] Amplitude

noncomputable instance (priority := low) : CommRing (Amplitude ℝ) where
  add_assoc a b c := by ext <;> simp only [add_re, add_im] <;> ring
  zero_add := Amplitude.zero_add
  add_zero := Amplitude.add_zero
  add_comm a b := by ext <;> simp only [add_re, add_im] <;> ring
  left_distrib a b c := by ext <;> simp only [add_re, add_im, mul_re, mul_im] <;> ring
  right_distrib a b c := by ext <;> simp only [add_re, add_im, mul_re, mul_im] <;> ring
  zero_mul := Amplitude.zero_mul
  mul_zero := Amplitude.mul_zero
  mul_assoc a b c := by ext <;> simp only [mul_re, mul_im] <;> ring
  one_mul a := by ext <;> simp
  mul_one a := by ext <;> simp
  mul_comm a b := by ext <;> simp only [mul_re, mul_im] <;> ring
  neg_add_cancel a := by ext <;> simp
  nsmul := nsmulRec
  zsmul := zsmulRec

end Amplitude

namespace Gate

open Simulation

variable {K : Type} [CommRing K] {n : Nat} {g g' : Gate} {qubits qubits' : List Nat}

/-- Matrices of the sizes of two gates, applied as these gates to different qubits, commute. -/
theorem transform_comm {U U' : Operator K} (hsquare : U.isSquare (Nat.pow 2 g.targetCount) = true)
    (hsquare' : U'.isSquare (Nat.pow 2 g'.targetCount) = true)
    (hqubits : qubits.length = g.qubitCount) (hqubits' : qubits'.length = g'.qubitCount)
    (hdistinct : (qubits ++ qubits').Nodup) (hrange : ∀ q ∈ qubits ++ qubits', q < n)
    {v : Array K} (hsize : v.size = Nat.pow 2 n) :
    ∃ w, (g.transform n (qubits.map Int.ofNat) U v >>=
          g'.transform n (qubits'.map Int.ofNat) U') = .ok w ∧
      (g'.transform n (qubits'.map Int.ofNat) U' v >>=
          g.transform n (qubits.map Int.ofNat) U) = .ok w := by
  obtain ⟨hnodup, hnodup', _⟩ := List.nodup_append'.mp hdistinct
  obtain ⟨hlt, hlt'⟩ := List.forall_mem_append.mp hrange
  have hfirst {v : Array K} (hsize : v.size = Nat.pow 2 n) :=
    transform_eq hqubits hnodup hlt hsquare hsize
  have hsecond {v : Array K} (hsize : v.size = Nat.pow 2 n) :=
    transform_eq hqubits' hnodup' hlt' hsquare' hsize
  have hcomm := applyWhere_comm (apart_of_nodup hdistinct)
    (by rwa [length_drop_controls hqubits]) (by rwa [length_drop_controls hqubits'])
    (fun t ht => hlt t (List.mem_of_mem_drop ht)) (fun t ht => hlt' t (List.mem_of_mem_drop ht))
    hsize
  refine ⟨applyWhere (controlsHold (Machine.gateControls g' qubits')) U'
    (qubits'.drop g'.controlCount)
      (applyWhere (controlsHold (Machine.gateControls g qubits)) U (qubits.drop g.controlCount) v),
    ?_, ?_⟩
  · rw [hfirst hsize]
    exact hsecond (by rw [size_applyWhere, hsize])
  · rw [hsecond hsize, ← hcomm]
    exact hfirst (by rw [size_applyWhere, hsize])

/-- Any two gates of the table, with any parameters, commute on different qubits before the state is
normalised, in whatever commutative ring their entries and those of the state are read. -/
theorem disjoint_gates_commute (entry : Amplitude ℝ → K) {parameters parameters' : List ℝ}
    (hparameters : parameters.length = g.parameterCount)
    (hparameters' : parameters'.length = g'.parameterCount)
    (hqubits : qubits.length = g.qubitCount) (hqubits' : qubits'.length = g'.qubitCount)
    (hdistinct : (qubits ++ qubits').Nodup) (hrange : ∀ q ∈ qubits ++ qubits', q < n)
    {v : Array K} (hsize : v.size = Nat.pow 2 n) :
    ∃ U U' w, g.operator parameters = .ok U ∧ g'.operator parameters' = .ok U' ∧
      (g.transform n (qubits.map Int.ofNat) (U.map entry) v >>=
        g'.transform n (qubits'.map Int.ofNat) (U'.map entry)) = .ok w ∧
      (g'.transform n (qubits'.map Int.ofNat) (U'.map entry) v >>=
        g.transform n (qubits.map Int.ofNat) (U.map entry)) = .ok w := by
  obtain ⟨U, hU⟩ := operator_exists hparameters (fun _ _ => rfl) rfl
  obtain ⟨U', hU'⟩ := operator_exists hparameters' (fun _ _ => rfl) rfl
  obtain ⟨w, hw, hw'⟩ := transform_comm (Operator.isSquare_map entry (operator_isSquare hU))
    (Operator.isSquare_map entry (operator_isSquare hU')) hqubits hqubits' hdistinct hrange hsize
  exact ⟨U, U', w, hU, hU', hw, hw'⟩

/-- A controlled rotation and an exchange of the qubits on both sides of its target, over a state
with complex amplitudes. -/
theorem rotation_exchange_commute :
    ∃ U U' w, cry.operator [(1 : ℝ)] = .ok U ∧ swap.operator ([] : List ℝ) = .ok U' ∧
      (cry.transform 4 ([3, 1].map Int.ofNat) (U.map fun a => a)
          (Array.replicate 16 (1 : Amplitude ℝ)) >>=
        swap.transform 4 ([2, 0].map Int.ofNat) (U'.map fun a => a)) = .ok w ∧
      (swap.transform 4 ([2, 0].map Int.ofNat) (U'.map fun a => a)
          (Array.replicate 16 (1 : Amplitude ℝ)) >>=
        cry.transform 4 ([3, 1].map Int.ofNat) (U.map fun a => a)) = .ok w :=
  disjoint_gates_commute (fun a => a) rfl rfl rfl rfl (by decide) (by decide) rfl

end Gate

end CircuitConsole
