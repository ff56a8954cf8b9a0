import CircuitConsole.Proofs.Simulation.BooleanProgram

/-!
Machines that follow a Boolean program. The vector is the basis vector whose index has the values of
the qubits as its digits. Each classical gate permutes the digits of its targets, a measurement
finds the value of its qubit, and a condition reads the values of its bits, so that every operation
keeps the machine in step with the program.
-/

namespace CircuitConsole.Simulation

/-- Negation of a single digit. -/
theorem exchanges_negation : Exchanges 1 fun r => 1 - r where
  lt := by decide
  twice := by decide

/-- Exchange of two digits. -/
theorem exchanges_swap : Exchanges 2 fun r => r / 2 + 2 * (r % 2) where
  lt := by decide
  twice := by decide

theorem exchanges_id (digits : Nat) : Exchanges digits fun r => r :=
  ⟨fun _ h => h, fun _ _ => rfl⟩

section

variable {R : Type} [Scalar R]

theorem permutes_flip : Permutes (Gate.flip : Operator (Amplitude R)) 1 fun r => 1 - r := by
  intro r hr
  have hr : r = 0 ∨ r = 1 := by
    change r < 2 at hr
    omega
  rcases hr with rfl | rfl <;> rfl

theorem permutes_exchange :
    Permutes (Gate.exchange 1 : Operator (Amplitude R)) 2 fun r => r / 2 + 2 * (r % 2) := by
  intro r hr
  have hr : r = 0 ∨ r = 1 ∨ r = 2 ∨ r = 3 := by
    change r < 4 at hr
    omega
  rcases hr with rfl | rfl | rfl | rfl <;> rfl

theorem permutes_id : Permutes (⟨[[1, 0], [0, 1]]⟩ : Operator (Amplitude R)) 1 fun r => r := by
  intro r hr
  have hr : r = 0 ∨ r = 1 := by
    change r < 2 at hr
    omega
  rcases hr with rfl | rfl <;> rfl

end

theorem placeBits_negation (t i : Nat) :
    placeBits [t] (1 - pickBits [t] i) i = writeBit i t (!i.testBit t) := by
  cases h : i.testBit t <;> simp [placeBits, pickBits, h]

theorem placeBits_swap (a b i : Nat) :
    placeBits [a, b] (pickBits [a, b] i / 2 + 2 * (pickBits [a, b] i % 2)) i =
      writeBit (writeBit i a (i.testBit b)) b (i.testBit a) := by
  cases ha : i.testBit a <;> cases hb : i.testBit b <;> simp [placeBits, pickBits, ha, hb]

theorem testBit_negation (holds : Nat → Bool) (t i j : Nat) :
    (permuteIndex holds [t] (fun r => 1 - r) i).testBit j =
      if holds i then if j = t then !i.testBit t else i.testBit j else i.testBit j := by
  unfold permuteIndex
  cases holds i with
  | false => rfl
  | true =>
    simp only [if_true]
    rw [placeBits_negation, testBit_writeBit]

theorem testBit_swap (holds : Nat → Bool) (a b i j : Nat) :
    (permuteIndex holds [a, b] (fun r => r / 2 + 2 * (r % 2)) i).testBit j =
      if holds i then
        if j = b then i.testBit a else if j = a then i.testBit b else i.testBit j
      else i.testBit j := by
  unfold permuteIndex
  cases holds i with
  | false => rfl
  | true =>
    simp only [if_true]
    rw [placeBits_swap, testBit_writeBit, testBit_writeBit]

theorem permuteIndex_id (holds : Nat → Bool) (t i : Nat) :
    permuteIndex holds [t] (fun r => r) i = i := by
  unfold permuteIndex
  rw [placeBits_pickBits (List.nodup_singleton t), ite_self]

namespace Machine

variable {R : Type} [Scalar R] [ExactUnits R]

/-- A machine in step with a Boolean program: its index has the digits that the qubits have as
values, and its classical bits have the values of the bits. -/
structure Represents (m : Machine R) (s : Bits) : Prop where
  vector : ∃ k, k < Nat.pow 2 m.width ∧ m.vector = basis (Nat.pow 2 m.width) k ∧
    ∀ q, q < m.width → k.testBit q = s.qubit q
  bits : m.bits = (List.range m.bits.length).map s.bit

omit [ExactUnits R] in
theorem start_represents (width bits drawn : Nat) :
    Represents (start width bits drawn : Machine R) .zero where
  vector := ⟨0, Nat.two_pow_pos width, zeroVector_eq width, fun q _ => Nat.zero_testBit q⟩
  bits := by simp [start, Bits.zero]

/-- A gate that permutes digits keeps a machine in step with what it makes of the values. -/
theorem applyGate_represents {m : Machine R} {s s' : Bits} (hm : m.Represents s) {g : Gate}
    {qubits : List Nat} {U : Operator (Amplitude R)} {f : Nat → Nat}
    (hU : g.operator [] = .ok U) (hpermutes : Permutes U g.targetCount f)
    (hf : Exchanges g.targetCount f) (hcount : qubits.length = g.qubitCount)
    (hdistinct : qubits.Nodup) (hrange : ∀ q ∈ qubits, q < m.width) (hbit : s'.bit = s.bit)
    (hqubit : ∀ k : Nat, (∀ q, q < m.width → k.testBit q = s.qubit q) → ∀ q, q < m.width →
      (permuteIndex (controlsHold (gateControls g qubits)) (qubits.drop g.controlCount) f k).testBit
        q = s'.qubit q) :
    ∃ m', m.applyGate g [] (qubits.map Int.ofNat) = .ok m' ∧ m'.Represents s' := by
  obtain ⟨k, hk, hvector, hdigits⟩ := hm.vector
  have htargets := Gate.length_drop_controls hcount
  have hsub : (qubits.drop g.controlCount).Sublist qubits := List.drop_sublist _ _
  have hlt := @permuteIndex_lt (controlsHold (gateControls g qubits)) _ f m.width
    (fun t ht => hrange t (hsub.subset ht)) k hk
  have hwhole : m.Whole := by
    rw [Whole, hvector, size_basis]
  refine ⟨_, applyGate_eq hwhole hU hcount hdistinct hrange, ⟨_, hlt, ?_, hqubit k hdigits⟩, ?_⟩
  · change normalise (applyWhere _ U _ m.vector) = _
    rw [← htargets] at hpermutes hf
    rw [hvector, applyWhere_basis hpermutes hf (hdistinct.sublist hsub)
      (ignores_gateControls (control_notMem_targets hdistinct)) hk]
    exact normalise_basis hlt
  · rw [hbit]
    exact hm.bits

omit [Scalar R] [ExactUnits R] in
/-- The controls of a gate hold at an index when the values of all of them are one. -/
theorem controlsHold_append {m : Machine R} {s : Bits} {g : Gate} {controls targets : List Nat}
    (hcount : controls.length = g.controlCount) (hrange : ∀ q ∈ controls ++ targets, q < m.width)
    {k : Nat} (hk : ∀ q, q < m.width → k.testBit q = s.qubit q) :
    controlsHold (gateControls g (controls ++ targets)) k = controls.all s.qubit := by
  rw [gateControls, List.take_left' hcount, Bool.eq_iff_iff]
  simp only [controlsHold, List.all_map, List.all_eq_true, Function.comp_apply, beq_true]
  constructor
  · intro h q hq
    rw [← hk q (hrange q (List.mem_append_left _ hq))]
    exact h q hq
  · intro h q hq
    rw [hk q (hrange q (List.mem_append_left _ hq))]
    exact h q hq

/-- A gate that flips its target negates the value, if all its controls are one. -/
theorem negation_represents {m : Machine R} {s : Bits} (hm : m.Represents s) {g : Gate}
    {controls : List Nat} {t : Nat}
    (hU : g.operator [] = .ok (Gate.flip : Operator (Amplitude R)))
    (htarget : g.targetCount = 1) (hcount : controls.length = g.controlCount)
    (hdistinct : (controls ++ [t]).Nodup) (hrange : ∀ q ∈ controls ++ [t], q < m.width) :
    ∃ m', m.applyGate g [] ((controls ++ [t]).map Int.ofNat) = .ok m' ∧
      m'.Represents (if controls.all s.qubit then s.negate t else s) := by
  have hlength : (controls ++ [t]).length = g.qubitCount := by
    rw [List.length_append, hcount, Gate.qubitCount, htarget]
    rfl
  have ht : t < m.width := hrange t (by simp)
  refine @applyGate_represents R _ _ m s _ hm g _ _ (fun r => 1 - r) hU
    (by rw [htarget]; exact permutes_flip) (by rw [htarget]; exact exchanges_negation)
    hlength hdistinct hrange ?_ fun k hk j hj => ?_
  · split <;> rfl
  · rw [List.drop_left' hcount, testBit_negation, controlsHold_append hcount hrange hk, hk t ht,
      hk j hj]
    split <;> rfl

/-- A gate that exchanges its targets exchanges their values, if all its controls are one. -/
theorem exchange_represents {m : Machine R} {s : Bits} (hm : m.Represents s) {g : Gate}
    {controls : List Nat} {a b : Nat}
    (hU : g.operator [] = .ok (Gate.exchange 1 : Operator (Amplitude R)))
    (htarget : g.targetCount = 2) (hcount : controls.length = g.controlCount)
    (hdistinct : (controls ++ [a, b]).Nodup) (hrange : ∀ q ∈ controls ++ [a, b], q < m.width) :
    ∃ m', m.applyGate g [] ((controls ++ [a, b]).map Int.ofNat) = .ok m' ∧
      m'.Represents (if controls.all s.qubit then s.exchange a b else s) := by
  have hlength : (controls ++ [a, b]).length = g.qubitCount := by
    rw [List.length_append, hcount, Gate.qubitCount, htarget]
    rfl
  have ha : a < m.width := hrange a (by simp)
  have hb : b < m.width := hrange b (by simp)
  refine @applyGate_represents R _ _ m s _ hm g _ _ (fun r => r / 2 + 2 * (r % 2)) hU
    (by rw [htarget]; exact permutes_exchange) (by rw [htarget]; exact exchanges_swap)
    hlength hdistinct hrange ?_ fun k hk j hj => ?_
  · split <;> rfl
  · rw [List.drop_left' hcount, testBit_swap, controlsHold_append hcount hrange hk, hk a ha,
      hk b hb, hk j hj]
    split <;> rfl

/-- The identity keeps all values. -/
theorem identity_represents {m : Machine R} {s : Bits} (hm : m.Represents s) {q : Nat}
    (hq : q < m.width) : ∃ m', m.applyGate .id [] [Int.ofNat q] = .ok m' ∧ m'.Represents s := by
  refine @applyGate_represents R _ _ m s s hm .id [q] _ _ rfl permutes_id (exchanges_id 1) rfl
    (List.nodup_singleton q) (by simpa using hq) rfl fun k hk j hj => ?_
  change (permuteIndex _ [q] _ k).testBit j = _
  rw [permuteIndex_id]
  exact hk j hj

/-- Each classical gate does to the machine what it does to the values. -/
theorem gate_represents {m : Machine R} {s : Bits} (hm : m.Represents s) {g : Gate}
    {qubits : List Nat} (hclassical : g.isClassical = true) (hcount : qubits.length = g.qubitCount)
    (hdistinct : qubits.Nodup) (hrange : ∀ q ∈ qubits, q < m.width) :
    ∃ m', m.applyGate g [] (qubits.map Int.ofNat) = .ok m' ∧ m'.Represents (s.gate g qubits) := by
  cases g with
  | id =>
    obtain ⟨q, rfl⟩ := List.length_eq_one_iff.mp hcount
    exact identity_represents hm (hrange q (by simp))
  | x =>
    obtain ⟨q, rfl⟩ := List.length_eq_one_iff.mp hcount
    exact @negation_represents R _ _ m s hm .x [] q rfl rfl rfl hdistinct hrange
  | cx =>
    obtain ⟨c, t, rfl⟩ := List.length_eq_two.mp hcount
    have h := @negation_represents R _ _ m s hm .cx [c] t rfl rfl rfl hdistinct hrange
    simpa [Bits.gate] using h
  | CX =>
    obtain ⟨c, t, rfl⟩ := List.length_eq_two.mp hcount
    have h := @negation_represents R _ _ m s hm .CX [c] t rfl rfl rfl hdistinct hrange
    simpa [Bits.gate] using h
  | ccx =>
    obtain ⟨c, d, t, rfl⟩ := List.length_eq_three.mp hcount
    have h := @negation_represents R _ _ m s hm .ccx [c, d] t rfl rfl rfl hdistinct hrange
    simpa [Bits.gate] using h
  | swap =>
    obtain ⟨a, b, rfl⟩ := List.length_eq_two.mp hcount
    exact @exchange_represents R _ _ m s hm .swap [] a b rfl rfl rfl hdistinct hrange
  | cswap =>
    obtain ⟨c, a, b, rfl⟩ := List.length_eq_three.mp hcount
    have h := @exchange_represents R _ _ m s hm .cswap [c] a b rfl rfl rfl hdistinct hrange
    simpa [Bits.gate] using h
  | _ => contradiction

/-- What a machine in step finds when it measures: the value of the qubit. -/
theorem outcome_eq {draws : Draws R} (hdraws : ∀ n, Scalar.less (draws n) 0 = false ∧
    Scalar.less (draws n) 1 = true) {m : Machine R} {s : Bits} (hm : m.Represents s) {q : Nat}
    (hq : q < m.width) : m.outcome draws q = s.qubit q := by
  obtain ⟨k, hk, hvector, hdigits⟩ := hm.vector
  rw [outcome, hvector, oneProbability_basis hk, hdigits q hq]
  cases s.qubit q with
  | false => exact (hdraws _).1
  | true => exact (hdraws _).2

/-- A measurement that finds the value of its qubit changes no value. -/
theorem collapse_represents {m : Machine R} {s : Bits} (hm : m.Represents s) {q : Nat}
    (hq : q < m.width) : (m.collapse q (s.qubit q)).Represents s := by
  obtain ⟨k, hk, hvector, hdigits⟩ := hm.vector
  refine ⟨⟨k, hk, ?_, hdigits⟩, hm.bits⟩
  change normalise (project m.vector q _) = _
  rw [hvector, project_basis (hdigits q hq)]
  exact normalise_basis hk

omit [ExactUnits R] in
theorem writeBit_represents {m : Machine R} {s : Bits} (hm : m.Represents s) (b : Nat)
    (value : Bool) : (m.writeBit (b : Int) value).Represents (s.setBit b value) := by
  rw [writeBit_natCast]
  refine ⟨hm.vector, ?_⟩
  refine List.ext_getElem (by simp) fun j hj hj' => ?_
  have hlt : j < m.bits.length := by simpa using hj
  have hold : m.bits[j] = s.bit j := by
    have h := List.getElem_of_eq hm.bits hlt
    simpa using h
  by_cases hb : b = j
  · simp [hb, Bits.setBit]
  · simp [hb, Ne.symm hb, Bits.setBit, hold]

/-- A reset makes the value of its qubit zero. -/
theorem reset_represents {draws : Draws R} (hdraws : ∀ n, Scalar.less (draws n) 0 = false ∧
    Scalar.less (draws n) 1 = true) {m : Machine R} {s : Bits} (hm : m.Represents s) {q : Nat}
    (hq : q < m.width) :
    ∃ m', m.reset draws q = .ok m' ∧ m'.Represents (s.setQubit q false) := by
  have hcollapse := collapse_represents hm hq
  unfold reset
  rw [measure_eq draws hq, outcome_eq hdraws hm hq]
  change ∃ m', (if s.qubit q then
    (m.collapse q (s.qubit q)).applyGate .x [] [Int.ofNat q] else .ok (m.collapse q (s.qubit q))) =
      .ok m' ∧ _
  cases hvalue : s.qubit q with
  | false =>
    have hsame : s.setQubit q false = s := by
      unfold Bits.setQubit
      congr 1
      funext j
      by_cases hj : j = q
      · simp [hj, hvalue]
      · simp [hj]
    rw [hvalue] at hcollapse
    refine ⟨_, rfl, ?_⟩
    rw [hsame]
    exact hcollapse
  | true =>
    rw [hvalue] at hcollapse
    have h := @negation_represents R _ _ _ s hcollapse .x [] q rfl rfl rfl
      (List.nodup_singleton q) (by simpa [collapse] using hq)
    simpa [Bits.negate, hvalue] using h

/-- An operation that fits keeps the machine in step, with any random numbers. -/
theorem perform_represents {draws : Draws R} (hdraws : ∀ n, Scalar.less (draws n) 0 = false ∧
    Scalar.less (draws n) 1 = true) {m : Machine R} {s : Bits} (hm : m.Represents s)
    {i : Instruction R} {bits : Nat} (hclassical : i.isClassical = true)
    (hfits : i.FitsIn m.width bits) :
    ∃ m', m.perform draws i = .ok m' ∧ m'.Represents (s.perform i) := by
  cases hfits with
  | gate g parameters qubits hparameters hqubits hdistinct hrange =>
    obtain rfl : parameters = [] := by
      refine List.eq_nil_of_length_eq_zero (hparameters.trans ?_)
      cases g <;> first
        | rfl
        | contradiction
    exact gate_represents hm hclassical hqubits hdistinct hrange
  | measure q b hq hb =>
    refine ⟨_, map_eq_ok.mpr ⟨_, measure_eq draws hq _, rfl⟩, ?_⟩
    dsimp only
    rw [outcome_eq hdraws hm hq]
    exact writeBit_represents (collapse_represents hm hq) b _
  | reset q hq =>
    exact reset_represents hdraws hm hq

structure Follows (width bits : Nat) (op : Operation R) : Prop where
  classical : op.instruction.isClassical = true
  fits : op.instruction.FitsIn width bits
  condition : ∀ c ∈ op.condition, c.offset + c.size ≤ bits

theorem step_represents {draws : Draws R} (hdraws : ∀ n, Scalar.less (draws n) 0 = false ∧
    Scalar.less (draws n) 1 = true) {m : Machine R} {s : Bits} (hm : m.Represents s)
    {op : Operation R} (hop : Follows m.width m.bits.length op) :
    ∃ m', m.step draws op = .ok m' ∧ m'.Represents (s.step op) := by
  unfold step Bits.step
  cases hcondition : op.condition with
  | none => exact perform_represents hdraws hm hop.classical hop.fits
  | some c =>
    have hholds := @Condition.holds_iff c m.bits.length s.bit (hop.condition c hcondition)
    rw [← hm.bits] at hholds
    dsimp only
    by_cases hc : c.holds m.bits = true
    · rw [if_pos hc, if_pos (hholds.mp hc)]
      exact perform_represents hdraws hm hop.classical hop.fits
    · rw [if_neg hc, if_neg (mt hholds.mpr hc)]
      exact ⟨m, rfl, hm⟩

/-- Classical operations that fit are carried out to the last, in step with the program. -/
theorem run_represents {draws : Draws R} (hdraws : ∀ n, Scalar.less (draws n) 0 = false ∧
    Scalar.less (draws n) 1 = true) {m : Machine R} {s : Bits} (hm : m.Represents s)
    {ops : List (Operation R)} (hops : ∀ op ∈ ops, Follows m.width m.bits.length op) :
    ∃ m', m.run draws ops = (m', none) ∧ m'.Represents (s.run ops) := by
  induction ops generalizing m s with
  | nil => exact ⟨m, rfl, hm⟩
  | cons op ops ih =>
    obtain ⟨m₁, hstep, hm₁⟩ := step_represents hdraws hm (hops op (List.mem_cons_self ..))
    have hshape := step_sameShape hstep
    obtain ⟨m', hrun, hm'⟩ := ih hm₁ fun op hop => by
      rw [hshape.width, hshape.length]
      exact hops op (List.mem_cons_of_mem _ hop)
    refine ⟨m', ?_, hm'⟩
    unfold run
    rw [hstep]
    exact hrun

end Machine

/-- An index is known by the values of its qubits. -/
theorem eq_number {width k : Nat} (hk : k < Nat.pow 2 width) {value : Nat → Bool}
    (h : ∀ q, q < width → k.testBit q = value q) : k = number width value := by
  refine Nat.eq_of_testBit_eq fun q => ?_
  by_cases hq : q < width
  · rw [h q hq, testBit_number width value hq]
  · have hpow : Nat.pow 2 width ≤ Nat.pow 2 q := Nat.pow_le_pow_right (by omega) (by omega)
    rw [Nat.testBit_lt_two_pow (Nat.lt_of_lt_of_le hk hpow),
      Nat.testBit_lt_two_pow (Nat.lt_of_lt_of_le (number_lt width value) hpow)]

/-- A circuit of classical operations that fit leaves the basis vector whose index the values of
the qubits spell, and the values of the bits. -/
theorem execute_classical {R : Type} [Scalar R] [ExactUnits R] {draws : Draws R}
    (hdraws : ∀ n, Scalar.less (draws n) 0 = false ∧ Scalar.less (draws n) 1 = true) (drawn : Nat)
    {c : Circuit R} {room : Capacity} (hqubits : c.qubits ≤ maxQubits) (hbits : c.bits ≤ room.row)
    (hops : ∀ op ∈ c.operations, Machine.Follows c.qubits c.bits op) :
    (c.execute draws drawn room).2 = .ok
      ⟨basis (Nat.pow 2 c.qubits) (number c.qubits (Bits.zero.run c.operations).qubit),
        (List.range c.bits).map (Bits.zero.run c.operations).bit⟩ := by
  have hlength : (Machine.start c.qubits c.bits drawn : Machine R).bits.length = c.bits :=
    List.length_replicate
  have hops' : ∀ op ∈ c.operations,
      Machine.Follows (Machine.start c.qubits c.bits drawn : Machine R).width
        (Machine.start c.qubits c.bits drawn : Machine R).bits.length op := by
    rw [hlength]
    exact hops
  obtain ⟨m, hrun, hm⟩ := Machine.run_represents hdraws
    (Machine.start_represents c.qubits c.bits drawn) hops'
  have hshape := Machine.run_sameShape draws (Machine.start c.qubits c.bits drawn) c.operations
  rw [hrun] at hshape
  obtain ⟨k, hk, hvector, hdigits⟩ := hm.vector
  have hwidth : m.width = c.qubits := hshape.width
  rw [hwidth] at hk hvector hdigits
  rw [Circuit.execute_of_run hqubits hbits hrun, hvector, hm.bits, hshape.length, hlength,
    eq_number hk hdigits]

end CircuitConsole.Simulation
