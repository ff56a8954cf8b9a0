import CircuitConsole.Proofs.Simulation.Application
import CircuitConsole.Proofs.Statement.Expansion

/-!
Random numbers taken by a run. A measurement takes one, and so does a reset, since it measures; if
they stand under a condition that does not hold when they are reached, they take none, and no gate
ever does. What is taken is the next number, so that a run takes its numbers in the order of its
operations, leaves out none in between, and looks at no other. If a gate fails, what was taken
before stays taken.
-/

namespace CircuitConsole

open Simulation

variable {R : Type}

def Instruction.isRandom : Instruction R → Bool
  | .measure _ _ | .reset _ => true
  | .gate _ _ _ => false

def Operation.drawsOn (bits : List Bool) (op : Operation R) : Bool :=
  op.instruction.isRandom && op.condition.all (·.holds bits)

namespace Simulation.Machine

variable [Scalar R] {draws draws' : Draws R} {m m' : Machine R}

/-- The operations that a run reaches, the last of them possibly failing, each with the machine that
it is reached with. -/
def reached (draws : Draws R) : Machine R → List (Operation R) → List (Machine R × Operation R)
  | _, [] => []
  | m, op :: ops =>
    (m, op) :: match m.step draws op with
      | .ok m' => reached draws m' ops
      | .error _ => []

def takes (r : Machine R × Operation R) : Bool := r.2.drawsOn r.1.bits

def taken (draws : Draws R) (m : Machine R) (ops : List (Operation R)) : Nat :=
  (m.reached draws ops).countP takes

section Steps

theorem step_of_all {op : Operation R} (h : op.condition.all (·.holds m.bits) = true) :
    m.step draws op = m.perform draws op.instruction := by
  obtain ⟨i, condition⟩ := op
  cases condition with
  | none => rfl
  | some c => exact if_pos h

theorem step_of_not_all {op : Operation R} (h : op.condition.all (·.holds m.bits) = false) :
    m.step draws op = .ok m := by
  obtain ⟨i, condition⟩ := op
  cases condition with
  | none => cases h
  | some c => exact if_neg (Bool.eq_false_iff.mp h)

/-- A measurement and a reset of a qubit that there is take the next random number, and look at no
other. -/
theorem perform_random (draws : Draws R) {i : Instruction R} {bits : Nat} (hwhole : m.Whole)
    (hfits : i.FitsIn m.width bits) (hrandom : i.isRandom = true) :
    ∃ m', m.perform draws i = .ok m' ∧ m'.drawn = m.drawn + 1 ∧
      ∀ draws' : Draws R, draws' m.drawn = draws m.drawn → m.perform draws' i = .ok m' := by
  have houtcome {draws' : Draws R} (h : draws' m.drawn = draws m.drawn) (q : Nat) :
      m.outcome draws' q = m.outcome draws q := by rw [outcome, outcome, h]
  cases hfits with
  | gate => cases hrandom
  | measure qubit bit hqubit hbit =>
    have hmeasure (draws : Draws R) : m.perform draws (.measure qubit bit) =
        .ok ((m.collapse qubit (m.outcome draws qubit)).writeBit bit (m.outcome draws qubit)) := by
      rw [perform, measure_eq draws hqubit]
      rfl
    refine ⟨_, hmeasure draws, ?_, fun draws' h => ?_⟩
    · rw [writeBit_natCast]
      rfl
    · rw [hmeasure draws', houtcome h]
  | reset qubit hqubit =>
    refine ⟨_, reset_eq draws hwhole hqubit, ?_, fun draws' h => ?_⟩
    · split <;> rfl
    · rw [perform, reset_eq draws' hwhole hqubit, houtcome h]

/-- A gate looks at no random number. -/
theorem perform_gate_congr (draws draws' : Draws R) {i : Instruction R}
    (hrandom : i.isRandom = false) : m.perform draws' i = m.perform draws i := by
  cases i with
  | measure | reset => cases hrandom
  | gate g parameters qubits => rfl

/-- A gate takes no random number. -/
theorem perform_gate_drawn {i : Instruction R} (hrandom : i.isRandom = false)
    (h : m.perform draws i = .ok m') : m'.drawn = m.drawn := by
  cases i with
  | measure | reset => cases hrandom
  | gate g parameters qubits =>
    obtain ⟨v, -, rfl⟩ := applyGate_vector h
    rfl

/-- What takes a random number is carried out with the next one, whatever the others are. -/
theorem step_taking (draws : Draws R) {op : Operation R} {bits : Nat} (hwhole : m.Whole)
    (hfits : op.instruction.FitsIn m.width bits) (htakes : takes (m, op) = true) :
    ∃ m', m.step draws op = .ok m' ∧ m'.drawn = m.drawn + 1 ∧
      ∀ draws' : Draws R, draws' m.drawn = draws m.drawn → m.step draws' op = .ok m' := by
  obtain ⟨hrandom, hholds⟩ := Bool.and_eq_true_iff.mp htakes
  obtain ⟨m', hperform, hdrawn, hsame⟩ := perform_random draws hwhole hfits hrandom
  refine ⟨m', (step_of_all hholds).trans hperform, hdrawn, fun draws' h => ?_⟩
  exact (step_of_all hholds).trans (hsame draws' h)

omit [Scalar R] in
theorem isRandom_of_holds {op : Operation R} (htakes : takes (m, op) = false)
    (hholds : op.condition.all (·.holds m.bits) = true) : op.instruction.isRandom = false := by
  simpa [takes, Operation.drawsOn, hholds] using htakes

/-- What takes no random number does not depend on any. -/
theorem step_quiet_congr (draws draws' : Draws R) {op : Operation R}
    (htakes : takes (m, op) = false) : m.step draws' op = m.step draws op := by
  cases hholds : op.condition.all (·.holds m.bits) with
  | false => rw [step_of_not_all hholds, step_of_not_all hholds]
  | true =>
    rw [step_of_all hholds, step_of_all hholds]
    exact perform_gate_congr draws draws' (isRandom_of_holds htakes hholds)

theorem step_quiet_drawn {op : Operation R} (htakes : takes (m, op) = false)
    (h : m.step draws op = .ok m') : m'.drawn = m.drawn := by
  cases hholds : op.condition.all (·.holds m.bits) with
  | false =>
    rw [step_of_not_all hholds] at h
    exact congrArg drawn (Except.ok.inj h).symm
  | true =>
    rw [step_of_all hholds] at h
    exact perform_gate_drawn (isRandom_of_holds htakes hholds) h

end Steps

section Runs

variable {bits : Nat}

structure Ready (m : Machine R) (bits : Nat) (ops : List (Operation R)) : Prop where
  whole : m.Whole
  fits : ∀ op ∈ ops, op.instruction.FitsIn m.width bits

theorem Ready.next {op : Operation R} {ops : List (Operation R)} (h : m.Ready bits (op :: ops))
    (hstep : m.step draws op = .ok m') : m'.Ready bits ops := by
  have hshape := step_sameShape hstep
  refine ⟨hshape.whole h.whole, fun op' hop' => ?_⟩
  rw [hshape.width]
  exact h.fits op' (List.mem_cons_of_mem op hop')

theorem taken_cons (draws : Draws R) (m : Machine R) (op : Operation R)
    (ops : List (Operation R)) :
    m.taken draws (op :: ops) = (takes (m, op)).toNat + match m.step draws op with
      | .ok m' => m'.taken draws ops
      | .error _ => 0 := by
  unfold taken
  rw [reached, List.countP_cons, Nat.add_comm]
  congr 1
  · cases takes (m, op) <;> rfl
  · cases m.step draws op <;> rfl

/-- A run takes as many random numbers as there are measurements and resets reached whose conditions
hold. -/
theorem run_drawn {ops : List (Operation R)} (h : m.Ready bits ops) :
    (m.run draws ops).1.drawn = m.drawn + m.taken draws ops := by
  induction ops generalizing m with
  | nil => rfl
  | cons op ops ih =>
    rw [run, taken_cons]
    cases htakes : takes (m, op) with
    | true =>
      obtain ⟨m', hstep, hdrawn, -⟩ := step_taking draws h.whole
        (h.fits op (List.mem_cons_self ..)) htakes
      simp only [hstep]
      rw [ih (h.next hstep), hdrawn, Bool.toNat_true, Nat.add_assoc]
    | false =>
      cases hstep : m.step draws op with
      | error fault => simp
      | ok m' =>
        have hdrawn := step_quiet_drawn htakes hstep
        simp only
        rw [ih (h.next hstep), hdrawn, Bool.toNat_false, Nat.zero_add]

/-- When an operation is reached, the random numbers are taken of those before it, and no more. -/
theorem reached_drawn {ops : List (Operation R)} (h : m.Ready bits ops)
    {before after : List (Machine R × Operation R)} {r : Machine R × Operation R}
    (hreached : m.reached draws ops = before ++ r :: after) :
    r.1.drawn = m.drawn + before.countP takes := by
  induction ops generalizing m before with
  | nil => simp [reached] at hreached
  | cons op ops ih =>
    rw [reached] at hreached
    cases before with
    | nil =>
      obtain rfl := (List.cons.inj hreached).1
      rfl
    | cons first before =>
      obtain ⟨rfl, hrest⟩ := List.cons.inj hreached
      cases hstep : m.step draws op with
      | error fault => simp [hstep] at hrest
      | ok m' =>
        simp only [hstep] at hrest
        rw [ih (h.next hstep) hrest, List.countP_cons]
        cases htakes : takes (m, op) with
        | true =>
          obtain ⟨_, hstep', hdrawn, -⟩ := step_taking draws h.whole
            (h.fits op (List.mem_cons_self ..)) htakes
          obtain rfl := Except.ok.inj (hstep.symm.trans hstep')
          rw [hdrawn, if_pos rfl]
          omega
        | false =>
          rw [step_quiet_drawn htakes hstep]
          simp

/-- Whatever is reached fits the machine that it is reached with. -/
theorem reached_ready {ops : List (Operation R)} (h : m.Ready bits ops)
    {r : Machine R × Operation R} (hr : r ∈ m.reached draws ops) :
    r.1.Whole ∧ r.2.instruction.FitsIn r.1.width bits := by
  induction ops generalizing m with
  | nil => cases hr
  | cons op ops ih =>
    rw [reached] at hr
    rcases List.mem_cons.mp hr with rfl | hr
    · exact ⟨h.whole, h.fits op (List.mem_cons_self ..)⟩
    · cases hstep : m.step draws op with
      | error fault => simp [hstep] at hr
      | ok m' =>
        simp only [hstep] at hr
        exact ih (h.next hstep) hr

/-- A run looks at no random numbers but those it takes. -/
theorem run_congr {ops : List (Operation R)} (h : m.Ready bits ops)
    (hsame : ∀ k, k < m.taken draws ops → draws' (m.drawn + k) = draws (m.drawn + k)) :
    m.run draws' ops = m.run draws ops := by
  induction ops generalizing m with
  | nil => rfl
  | cons op ops ih =>
    rw [taken_cons] at hsame
    rw [run, run]
    cases htakes : takes (m, op) with
    | true =>
      obtain ⟨m', hstep, hdrawn, hothers⟩ := step_taking draws h.whole
        (h.fits op (List.mem_cons_self ..)) htakes
      simp only [htakes, hstep, Bool.toNat_true] at hsame
      have hfirst : draws' m.drawn = draws m.drawn := hsame 0 (by omega)
      simp only [hstep, hothers draws' hfirst]
      refine ih (h.next hstep) fun k hk => ?_
      have hlater := hsame (1 + k) (by omega)
      rwa [← Nat.add_assoc, ← hdrawn] at hlater
    | false =>
      rw [step_quiet_congr draws draws' htakes]
      cases hstep : m.step draws op with
      | error fault => rfl
      | ok m' =>
        simp only [htakes, hstep, Bool.toNat_false, Nat.zero_add,
          ← step_quiet_drawn htakes hstep] at hsame
        exact ih (h.next hstep) hsame

end Runs

end Simulation.Machine

namespace Circuit

variable [Scalar R] {draws draws' : Draws R} {c : Circuit R}

def reached (draws : Draws R) (drawn : Nat) (c : Circuit R) (room : Capacity) :
    List (Machine R × Operation R) :=
  if c.qubits ≤ maxQubits ∧ c.bits ≤ room.row then
    (Machine.start c.qubits c.bits drawn).reached draws c.operations
  else []

def taken (draws : Draws R) (drawn : Nat) (c : Circuit R) (room : Capacity) : Nat :=
  (c.reached draws drawn room).countP Machine.takes

def Fitting (c : Circuit R) : Prop :=
  ∀ op ∈ c.operations, op.instruction.FitsIn c.qubits c.bits

theorem Fitting.ready (h : c.Fitting) (drawn : Nat) :
    (Machine.start c.qubits c.bits drawn : Machine R).Ready c.bits c.operations :=
  ⟨Machine.start_whole _ _ _, h⟩

/-- A circuit that is too large is not executed and takes no random number; any other does what its
operations do, from the start. -/
theorem execute_eq (draws : Draws R) (drawn : Nat) (c : Circuit R) (room : Capacity) :
    if c.qubits ≤ maxQubits ∧ c.bits ≤ room.row then
      ∀ m failure, (Machine.start c.qubits c.bits drawn).run draws c.operations = (m, failure) →
        c.execute draws drawn room = (m.drawn, match failure with
          | none => .ok ⟨m.vector, m.bits⟩
          | some fault => .error (.step fault))
    else ∃ fault, ∀ draws' : Draws R, c.execute draws' drawn room = (drawn, .error fault) := by
  have hrow := room.row_le
  split
  · rename_i hsmall
    intro m failure hrun
    rw [execute, if_neg (Nat.not_lt.mpr hsmall.1), if_neg (by omega),
      if_neg (Nat.not_lt.mpr hsmall.2), hrun]
    cases failure <;> rfl
  · rename_i hlarge
    by_cases hwide : maxQubits < c.qubits
    · exact ⟨_, fun draws' => if_pos hwide⟩
    · by_cases hcount : countLimit < c.bits
      · exact ⟨_, fun draws' => (if_neg hwide).trans (if_pos hcount)⟩
      · have hmemory : room.row < c.bits := by omega
        exact ⟨_, fun draws' => (if_neg hwide).trans ((if_neg hcount).trans (if_pos hmemory))⟩

theorem reached_ready (h : c.Fitting) {drawn : Nat} {room : Capacity}
    {r : Machine R × Operation R} (hr : r ∈ c.reached draws drawn room) :
    r.1.Whole ∧ r.2.instruction.FitsIn r.1.width c.bits := by
  unfold reached at hr
  split at hr
  · exact Machine.reached_ready (h.ready drawn) hr
  · cases hr

theorem execute_drawn (h : c.Fitting) (draws : Draws R) (drawn : Nat) (room : Capacity) :
    (c.execute draws drawn room).1 = drawn + c.taken draws drawn room := by
  have hexecute := execute_eq draws drawn c room
  unfold taken reached
  split at hexecute
  · rename_i hsmall
    rw [hexecute _ _ rfl, if_pos hsmall]
    exact Machine.run_drawn (h.ready drawn)
  · rename_i hlarge
    obtain ⟨fault, hfault⟩ := hexecute
    rw [hfault draws, if_neg hlarge]
    rfl

/-- An execution looks at no random numbers but those it takes. -/
theorem execute_congr (h : c.Fitting) {drawn : Nat} {room : Capacity}
    (hsame : ∀ k, k < c.taken draws drawn room → draws' (drawn + k) = draws (drawn + k)) :
    c.execute draws' drawn room = c.execute draws drawn room := by
  have hexecute := execute_eq draws drawn c room
  have hexecute' := execute_eq draws' drawn c room
  unfold taken reached at hsame
  split at hexecute
  · rename_i hsmall
    rw [if_pos hsmall] at hexecute' hsame
    have hrun := Machine.run_congr (h.ready drawn) hsame
    rw [hexecute _ _ rfl, hexecute' _ _ rfl, hrun]
  · obtain ⟨fault, hfault⟩ := hexecute
    rw [hfault draws, hfault draws']

end Circuit

end CircuitConsole
