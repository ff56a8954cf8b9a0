import CircuitConsole.Proofs.Simulation.Basis
import CircuitConsole.Proofs.Statement.Expansion

/-!
Classical circuits as Boolean programs. Gates that only negate and exchange qubits, measurements
and resets can be carried out on plain values of the qubits and bits. A machine whose vector is a
basis vector follows such a program step by step: it never fails, its vector stays a basis vector,
and its random numbers do not matter.
-/

namespace CircuitConsole

structure Bits where
  qubit : Nat → Bool
  bit : Nat → Bool

def number (n : Nat) (value : Nat → Bool) : Nat :=
  ((List.range n).map fun j => (value j).toNat * Nat.pow 2 j).sum

def Gate.isClassical : Gate → Bool
  | .id | .x | .cx | .CX | .ccx | .swap | .cswap => true
  | _ => false

def Instruction.isClassical {R : Type} : Instruction R → Bool
  | .gate g _ _ => g.isClassical
  | _ => true

namespace Bits

def zero : Bits := ⟨fun _ => false, fun _ => false⟩

def setQubit (s : Bits) (q : Nat) (value : Bool) : Bits :=
  { s with qubit := fun j => if j = q then value else s.qubit j }

def setBit (s : Bits) (b : Nat) (value : Bool) : Bits :=
  { s with bit := fun j => if j = b then value else s.bit j }

def negate (s : Bits) (q : Nat) : Bits := s.setQubit q (!s.qubit q)

def exchange (s : Bits) (a b : Nat) : Bits :=
  (s.setQubit a (s.qubit b)).setQubit b (s.qubit a)

/-- A gate negates or exchanges its targets, if all its controls are one. -/
def gate (s : Bits) : Gate → List Nat → Bits
  | .x, [q] => s.negate q
  | .cx, [c, t] | .CX, [c, t] => if s.qubit c then s.negate t else s
  | .ccx, [c, d, t] => if s.qubit c && s.qubit d then s.negate t else s
  | .swap, [a, b] => s.exchange a b
  | .cswap, [c, a, b] => if s.qubit c then s.exchange a b else s
  | _, _ => s

def perform {R : Type} (s : Bits) : Instruction R → Bits
  | .gate g _ qubits => s.gate g qubits
  | .measure q b => s.setBit b (s.qubit q)
  | .reset q => s.setQubit q false

def step {R : Type} (s : Bits) (op : Operation R) : Bits :=
  match op.condition with
  | some c =>
    if number c.size (fun j => s.bit (c.offset + j)) = c.value then s.perform op.instruction else s
  | none => s.perform op.instruction

def run {R : Type} (s : Bits) (ops : List (Operation R)) : Bits := ops.foldl step s

end Bits

theorem number_succ (n : Nat) (value : Nat → Bool) :
    number (n + 1) value = number n value + (value n).toNat * Nat.pow 2 n := by
  simp [number, List.range_succ]

theorem number_lt (n : Nat) (value : Nat → Bool) : number n value < Nat.pow 2 n := by
  induction n with
  | zero => exact Nat.one_pos
  | succ n ih =>
    have hpow : Nat.pow 2 (n + 1) = 2 * Nat.pow 2 n := Nat.pow_succ'
    rw [number_succ, hpow]
    cases value n with
    | false =>
      rw [Bool.toNat_false, Nat.zero_mul]
      omega
    | true =>
      rw [Bool.toNat_true, Nat.one_mul]
      omega

theorem testBit_number (n : Nat) (value : Nat → Bool) {j : Nat} (hj : j < n) :
    (number n value).testBit j = value j := by
  induction n with
  | zero => omega
  | succ n ih =>
    have hlt := number_lt n value
    rw [number_succ, Nat.add_comm, Nat.mul_comm]
    change (2 ^ n * (value n).toNat + number n value).testBit j = value j
    rw [Nat.testBit_two_pow_mul_add _ hlt]
    by_cases hlast : j < n
    · rw [if_pos hlast, ih hlast]
    · have hj : j = n := by omega
      subst hj
      rw [if_neg hlast, Nat.sub_self]
      cases value j <;> rfl

theorem bitsToNat_append (front back : List Bool) :
    bitsToNat (front ++ back) = bitsToNat front + Nat.pow 2 front.length * bitsToNat back := by
  induction front with
  | nil => simp [bitsToNat]
  | cons a front ih =>
    have hpow : Nat.pow 2 (a :: front).length = 2 * Nat.pow 2 front.length := Nat.pow_succ'
    rw [List.cons_append, bitsToNat, ih, bitsToNat, hpow, Nat.mul_assoc]
    omega

theorem bitsToNat_singleton (b : Bool) : bitsToNat [b] = b.toNat := rfl

theorem bitsToNat_map_range (n : Nat) (value : Nat → Bool) :
    bitsToNat ((List.range n).map value) = number n value := by
  induction n with
  | zero => rfl
  | succ n ih =>
    rw [List.range_succ, List.map_append, List.map_singleton, bitsToNat_append, ih, number_succ,
      List.length_map, List.length_range, bitsToNat_singleton, Nat.mul_comm]

/-- A condition holds when the bits of its register spell its value. -/
theorem Condition.holds_iff {c : Condition} {n : Nat} {value : Nat → Bool}
    (h : c.offset + c.size ≤ n) :
    c.holds ((List.range n).map value) = true ↔
      number c.size (fun j => value (c.offset + j)) = c.value := by
  have hplaces : (((List.range n).map value).drop c.offset).take c.size =
      (List.range c.size).map fun j => value (c.offset + j) := by
    refine List.ext_getElem (by simp; omega) fun i hi hi' => ?_
    simp
  rw [holds, hplaces, bitsToNat_map_range, decide_eq_true_eq]

end CircuitConsole
