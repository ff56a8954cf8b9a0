import CircuitConsole.Simulation.Tensor
import Mathlib.Data.List.Nodup
import Mathlib.Data.Nat.Bitwise

/-!
Indices by their binary digits. Writing digits at some places changes nothing elsewhere, and the
digits written there are read back. An index is thus known by the number that its digits at some
places spell and by its other digits. Operators on chosen qubits are told in these terms: the
amplitude at an index depends on those amplitudes whose indices differ from it in the target qubits
only. This is what the moving of axes amounts to, and the form in which it is reasoned about.
-/

namespace CircuitConsole.Simulation

def writeBit (i qubit : Nat) (value : Bool) : Nat :=
  if i.testBit qubit = value then i else i ^^^ Nat.pow 2 qubit

def pickBits : List Nat → Nat → Nat
  | [], _ => 0
  | t :: targets, i => (i.testBit t).toNat + 2 * pickBits targets i

def placeBits : List Nat → Nat → Nat → Nat
  | [], _, i => i
  | t :: targets, c, i => placeBits targets (c / 2) (writeBit i t (c % 2 = 1))

section

variable {K : Type} [Zero K]

/-- The amplitudes that differ from `i` in the target qubits only. -/
def fibre (targets : List Nat) (v : Array K) (i : Nat) : List K :=
  (List.range (Nat.pow 2 targets.length)).map fun c => amplitudeAt v (placeBits targets c i)

variable [Add K] [Mul K]

def applyWhere (holds : Nat → Bool) (U : Operator K) (targets : List Nat) (v : Array K) :
    Array K :=
  Array.ofFn (n := v.size) fun i =>
    if holds i then dot (U.row (pickBits targets i)) (fibre targets v i) else v[i]

def applyTo (U : Operator K) (targets : List Nat) (v : Array K) : Array K :=
  applyWhere (fun _ => true) U targets v

end

def controlsHold (fixed : List (Nat × Bool)) (i : Nat) : Bool :=
  fixed.all fun (q, value) => i.testBit q == value

theorem testBit_writeBit (i q : Nat) (value : Bool) (j : Nat) :
    (writeBit i q value).testBit j = if j = q then value else i.testBit j := by
  unfold writeBit
  by_cases hvalue : i.testBit q = value
  · rw [if_pos hvalue]
    split
    · rename_i hj
      rw [hj, hvalue]
    · rfl
  · rw [if_neg hvalue]
    change (i ^^^ 2 ^ q).testBit j = _
    rw [Nat.testBit_xor, Nat.testBit_two_pow]
    by_cases hj : j = q
    · subst hj
      cases value <;> cases hbit : i.testBit j <;> simp_all
    · simp [hj, Ne.symm hj]

theorem writeBit_lt {width i q : Nat} (hq : q < width) (hi : i < Nat.pow 2 width) (value : Bool) :
    writeBit i q value < Nat.pow 2 width := by
  refine Nat.lt_pow_two_of_testBit _ fun j hj => ?_
  have hne : j ≠ q := by omega
  rw [testBit_writeBit, if_neg hne]
  exact Nat.testBit_lt_two_pow (Nat.lt_of_lt_of_le hi (Nat.pow_le_pow_right (by omega) hj))

/-- Digits elsewhere stay as they are. -/
theorem testBit_placeBits_of_notMem {targets : List Nat} {j : Nat} (hj : j ∉ targets)
    (c i : Nat) : (placeBits targets c i).testBit j = i.testBit j := by
  induction targets generalizing c i with
  | nil => rfl
  | cons t targets ih =>
    rw [List.mem_cons, not_or] at hj
    rw [placeBits, ih hj.2, testBit_writeBit, if_neg hj.1]

theorem pickBits_lt (targets : List Nat) (i : Nat) :
    pickBits targets i < Nat.pow 2 targets.length := by
  induction targets with
  | nil => exact Nat.one_pos
  | cons t targets ih =>
    have hdigit : (i.testBit t).toNat ≤ 1 := Bool.toNat_le _
    have hpow : Nat.pow 2 (t :: targets).length = 2 * Nat.pow 2 targets.length :=
      Nat.pow_succ'
    rw [pickBits, hpow]
    omega

/-- The digits written at distinct places are read back. -/
theorem pickBits_placeBits {targets : List Nat} (hdistinct : targets.Nodup) {c : Nat}
    (hc : c < Nat.pow 2 targets.length) (i : Nat) :
    pickBits targets (placeBits targets c i) = c := by
  induction targets generalizing c i with
  | nil =>
    have hc : c < 1 := hc
    rw [pickBits]
    omega
  | cons t targets ih =>
    obtain ⟨ht, hdistinct⟩ := List.nodup_cons.mp hdistinct
    have hpow : Nat.pow 2 (t :: targets).length = 2 * Nat.pow 2 targets.length :=
      Nat.pow_succ'
    rw [hpow] at hc
    rw [placeBits, pickBits, testBit_placeBits_of_notMem ht, testBit_writeBit, if_pos rfl,
      ih hdistinct (by omega)]
    by_cases hodd : c % 2 = 1
    · simp only [hodd, decide_true, Bool.toNat_true]
      omega
    · simp only [hodd, decide_false, Bool.toNat_false]
      omega

/-- A digit of the number that some digits spell. -/
theorem testBit_pickBits {targets : List Nat} {k : Nat} (hk : k < targets.length) (i : Nat) :
    (pickBits targets i).testBit k = i.testBit targets[k] := by
  induction targets generalizing k with
  | nil => simp at hk
  | cons t targets ih =>
    have hdigit : (i.testBit t).toNat ≤ 1 := Bool.toNat_le _
    cases k with
    | zero =>
      rw [pickBits, Nat.testBit_zero, Nat.add_mul_mod_self_left]
      cases h : i.testBit t <;> simp [h]
    | succ k =>
      have hk : k < targets.length := by simpa using hk
      have hhalf : (pickBits (t :: targets) i) / 2 = pickBits targets i := by
        rw [pickBits]
        omega
      rw [Nat.testBit_succ, hhalf, ih hk]
      rfl

/-- A digit written at one of distinct places. -/
theorem testBit_placeBits {targets : List Nat} (hdistinct : targets.Nodup) {c : Nat}
    (hc : c < Nat.pow 2 targets.length) {k : Nat} (hk : k < targets.length) (i : Nat) :
    (placeBits targets c i).testBit targets[k] = c.testBit k := by
  rw [← testBit_pickBits hk, pickBits_placeBits hdistinct hc]

theorem eq_of_toNat_eq {a b : Bool} (h : a.toNat = b.toNat) : a = b := by
  cases a <;> cases b <;> first
    | rfl
    | contradiction

/-- Two indices with the same digits at some places and elsewhere are the same. -/
theorem eq_of_pickBits_eq {targets : List Nat} {i j : Nat}
    (hpick : pickBits targets i = pickBits targets j)
    (helse : ∀ b, b ∉ targets → i.testBit b = j.testBit b) : i = j := by
  refine Nat.eq_of_testBit_eq fun b => ?_
  by_cases hb : b ∈ targets
  · clear helse
    induction targets with
    | nil => simp at hb
    | cons t targets ih =>
      rw [pickBits, pickBits] at hpick
      have hi : (i.testBit t).toNat ≤ 1 := Bool.toNat_le _
      have hj : (j.testBit t).toNat ≤ 1 := Bool.toNat_le _
      rcases List.mem_cons.mp hb with rfl | hb
      · exact eq_of_toNat_eq (by omega)
      · exact ih (by omega) hb
  · exact helse b hb

/-- Writing the digits that are there changes nothing. -/
theorem placeBits_pickBits {targets : List Nat} (hdistinct : targets.Nodup) (i : Nat) :
    placeBits targets (pickBits targets i) i = i :=
  eq_of_pickBits_eq (pickBits_placeBits hdistinct (pickBits_lt targets i) i)
    fun _ hb => testBit_placeBits_of_notMem hb _ _

/-- Of digits written twice the later ones count. -/
theorem placeBits_placeBits {targets : List Nat} (hdistinct : targets.Nodup) {c : Nat}
    (hc : c < Nat.pow 2 targets.length) (d i : Nat) :
    placeBits targets c (placeBits targets d i) = placeBits targets c i := by
  refine @eq_of_pickBits_eq targets _ _ ?_ fun b hb => ?_
  · rw [pickBits_placeBits hdistinct hc, pickBits_placeBits hdistinct hc]
  · rw [testBit_placeBits_of_notMem hb, testBit_placeBits_of_notMem hb,
      testBit_placeBits_of_notMem hb]

theorem pickBits_congr {targets : List Nat} {i j : Nat}
    (h : ∀ t ∈ targets, i.testBit t = j.testBit t) : pickBits targets i = pickBits targets j := by
  induction targets with
  | nil => rfl
  | cons t targets ih =>
    obtain ⟨ht, htargets⟩ := List.forall_mem_cons.mp h
    rw [pickBits, pickBits, ht, ih htargets]

/-- The digits at some places follow those at the places before them. -/
theorem pickBits_append (targets targets' : List Nat) (i : Nat) :
    pickBits (targets ++ targets') i =
      Nat.pow 2 targets.length * pickBits targets' i + pickBits targets i := by
  induction targets with
  | nil =>
    change pickBits targets' i = 1 * pickBits targets' i + 0
    omega
  | cons t targets ih =>
    have hpow : Nat.pow 2 (t :: targets).length = 2 * Nat.pow 2 targets.length :=
      Nat.pow_succ'
    rw [List.cons_append, pickBits, pickBits, ih, hpow, Nat.mul_assoc]
    omega

theorem writeBit_comm {q q' : Nat} (h : q ≠ q') (b b' : Bool) (i : Nat) :
    writeBit (writeBit i q b) q' b' = writeBit (writeBit i q' b') q b := by
  apply Nat.eq_of_testBit_eq
  intro j
  simp only [testBit_writeBit]
  by_cases hj : j = q
  · rw [if_pos hj, if_pos hj, if_neg (show j ≠ q' by omega)]
  · rw [if_neg hj, if_neg hj]

theorem placeBits_writeBit {targets : List Nat} {q : Nat} (h : q ∉ targets) (c : Nat) (b : Bool)
    (i : Nat) : placeBits targets c (writeBit i q b) = writeBit (placeBits targets c i) q b := by
  induction targets generalizing c i with
  | nil => rfl
  | cons t targets ih =>
    rw [List.mem_cons, not_or] at h
    rw [placeBits, placeBits, writeBit_comm h.1, ih h.2]

/-- Digits at different places can be written in either order. -/
theorem placeBits_comm {targets targets' : List Nat} (h : targets.Disjoint targets')
    (c d i : Nat) :
    placeBits targets c (placeBits targets' d i) =
      placeBits targets' d (placeBits targets c i) := by
  induction targets generalizing c i with
  | nil => rfl
  | cons t targets ih =>
    rw [List.disjoint_cons_left] at h
    rw [placeBits, placeBits, ← placeBits_writeBit h.1, ih h.2]

/-- An index below a power of two has no digit at its exponent or beyond. -/
theorem lt_of_testBit {width i j : Nat} (hi : i < Nat.pow 2 width) (hj : i.testBit j = true) :
    j < width := by
  by_contra hnot
  have hpow : Nat.pow 2 width ≤ Nat.pow 2 j := Nat.pow_le_pow_right (by omega) (by omega)
  rw [Nat.testBit_lt_two_pow (Nat.lt_of_lt_of_le hi hpow)] at hj
  contradiction

/-- Writing digits below some place makes no index longer. -/
theorem placeBits_lt {targets : List Nat} {width i : Nat} (hrange : ∀ t ∈ targets, t < width)
    (hi : i < Nat.pow 2 width) (c : Nat) : placeBits targets c i < Nat.pow 2 width := by
  refine Nat.lt_pow_two_of_testBit _ fun j hj => ?_
  have hnot : j ∉ targets := fun h => by
    have := hrange j h
    omega
  rw [testBit_placeBits_of_notMem hnot]
  exact Nat.testBit_lt_two_pow (Nat.lt_of_lt_of_le hi (Nat.pow_le_pow_right (by omega) hj))

end CircuitConsole.Simulation
