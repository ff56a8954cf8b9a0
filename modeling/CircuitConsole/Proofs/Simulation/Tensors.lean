import CircuitConsole.Simulation.Tensor
import Mathlib.Data.List.Nodup
import Mathlib.Data.Nat.Bitwise

/-!
Tensors whose axes are moved. Moving axes to the front, multiplying there and moving them back
changes the digits of an index on these axes only. An index that is spelled by its digits has the
digit of a qubit on the axis of the qubit.
-/

namespace CircuitConsole.Simulation

/-! ### Indices and the numbers they spell -/

@[simp] theorem length_digitsOf (d i : Nat) : (digitsOf d i).length = d := by
  induction d with
  | zero => rfl
  | succ d ih => simp [digitsOf, ih]

theorem digitAt_digitsOf {d a : Nat} (ha : a < d) (i : Nat) :
    digitAt (digitsOf d i) a = i.testBit (d - 1 - a) := by
  induction d generalizing a with
  | zero => omega
  | succ d ih =>
    cases a with
    | zero => rfl
    | succ a =>
      have hplace : d + 1 - 1 - (a + 1) = d - 1 - a := by omega
      rw [hplace, ← ih (by omega)]
      rfl

theorem numberOf_lt (x : List Bool) : numberOf x < Nat.pow 2 x.length := by
  induction x with
  | nil => exact Nat.one_pos
  | cons b x ih =>
    have hpow : Nat.pow 2 (b :: x).length = 2 * Nat.pow 2 x.length := Nat.pow_succ'
    have hdigit := Nat.mul_le_mul_right (Nat.pow 2 x.length) (Bool.toNat_le b)
    rw [numberOf, hpow]
    omega

theorem numberOf_append_singleton (x : List Bool) (b : Bool) :
    numberOf (x ++ [b]) = b.toNat + 2 * numberOf x := by
  induction x with
  | nil => cases b <;> rfl
  | cons c x ih =>
    have hpow : Nat.pow 2 (x ++ [b]).length = 2 * Nat.pow 2 x.length := by
      rw [List.length_append]
      exact Nat.pow_succ'
    rw [List.cons_append, numberOf, numberOf, ih, hpow, Nat.mul_left_comm]
    omega

/-- The digits of the number that an index spells, the last axis being the least significant. -/
theorem testBit_numberOf (x : List Bool) {q : Nat} (hq : q < x.length) :
    (numberOf x).testBit q = digitAt x (x.length - 1 - q) := by
  induction x generalizing q with
  | nil => simp at hq
  | cons b x ih =>
    rw [numberOf]
    rcases Nat.lt_or_ge q x.length with hlow | hhigh
    · have hplace : (b :: x).length - 1 - q = (x.length - 1 - q) + 1 := by
        rw [List.length_cons]
        omega
      rw [hplace, Nat.mul_comm]
      change (2 ^ x.length * b.toNat + numberOf x).testBit q = _
      rw [Nat.testBit_two_pow_mul_add _ (numberOf_lt x), if_pos hlow, ih hlow]
      rfl
    · obtain rfl : q = x.length := by
        rw [List.length_cons] at hq
        omega
      rw [Nat.mul_comm]
      change (2 ^ x.length * b.toNat + numberOf x).testBit x.length = _
      rw [Nat.testBit_two_pow_mul_add _ (numberOf_lt x), if_neg (by omega)]
      cases b <;> simp [digitAt]

/-- Numbers below a power of two with the same digits are the same. -/
theorem eq_of_testBit_lt {d i j : Nat} (hi : i < Nat.pow 2 d) (hj : j < Nat.pow 2 d)
    (h : ∀ q, q < d → i.testBit q = j.testBit q) : i = j := by
  refine Nat.eq_of_testBit_eq fun q => ?_
  by_cases hq : q < d
  · exact h q hq
  · have hpow : Nat.pow 2 d ≤ 2 ^ q := Nat.pow_le_pow_right (by omega) (by omega)
    rw [Nat.testBit_lt_two_pow (Nat.lt_of_lt_of_le hi hpow),
      Nat.testBit_lt_two_pow (Nat.lt_of_lt_of_le hj hpow)]

theorem numberOf_digitsOf {d i : Nat} (hi : i < Nat.pow 2 d) : numberOf (digitsOf d i) = i := by
  have hlt := numberOf_lt (digitsOf d i)
  rw [length_digitsOf] at hlt
  refine eq_of_testBit_lt hlt hi fun q hq => ?_
  have hplace : d - 1 - (d - 1 - q) = q := by omega
  rw [testBit_numberOf _ (by simpa using hq), length_digitsOf, digitAt_digitsOf (by omega), hplace]

/-! ### Digits on some axes -/

@[simp] theorem length_digitsAt (axes : List Nat) (x : List Bool) :
    (digitsAt axes x).length = axes.length :=
  List.length_map _

theorem digitAt_digitsAt {axes : List Nat} {j : Nat} (hj : j < axes.length) (x : List Bool) :
    digitAt (digitsAt axes x) j = digitAt x axes[j] := by
  simp [digitAt, digitsAt, hj]

/-- An index is made of its digits. -/
theorem map_digitAt {d : Nat} {x : List Bool} (hx : x.length = d) :
    (List.range d).map (digitAt x) = x := by
  refine List.ext_getElem (by simp [hx]) fun a _ ha => ?_
  simp [digitAt, ha]

theorem digitFor_cons (a : Nat) (axes : List Nat) (b : Bool) (digits : List Bool) (c : Nat) :
    digitFor (a :: axes) (b :: digits) c = if c = a then b else digitFor axes digits c := by
  by_cases hca : c = a
  · simp [digitFor, hca]
  · have hne : (c == a) = false := by simpa using hca
    simp only [digitFor, List.zip_cons_cons, List.lookup_cons, hne, if_neg hca]

/-- Of distinct axes, each is given the digit in its place. -/
theorem digitFor_getElem {axes : List Nat} (hdistinct : axes.Nodup) {j : Nat}
    (hj : j < axes.length) (digits : List Bool) :
    digitFor axes digits axes[j] = digitAt digits j := by
  induction axes generalizing j digits with
  | nil => simp at hj
  | cons a axes ih =>
    obtain ⟨ha, hdistinct⟩ := List.nodup_cons.mp hdistinct
    cases digits with
    | nil => simp [digitFor, digitAt]
    | cons b digits =>
      cases j with
      | zero => simp [digitFor_cons, digitAt]
      | succ j =>
        have hj : j < axes.length := by simpa using hj
        have hne : axes[j] ≠ a := fun h => ha (h ▸ List.getElem_mem hj)
        rw [List.getElem_cons_succ, digitFor_cons, if_neg hne, ih hdistinct hj]
        rfl

/-- Axes that are given the digits of an index have the digits of that index. -/
theorem digitFor_digitsAt {axes : List Nat} {a : Nat} (ha : a ∈ axes) (x : List Bool) :
    digitFor axes (digitsAt axes x) a = digitAt x a := by
  induction axes with
  | nil => simp at ha
  | cons b axes ih =>
    rw [digitsAt, List.map_cons, digitFor_cons]
    split
    · rename_i hab
      rw [hab]
    · rename_i hab
      exact ih (by simpa [hab] using ha)

theorem digitFor_append {axes axes' : List Nat} {digits digits' : List Bool}
    (hlength : digits.length = axes.length) (a : Nat) :
    digitFor (axes ++ axes') (digits ++ digits') a =
      if a ∈ axes then digitFor axes digits a else digitFor axes' digits' a := by
  induction axes generalizing digits with
  | nil =>
    obtain rfl : digits = [] := by simpa using hlength
    simp
  | cons b axes ih =>
    cases digits with
    | nil => simp at hlength
    | cons digit digits =>
      have hlength : digits.length = axes.length := by simpa using hlength
      rw [List.cons_append, List.cons_append, digitFor_cons, digitFor_cons, ih hlength]
      by_cases hab : a = b
      · simp [hab]
      · simp [hab]

theorem mem_otherAxes {d a : Nat} {axes : List Nat} :
    a ∈ otherAxes d axes ↔ a < d ∧ a ∉ axes := by
  simp [otherAxes]

/-- Below a bound, the axes outside a list of distinct ones are those left over. -/
theorem length_otherAxes_add {axes : List Nat} (hdistinct : axes.Nodup) (a : Nat) :
    (otherAxes a axes).length + (axes.filter (· < a)).length = a := by
  have hperm : ((List.range a).filter axes.contains).Perm (axes.filter (· < a)) := by
    refine (List.perm_ext_iff_of_nodup (List.nodup_range.filter _) (hdistinct.filter _)).mpr ?_
    intro b
    simp only [List.mem_filter, List.mem_range, List.contains_iff_mem, decide_eq_true_eq]
    exact And.comm
  have hsplit := List.length_eq_countP_add_countP axes.contains (l := List.range a)
  simp only [List.countP_eq_length_filter, List.length_range] at hsplit
  rw [← hperm.length_eq, Nat.add_comm]
  simpa [otherAxes] using hsplit.symm

theorem length_axesFrom {d : Nat} {axes : List Nat} (hdistinct : axes.Nodup)
    (hrange : ∀ a ∈ axes, a < d) : (axesFrom d axes).length = d := by
  have hall : axes.filter (· < d) = axes :=
    List.filter_eq_self.mpr fun a ha => by simpa using hrange a ha
  have hsum := length_otherAxes_add hdistinct d
  rw [hall] at hsum
  rw [axesFrom, List.length_append, Nat.add_comm, hsum]

/-- The first axes are in front already. -/
theorem axesFrom_range {d k : Nat} (hk : k ≤ d) : axesFrom d (List.range k) = List.range d := by
  obtain ⟨e, rfl⟩ := Nat.exists_eq_add_of_le hk
  have hfront : (List.range k).filter (fun a => !(List.range k).contains a) = [] := by
    rw [List.filter_eq_nil_iff]
    simp
  have hback : ((List.range e).map (k + ·)).filter (fun a => !(List.range k).contains a) =
      (List.range e).map (k + ·) := by
    rw [List.filter_eq_self]
    simp
  rw [axesFrom, otherAxes, List.range_add, List.filter_append, hfront, hback, List.nil_append]

/-! ### A matrix applied to axes -/

def replaceDigits (d : Nat) (axes : List Nat) (digits x : List Bool) : List Bool :=
  (List.range d).map fun a => if a ∈ axes then digitFor axes digits a else digitAt x a

@[simp] theorem length_replaceDigits (d : Nat) (axes : List Nat) (digits x : List Bool) :
    (replaceDigits d axes digits x).length = d := by
  simp [replaceDigits]

theorem digitAt_replaceDigits {d a : Nat} (ha : a < d) (axes : List Nat) (digits x : List Bool) :
    digitAt (replaceDigits d axes digits x) a =
      if a ∈ axes then digitFor axes digits a else digitAt x a := by
  simp [digitAt, replaceDigits, ha]

variable {K : Type}

/-- A tensor seen with some axes in front: their digits come first. -/
theorem moveAxes_front [Zero K] {d : Nat} {source : List Nat} (hlength : source.length ≤ d)
    {digits : List Bool} (hdigits : digits.length = source.length) (t : Tensor K) (x : List Bool)
    (hsource : (axesFrom d source).length = d) :
    t.moveAxes d source (List.range source.length)
        (digits ++ digitsAt (otherAxes d source) x) =
      t (replaceDigits d source digits x) := by
  have hwhole : (digits ++ digitsAt (otherAxes d source) x).length = d := by
    rw [List.length_append, hdigits, length_digitsAt, ← List.length_append]
    exact hsource
  have hsame : digitsAt (List.range d) (digits ++ digitsAt (otherAxes d source) x) =
      digits ++ digitsAt (otherAxes d source) x := map_digitAt hwhole
  rw [Tensor.moveAxes, axesFrom_range hlength, hsame, replaceDigits]
  refine congrArg t (List.map_congr_left fun a ha => ?_)
  rw [axesFrom, digitFor_append hdigits]
  by_cases hmem : a ∈ source
  · rw [if_pos hmem, if_pos hmem]
  · have hother : a ∈ otherAxes d source := mem_otherAxes.mpr ⟨List.mem_range.mp ha, hmem⟩
    rw [if_neg hmem, if_neg hmem, digitFor_digitsAt hother]

/-- A tensor seen with its first axes moved elsewhere: the digits are read off where they went. -/
theorem moveAxes_back [Zero K] {d : Nat} {source : List Nat} (hlength : source.length ≤ d)
    (hsource : (axesFrom d source).length = d) (t : Tensor K) (x : List Bool) :
    t.moveAxes d (List.range source.length) source x = t (digitsAt (axesFrom d source) x) := by
  have hdigits : (digitsAt (axesFrom d source) x).length = d := by
    rw [length_digitsAt, hsource]
  rw [Tensor.moveAxes, axesFrom_range hlength]
  refine congrArg t ((List.map_congr_left fun a ha => ?_).trans (map_digitAt hdigits))
  have ha : a < (List.range d).length := by simpa using ha
  have hplace := digitFor_getElem List.nodup_range ha (digitsAt (axesFrom d source) x)
  rwa [List.getElem_range] at hplace

/-- A matrix applied to axes moved to the front combines the entries whose indices differ on these
axes only. -/
theorem multiply_between [Zero K] [Add K] [Mul K] {d : Nat} {source : List Nat}
    (hdistinct : source.Nodup) (hrange : ∀ a ∈ source, a < d) (U : Operator K) (t : Tensor K)
    (x : List Bool) :
    (((t.moveAxes d source (List.range source.length)).multiply source.length U).moveAxes d
        (List.range source.length) source) x =
      dot (U.row (numberOf (digitsAt source x)))
        ((List.range (Nat.pow 2 source.length)).map fun c =>
          t (replaceDigits d source (digitsOf source.length c) x)) := by
  have hsource := length_axesFrom hdistinct hrange
  have hlength : source.length ≤ d := by
    rw [axesFrom, List.length_append] at hsource
    omega
  have hsplit : digitsAt (axesFrom d source) x =
      digitsAt source x ++ digitsAt (otherAxes d source) x := List.map_append
  have htake : (digitsAt source x ++ digitsAt (otherAxes d source) x).take source.length =
      digitsAt source x := List.take_left' (length_digitsAt source x)
  have hdrop : (digitsAt source x ++ digitsAt (otherAxes d source) x).drop source.length =
      digitsAt (otherAxes d source) x := List.drop_left' (length_digitsAt source x)
  rw [moveAxes_back hlength hsource, hsplit, Tensor.multiply, htake, hdrop]
  congr 1
  refine List.map_congr_left fun c _ => ?_
  exact moveAxes_front hlength (length_digitsOf _ _) t x hsource

end CircuitConsole.Simulation
