import CircuitConsole.Simulation.Scalar
import Mathlib.Algebra.Order.Ring.Nat

/-!
Half of a finite floating-point number is finite. The quotient by two is rounded, and rounding makes
the exponent greater by one at most: by as much as halving has made it smaller. So no angle that is
finite loses its cosine and sine by being halved.
-/

namespace CircuitConsole.FloatingPoint

open Float.Model Float.Model.UnpackedFloat

theorem targetExponent_binary64 (t : Int) :
    Format.binary64.targetExponent t = max (t - 53) (-1074) := rfl

theorem mantissa_shiftRight (em : ExtendedMantissa) (k : Nat) :
    (em >>> k).mantissa = em.mantissa / 2 ^ k := by
  induction k with
  | zero => exact (Nat.div_one _).symm
  | succ k ih =>
    change (em >>> k).mantissa / 2 = _
    rw [ih, Nat.div_div_eq_div_mul, Nat.pow_succ]

theorem roundedMantissa_le (em : ExtendedMantissa) : em.roundedMantissa ≤ em.mantissa + 1 := by
  obtain ⟨m, round, sticky⟩ := em
  simp only [ExtendedMantissa.roundedMantissa]
  cases round <;> cases sticky <;>
    simp only [ExtendedMantissa.accuracy, Accuracy.roundToNearestEven] <;> omega

theorem mantissa_ofMantissaAndAccuracy (m : Nat) (acc : Accuracy) :
    (ExtendedMantissa.ofMantissaAndAccuracy m acc).mantissa = m := by
  rcases acc with _ | _ | _ | _ <;> rfl

theorem log2_le_of_lt {m k : Nat} (h : m < 2 ^ (k + 1)) : m.log2 ≤ k := by
  by_cases hm : m = 0
  · simp [hm]
  · have := (Nat.log2_lt hm).mpr h
    omega

/-- A shift to the target exponent leaves a mantissa of so many bits, and an exponent that is the
old one or the target. -/
theorem shiftToTargetExponent_bounds (m : Nat) (e : Int) (acc : Accuracy) :
    (shiftToTargetExponent .binary64 m e acc).1.mantissa < 2 ^ 53 ∧
      (shiftToTargetExponent .binary64 m e acc).2 = max e (max (m.log2 + e - 52) (-1074)) := by
  simp only [shiftToTargetExponent, shiftToExponent, targetExponent_binary64, totalExponent,
    mantissa_shiftRight, mantissa_ofMantissaAndAccuracy]
  refine ⟨?_, by omega⟩
  have hbits : m.log2 + 1 ≤ 53 + (max (↑m.log2 + 1 + e - 53) (-1074) - e).toNat := by omega
  rw [Nat.div_lt_iff_lt_mul (Nat.two_pow_pos _), ← Nat.pow_add]
  exact Nat.lt_of_lt_of_le Nat.lt_log2_self (Nat.pow_le_pow_right (by decide) hbits)

/-- Rounding gives zero, or a number whose exponent is at most by one beyond the old one or the
one that the mantissa needs. -/
theorem roundWithAccuracy_bounds (s : Sign) (m : Nat) (e : Int) (acc : Accuracy) :
    roundWithAccuracy .binary64 s m e acc = .zero s ∨
      ∃ m' e' h, roundWithAccuracy .binary64 s m e acc = .finite s m' e' h ∧
        e' ≤ max e (max (m.log2 + e - 52) (-1074)) + 1 := by
  obtain ⟨hmantissa, hexponent⟩ := shiftToTargetExponent_bounds m e acc
  unfold roundWithAccuracy
  generalize shiftToTargetExponent .binary64 m e acc = first at hmantissa hexponent
  obtain ⟨em, e₁⟩ := first
  dsimp only at hmantissa hexponent ⊢
  obtain ⟨_, hfinal⟩ := shiftToTargetExponent_bounds em.roundedMantissa e₁ .exact
  have hrounded : em.roundedMantissa.log2 ≤ 53 := by
    have := roundedMantissa_le em
    exact log2_le_of_lt (by omega)
  by_cases hzero : (shiftToTargetExponent .binary64 em.roundedMantissa e₁ .exact).1.mantissa = 0
  · rw [dif_pos hzero]
    exact Or.inl rfl
  · rw [dif_neg hzero]
    refine Or.inr ⟨_, _, Nat.pos_of_ne_zero hzero, rfl, ?_⟩
    rw [hfinal]
    omega

/-- Only the greatest exponent stands for infinity. -/
theorem isInf_eq_false {f : Float.Model}
    (h : @unpackExponent .binary64 f.toBits.toBitVec ≠ -1#_) : f.isInf = false := by
  unfold Float.Model.isInf Float.Model.unpack UnpackedFloat.unpack
  dsimp only
  rw [if_neg h]
  by_cases hexponent : @unpackExponent .binary64 f.toBits.toBitVec = 0#_
  · rw [if_pos hexponent]
    by_cases hmantissa : @unpackMantissa .binary64 f.toBits.toBitVec = 0#_
    · rw [dif_pos hmantissa]
      rfl
    · rw [dif_neg hmantissa]
      rfl
  · rw [if_neg hexponent]
    rfl

theorem toNat_le_of_ne {x : BitVec 11} (h : x ≠ -1#11) : x.toNat ≤ 2046 := by
  bv_omega

theorem pack_finite (spec : Format) (s : Sign) (m : Nat) (e : Int) (h : 0 < m) :
    UnpackedFloat.pack spec (.finite s m e h) =
      let biased := (e + spec.exponentBias + spec.mantissaBitsWithoutImplicit).toNat
      if 2 ^ spec.exponentBits ≤ biased + 1 then packedInfinity spec s
      else if m.log2 + 1 = spec.mantissaBits then
        packComponents spec s (BitVec.ofNat _ biased) (BitVec.ofNat _ m)
      else packComponents spec s 0#_ (BitVec.ofNat _ m) :=
  rfl

/-- A number is packed with the greatest exponent only where its own is too great. -/
theorem unpackExponent_pack_ne {spec : Format} {s : Sign} {m : Nat} {e : Int} {h : 0 < m}
    (he : (e + spec.exponentBias + spec.mantissaBitsWithoutImplicit).toNat + 1 <
      2 ^ spec.exponentBits) :
    unpackExponent (UnpackedFloat.pack spec (.finite s m e h)) ≠ -1#_ := by
  rw [pack_finite]
  generalize (e + spec.exponentBias + spec.mantissaBitsWithoutImplicit).toNat = biased at he ⊢
  rw [if_neg (by omega), BitVec.neg_one_eq_allOnes]
  split
  · rw [unpackExponent_packComponents, ne_eq, ← BitVec.toNat_inj, BitVec.toNat_ofNat,
      Nat.mod_eq_of_lt (by omega), BitVec.toNat_allOnes]
    omega
  · rw [unpackExponent_packComponents, ne_eq, ← BitVec.toNat_inj, BitVec.toNat_allOnes]
    change ¬ 0 = 2 ^ spec.exponentBits - 1
    omega

/-- A number whose exponent is not too great is packed as a finite one. -/
theorem isInf_pack {s : Sign} {m : Nat} {e : Int} {h : 0 < m} (he : e ≤ 971) :
    (Float.Model.pack (.finite s m e h)).isInf = false := by
  have hbiased :
      (e + Format.binary64.exponentBias + Format.binary64.mantissaBitsWithoutImplicit).toNat + 1 <
        2 ^ Format.binary64.exponentBits := by
    change (e + (1023 : Nat) + (52 : Nat)).toNat + 1 < 2048
    omega
  exact isInf_eq_false (@unpackExponent_pack_ne _ s m e h hbiased)

theorem unpack_two :
    (Scalar.two : Float).toModel.unpack = .finite .positive (2 ^ 52) (-51) (by decide) := rfl

theorem toNat_append_pos {k : Nat} (x : BitVec k) : 0 < (1#1 ++ x).toNat := by
  simp

/-- A finite number is zero, or has a mantissa and an exponent within the bounds of the format. -/
theorem unpack_finite {f : Float.Model} (h : f.isFinite = true) :
    (∃ s, f.unpack = .zero s) ∨
      ∃ s m e hm, f.unpack = .finite s m e hm ∧ m < 2 ^ 53 ∧ e ≤ 971 := by
  unfold Float.Model.isFinite at h
  unfold Float.Model.unpack UnpackedFloat.unpack at h ⊢
  have hmantissa := (@unpackMantissa .binary64 f.toBits.toBitVec).isLt
  dsimp only at h ⊢
  by_cases hgreatest : @unpackExponent .binary64 f.toBits.toBitVec = -1#_
  · rw [if_pos hgreatest] at h
    by_cases hzero : @unpackMantissa .binary64 f.toBits.toBitVec = 0#_
    · rw [if_pos hzero] at h
      contradiction
    · rw [if_neg hzero] at h
      contradiction
  · have hexponent := toNat_le_of_ne hgreatest
    rw [if_neg hgreatest]
    by_cases hleast : @unpackExponent .binary64 f.toBits.toBitVec = 0#_
    · rw [if_pos hleast]
      by_cases hzero : @unpackMantissa .binary64 f.toBits.toBitVec = 0#_
      · rw [dif_pos hzero]
        exact Or.inl ⟨_, rfl⟩
      · rw [dif_neg hzero]
        have hpos := Nat.pos_of_ne_zero fun h0 => hzero (BitVec.eq_of_toNat_eq h0)
        refine Or.inr ⟨_, _, _, hpos, rfl, ?_, ?_⟩
        · change _ < 2 ^ 52 at hmantissa
          omega
        · rw [hleast]
          decide
    · rw [if_neg hleast]
      refine Or.inr ⟨_, _, _, toNat_append_pos _, rfl, ?_, ?_⟩
      · exact BitVec.isLt _
      · change _ - ((1023 : Nat) + (52 : Nat) : Int) ≤ 971
        omega

/-- A shifted number over a power of two has no more bits than the shift leaves. -/
theorem log2_shiftLeft_div {m k j : Nat} (h : m <<< k / 2 ^ j ≠ 0) :
    (m <<< k / 2 ^ j).log2 + j ≤ m.log2 + k := by
  have hlt : m <<< k < 2 ^ (m.log2 + k + 1) := by
    rw [Nat.shiftLeft_eq, Nat.add_right_comm, Nat.pow_add]
    exact Nat.mul_lt_mul_of_pos_right Nat.lt_log2_self (Nat.two_pow_pos k)
  have hle : 2 ^ ((m <<< k / 2 ^ j).log2 + j) ≤ m <<< k := by
    rw [Nat.pow_add]
    exact Nat.le_trans (Nat.mul_le_mul_right _ (Nat.log2_self_le h)) (Nat.div_mul_le_self _ _)
  have := (Nat.pow_lt_pow_iff_right (by decide)).mp (Nat.lt_of_le_of_lt hle hlt)
  omega

/-- The quotient of a number by two, before it is rounded: neither its exponent nor the one that
its mantissa needs is greater than the exponent of the number less one. -/
theorem divCore_two {m : Nat} (hm : m < 2 ^ 53) (e : Int) :
    let (m', e', _) := divCore .binary64 m e (2 ^ 52) (-51)
    max e' (max (m'.log2 + e' - 52) (-1074)) ≤ max (e - 1) (-1074) := by
  have hbits : m.log2 ≤ 52 := log2_le_of_lt hm
  simp only [divCore, targetExponent_binary64, totalExponent, Nat.log2_two_pow]
  generalize htarget : min (e - -51) (max (↑m.log2 + 1 + e - (↑52 + 1 + -51) - 53) (-1074)) = target
  generalize hshift : (e - -51 - target).toNat = k
  by_cases hzero : m <<< k / 2 ^ 52 = 0
  · rw [hzero, Nat.log2_zero]
    omega
  · have := log2_shiftLeft_div hzero
    omega

theorem div_finite {spec : Format} {s s' : Sign} {m m' : Nat} {e e' : Int} {h : 0 < m}
    {h' : 0 < m'} :
    UnpackedFloat.div spec (.finite s m e h) (.finite s' m' e' h') =
      roundWithAccuracy spec (s / s') (divCore spec m e m' e').1 (divCore spec m e m' e').2.1
        (divCore spec m e m' e').2.2 :=
  rfl

/-- Half of a finite number is finite. -/
theorem isInf_half {x : Float} (h : x.isFinite = true) : (Scalar.half x).isInf = false := by
  change (Float.Model.pack (UnpackedFloat.div .binary64 x.toModel.unpack
    (Scalar.two : Float).toModel.unpack)).isInf = false
  rw [unpack_two]
  rcases unpack_finite h with ⟨s, hx⟩ | ⟨s, m, e, hm, hx, hmantissa, hexponent⟩
  · rw [hx]
    cases s <;> decide
  · have hquotient := divCore_two hmantissa e
    rw [hx, div_finite]
    generalize divCore .binary64 m e (2 ^ 52) (-51) = quotient at hquotient ⊢
    obtain ⟨m', e', acc⟩ := quotient
    dsimp only at hquotient ⊢
    rcases roundWithAccuracy_bounds (s / .positive) m' e' acc with
      hround | ⟨m'', e'', h'', hround, he''⟩
    · rw [hround]
      cases s <;> decide
    · rw [hround]
      exact isInf_pack (by omega)

theorem bounded_half {x : Float} (h : x.isFinite = true) :
    Scalar.bounded (Scalar.half x) = true := by
  change (!(Scalar.half x).isInf) = true
  rw [isInf_half h]
  rfl

theorem bounded_half_half_pi :
    Scalar.bounded (Scalar.half (Scalar.half (Scalar.pi : Float))) = true := by
  decide +kernel

theorem compare_zero {u : UnpackedFloat} (h : (UnpackedFloat.zero .positive).le u = true) :
    u.lt (.zero .positive) = false := by
  cases u with
  | notANumber => rfl
  | zero s => rfl
  | infinity s =>
    cases s with
    | positive => rfl
    | negative => contradiction
  | finite s m e hm =>
    cases s with
    | positive => rfl
    | negative => contradiction

/-- No number is at least zero and less than zero. -/
theorem not_less_zero {x : Float} (h : 0 ≤ x) : Scalar.less x 0 = false := by
  have hle : (UnpackedFloat.zero .positive).le x.toModel.unpack = true :=
    of_decide_eq_true (p := (0 : Float).toModel ≤ x.toModel) h
  change decide (x < 0) = false
  rw [decide_eq_false_iff_not]
  intro hlt
  have hlt : x.toModel.unpack.lt (.zero .positive) = true :=
    of_decide_eq_true (p := x.toModel < (0 : Float).toModel) hlt
  rw [compare_zero hle] at hlt
  contradiction

end CircuitConsole.FloatingPoint
