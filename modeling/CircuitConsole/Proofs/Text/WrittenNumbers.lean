import CircuitConsole.Text.Integer
import Mathlib.Data.List.Induction
import Mathlib.Tactic.IntervalCases

/-!
Numbers written in base ten. Their digits are read back as the number, unless there are too many of
them; and whatever digits are read as a number, of that number there are not too many. A spelled
number is made of groups of digits with single underscores between them, behind at most one sign;
signs and underscores are not counted.
-/

namespace CircuitConsole.Text

variable {digits s : List Char} {groups : List (List Char)} {c : Char} {n d : Nat}

theorem digitValue?_lt (h : digitValue? c = some n) : n < 10 := by
  obtain ⟨z, hz, rfl⟩ := Option.map_eq_some_iff.mp h
  have hrange := List.find?_some hz
  simp only [Bool.and_eq_true, decide_eq_true_eq] at hrange
  omega

theorem digitsToNat_concat (digits : List Char) (c : Char) :
    digitsToNat (digits ++ [c]) = 10 * digitsToNat digits + (digitValue? c).getD 0 := by
  rw [digitsToNat, List.foldl_append]
  rfl

theorem digitsToNat_lt (digits : List Char) : digitsToNat digits < 10 ^ digits.length := by
  induction digits using List.reverseRecOn with
  | nil => exact Nat.one_pos
  | append_singleton digits c ih =>
    have hlast : (digitValue? c).getD 0 < 10 := by
      cases hc : digitValue? c with
      | none => exact Nat.succ_pos 9
      | some v => exact digitValue?_lt hc
    rw [digitsToNat_concat, List.length_append, List.length_singleton, Nat.pow_succ]
    omega

theorem readNat_lt (h : readNat digits = .ok n) : n < 10 ^ digitLimit := by
  unfold readNat at h
  split at h
  · rename_i hlength
    obtain rfl := Except.ok.inj h
    exact (digitsToNat_lt digits).trans_le (Nat.pow_le_pow_right (by omega) hlength)
  · cases h

theorem digitValue?_digitChar (h : d < 10) : digitValue? d.digitChar = some d := by
  interval_cases d <;> rfl

theorem digitsToNat_toDigits (n : Nat) : digitsToNat (Nat.toDigits 10 n) = n := by
  induction n using Nat.strongRecOn with
  | ind n ih =>
    rw [Nat.toDigits_eq_if (by omega)]
    split
    · rename_i hn
      have hsingle := digitsToNat_concat [] n.digitChar
      rw [List.nil_append, digitValue?_digitChar hn] at hsingle
      rw [hsingle]
      exact Nat.zero_add n
    · rename_i hn
      rw [digitsToNat_concat, ih (n / 10) (by omega), digitValue?_digitChar (by omega),
        Option.getD_some]
      omega

theorem isDigit_of_mem_toDigits (h : c ∈ Nat.toDigits 10 n) : isDigit c = true := by
  induction n using Nat.strongRecOn with
  | ind n ih =>
    have hdigit {d : Nat} (hd : d < 10) : isDigit d.digitChar = true := by
      rw [isDigit, digitValue?_digitChar hd]
      rfl
    rw [Nat.toDigits_eq_if (by omega)] at h
    split at h
    · rename_i hn
      rw [List.mem_singleton.mp h]
      exact hdigit hn
    · rename_i hn
      rcases List.mem_append.mp h with h | h
      · exact ih (n / 10) (by omega) h
      · rw [List.mem_singleton.mp h]
        exact hdigit (by omega)

/-- A number without too many digits is read back. -/
theorem readNat_toDigits (h : n < 10 ^ digitLimit) : readNat (Nat.toDigits 10 n) = .ok n := by
  have hlength : (Nat.toDigits 10 n).length ≤ digitLimit :=
    (Nat.length_toDigits_le_iff (by omega) (by decide)).mpr h
  rw [readNat, if_pos hlength, digitsToNat_toDigits]

/-- Groups of digits, of whatever scripts; there is at least one, and none is empty. -/
structure DigitGroups (groups : List (List Char)) : Prop where
  nonempty : groups ≠ []
  digits : ∀ group ∈ groups, group ≠ [] ∧ ∀ c ∈ group, isDigit c = true

section Groups

theorem groupedDigits?_cons {d : Char} (hc : isDigit c = true) (hd : d ≠ '_') (s : List Char) :
    groupedDigits? (c :: d :: s) = (groupedDigits? (d :: s)).map (c :: ·) := by
  rw [groupedDigits?.eq_def]
  split
  · rename_i heq
    cases heq
  · rename_i heq
    cases heq
  · rename_i heq
    obtain ⟨-, heq⟩ := List.cons.inj heq
    exact absurd (List.cons.inj heq).1 hd
  · rename_i heq
    obtain ⟨rfl, rfl⟩ := List.cons.inj heq
    exact if_pos hc

/-- A group is read as far as it goes. -/
theorem groupedDigits?_append {group : List Char} (hne : group ≠ [])
    (hgroup : ∀ c ∈ group, isDigit c = true) (s : List Char) :
    groupedDigits? (group ++ '_' :: s) = (groupedDigits? s).map (group ++ ·) := by
  induction group with
  | nil => exact absurd rfl hne
  | cons c group ih =>
    obtain ⟨hc, hgroup⟩ := List.forall_mem_cons.mp hgroup
    cases group with
    | nil => exact if_pos hc
    | cons d group =>
      have hd : d ≠ '_' := by
        rintro rfl
        cases hgroup '_' (List.mem_cons_self ..)
      rw [List.cons_append] at ih
      rw [List.cons_append, List.cons_append, groupedDigits?_cons hc hd,
        ih (List.cons_ne_nil d group) hgroup, Option.map_map]
      rfl

theorem groupedDigits?_group {group : List Char} (hne : group ≠ [])
    (hgroup : ∀ c ∈ group, isDigit c = true) : groupedDigits? group = some group := by
  induction group with
  | nil => exact absurd rfl hne
  | cons c group ih =>
    obtain ⟨hc, hgroup⟩ := List.forall_mem_cons.mp hgroup
    cases group with
    | nil => exact if_pos hc
    | cons d group =>
      have hd : d ≠ '_' := by
        rintro rfl
        cases hgroup '_' (List.mem_cons_self ..)
      rw [groupedDigits?_cons hc hd, ih (List.cons_ne_nil d group) hgroup]
      rfl

theorem groupedDigits?_intercalate (h : DigitGroups groups) :
    groupedDigits? (['_'].intercalate groups) = some groups.flatten := by
  obtain ⟨hne, hgroups⟩ := h
  induction groups with
  | nil => exact absurd rfl hne
  | cons group groups ih =>
    obtain ⟨⟨hgroup, hdigits⟩, hgroups⟩ := List.forall_mem_cons.mp hgroups
    cases groups with
    | nil =>
      rw [List.intercalate_singleton, groupedDigits?_group hgroup hdigits]
      simp
    | cons next groups =>
      rw [List.intercalate_cons_cons, List.append_assoc, List.singleton_append,
        groupedDigits?_append hgroup hdigits, ih (List.cons_ne_nil next groups) hgroups]
      rfl

/-- What is read as digits is made of groups. -/
theorem exists_groups (h : groupedDigits? s = some digits) :
    ∃ groups, DigitGroups groups ∧ s = ['_'].intercalate groups ∧ digits = groups.flatten := by
  fun_induction groupedDigits? s generalizing digits with
  | case1 => cases h
  | case2 c hc =>
    obtain rfl := Option.some.inj h
    refine ⟨[[c]], ⟨List.cons_ne_nil _ _, ?_⟩, rfl, rfl⟩
    exact List.forall_mem_singleton.mpr ⟨List.cons_ne_nil _ _, List.forall_mem_singleton.mpr hc⟩
  | case3 => cases h
  | case4 c rest hc ih =>
    obtain ⟨later, hlater, rfl⟩ := Option.map_eq_some_iff.mp h
    obtain ⟨groups, ⟨hne, hgroups⟩, rfl, rfl⟩ := ih hlater
    refine ⟨[c] :: groups, ⟨List.cons_ne_nil _ _, List.forall_mem_cons.mpr ⟨?_, hgroups⟩⟩, ?_, rfl⟩
    · exact ⟨List.cons_ne_nil _ _, List.forall_mem_singleton.mpr hc⟩
    · obtain ⟨group, groups, rfl⟩ := List.exists_cons_of_ne_nil hne
      rw [List.intercalate_cons_cons]
      rfl
  | case5 => cases h
  | case6 c rest _ _ hc ih =>
    obtain ⟨later, hlater, rfl⟩ := Option.map_eq_some_iff.mp h
    obtain ⟨groups, ⟨hne, hgroups⟩, rfl, rfl⟩ := ih hlater
    obtain ⟨group, groups, rfl⟩ := List.exists_cons_of_ne_nil hne
    obtain ⟨⟨-, hdigits⟩, hgroups⟩ := List.forall_mem_cons.mp hgroups
    refine ⟨(c :: group) :: groups, ⟨List.cons_ne_nil _ _, List.forall_mem_cons.mpr ⟨?_, hgroups⟩⟩,
      ?_, rfl⟩
    · exact ⟨List.cons_ne_nil _ _, List.forall_mem_cons.mpr ⟨hc, hdigits⟩⟩
    · cases groups with
      | nil => rfl
      | cons next groups =>
        rw [List.intercalate_cons_cons, List.intercalate_cons_cons]
        rfl
  | case7 => cases h

end Groups

section Signs

def signTexts : List (List Char) := [[], ['+'], ['-']]

def signedValue (sign digits : List Char) : Int :=
  if sign = ['-'] then -(digitsToNat digits : Int) else digitsToNat digits

theorem head_of_groupedDigits? (h : groupedDigits? s = some digits) :
    ∀ c ∈ s.head?, isDigit c = true := by
  obtain ⟨groups, ⟨hne, hgroups⟩, rfl, -⟩ := exists_groups h
  obtain ⟨group, groups, rfl⟩ := List.exists_cons_of_ne_nil hne
  obtain ⟨⟨hgroup, hdigits⟩, -⟩ := List.forall_mem_cons.mp hgroups
  obtain ⟨d, group, rfl⟩ := List.exists_cons_of_ne_nil hgroup
  have hd : isDigit d = true := hdigits d (List.mem_cons_self ..)
  intro c hc
  cases groups with
  | nil =>
    obtain rfl := Option.some.inj hc
    exact hd
  | cons next groups =>
    rw [List.intercalate_cons_cons] at hc
    obtain rfl := Option.some.inj hc
    exact hd

theorem readInt?_signed {sign : List Char} (hsign : sign ∈ signTexts)
    (hdigits : groupedDigits? s = some digits) (hlength : digits.length ≤ digitLimit) :
    readInt? (sign ++ s) = some (signedValue sign digits) := by
  simp only [signTexts, List.mem_cons, List.not_mem_nil, or_false] at hsign
  rcases hsign with rfl | rfl | rfl
  · have hnone (c : Char) (hc : isDigit c = false) : s.head? ≠ some c := by
      intro hhead
      rw [head_of_groupedDigits? hdigits c hhead] at hc
      cases hc
    rw [List.nil_append]
    unfold readInt?
    split
    rename_i negative rest hrest
    split at hrest
    · exact absurd rfl (hnone '-' (by decide))
    · exact absurd rfl (hnone '+' (by decide))
    · obtain ⟨rfl, rfl⟩ := Prod.mk.inj hrest
      simp only [hdigits, if_pos hlength]
      rfl
  · simp only [List.singleton_append, readInt?, hdigits, if_pos hlength]
    rfl
  · simp only [List.singleton_append, readInt?, hdigits, if_pos hlength]
    rfl

theorem exists_sign {n : Int} (h : readInt? s = some n) :
    ∃ sign ∈ signTexts, ∃ rest digits, s = sign ++ rest ∧ groupedDigits? rest = some digits ∧
      digits.length ≤ digitLimit ∧ n = signedValue sign digits := by
  unfold readInt? at h
  split at h
  rename_i negative rest hrest
  split at h
  · rename_i digits hdigits
    split at h
    · rename_i hlength
      obtain rfl := Option.some.inj h
      split at hrest
      · obtain ⟨rfl, rfl⟩ := Prod.mk.inj hrest
        exact ⟨['-'], by simp [signTexts], _, digits, rfl, hdigits, hlength, rfl⟩
      · obtain ⟨rfl, rfl⟩ := Prod.mk.inj hrest
        exact ⟨['+'], by simp [signTexts], _, digits, rfl, hdigits, hlength, rfl⟩
      · obtain ⟨rfl, rfl⟩ := Prod.mk.inj hrest
        exact ⟨[], by simp [signTexts], _, digits, rfl, hdigits, hlength, rfl⟩
    · cases h
  · cases h

def NaturalText (s : List Char) : Prop :=
  ∃ sign ∈ signTexts, ∃ groups, DigitGroups groups ∧ s = sign ++ ['_'].intercalate groups ∧
    groups.flatten.length ≤ digitLimit ∧ 0 ≤ signedValue sign groups.flatten

/-- Exactly such texts are read as natural numbers. -/
theorem naturalText_iff : NaturalText s ↔ ∃ n : Nat, readInt? s = some (n : Int) := by
  constructor
  · rintro ⟨sign, hsign, groups, hgroups, rfl, hlength, hvalue⟩
    obtain ⟨n, hn⟩ := Int.eq_ofNat_of_zero_le hvalue
    refine ⟨n, ?_⟩
    rw [readInt?_signed hsign (groupedDigits?_intercalate hgroups) hlength, hn]
  · rintro ⟨n, hn⟩
    obtain ⟨sign, hsign, rest, digits, rfl, hdigits, hlength, hvalue⟩ := exists_sign hn
    obtain ⟨groups, hgroups, rfl, rfl⟩ := exists_groups hdigits
    exact ⟨sign, hsign, groups, hgroups, rfl, hlength, hvalue ▸ Int.natCast_nonneg n⟩

end Signs

end CircuitConsole.Text
