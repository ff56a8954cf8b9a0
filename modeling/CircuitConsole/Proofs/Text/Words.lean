import CircuitConsole.Proofs.Text.Trimming
import CircuitConsole.Text.Integer

/-!
Words of a text. A solid text, one with something in it and no blank, is one word, also before a
blank. Whole numbers as they are spelled are solid, since no digit of any script is a blank.
-/

namespace CircuitConsole.Text

structure Solid (w : List Char) : Prop where
  nonempty : w ≠ []
  solid : ∀ c ∈ w, isBlank c = false

theorem solid_of_all {w : List Char} (hne : w ≠ []) (h : w.all (fun c => !isBlank c) = true) :
    Solid w :=
  ⟨hne, fun c hc => by simpa using List.all_eq_true.mp h c hc⟩

theorem trimRight_solid {w : List Char} (hw : Solid w) (s : List Char) :
    trimRight (w ++ s) = w ++ trimRight s := by
  have hnil : trimRight w = w := by
    unfold trimRight
    cases hreverse : w.reverse with
    | nil => exact absurd (List.reverse_eq_nil_iff.mp hreverse) hw.nonempty
    | cons c cs =>
      have hc : isBlank c = false :=
        hw.solid c (List.mem_reverse.mp (hreverse ▸ List.mem_cons_self ..))
      rw [List.dropWhile_cons_of_neg (by simp [hc]), ← hreverse, List.reverse_reverse]
  rw [trimRight_append_eq]
  split
  · rename_i hblank
    rw [hblank, List.append_nil, hnil]
  · rfl

theorem words_blank {b : Char} (hb : isBlank b = true) (rest : List Char) :
    words (b :: rest) = words rest := by
  rw [words.eq_def]
  simp only [hb, if_true]

theorem words_single {c : Char} (hc : isBlank c = false) : words [c] = [[c]] := by
  rw [words.eq_def]
  simp only [hc]
  rfl

theorem words_end {c b : Char} (hc : isBlank c = false) (hb : isBlank b = true)
    (rest : List Char) : words (c :: b :: rest) = [c] :: words (b :: rest) := by
  rw [words.eq_def]
  simp only [hc, hb, if_true]
  rfl

theorem words_extend {c d : Char} (hc : isBlank c = false) (hd : isBlank d = false)
    {rest w : List Char} {ws : List (List Char)} (h : words (d :: rest) = w :: ws) :
    words (c :: d :: rest) = (c :: w) :: ws := by
  rw [words.eq_def]
  simp only [hc, hd, h]
  rfl

/-- A solid text is the first word of any text in which a blank follows it, or nothing. -/
theorem words_append {w rest : List Char} (h : Solid w)
    (hrest : ∀ c, rest.head? = some c → isBlank c = true) :
    words (w ++ rest) = w :: words rest := by
  obtain ⟨hne, hsolid⟩ := h
  induction w with
  | nil => exact absurd rfl hne
  | cons c w ih =>
    have hc : isBlank c = false := hsolid c (List.mem_cons_self ..)
    cases w with
    | nil =>
      cases rest with
      | nil => exact words_single hc
      | cons b rest => exact words_end hc (hrest b rfl) rest
    | cons d w =>
      have hd : isBlank d = false := hsolid d (by simp)
      have htail := ih (by simp) (fun x hx => hsolid x (List.mem_cons_of_mem c hx))
      exact words_extend hc hd htail

theorem words_of_solid {w : List Char} (h : Solid w) : words w = [w] := by
  have hwords := @words_append w [] h (fun c hc => by simp at hc)
  rw [List.append_nil] at hwords
  exact hwords

theorem words_append_blank {w : List Char} (h : Solid w) {b : Char} (hb : isBlank b = true)
    (rest : List Char) : words (w ++ b :: rest) = w :: words rest := by
  have hrest : ∀ c, (b :: rest).head? = some c → isBlank c = true := by
    intro c hc
    obtain rfl := Option.some.inj hc
    exact hb
  rw [words_append h hrest, words_blank hb]

/-- The first word of a text begins where the text does. -/
theorem words_cons {c : Char} (hc : isBlank c = false) (rest : List Char) :
    ∃ w ws, words (c :: rest) = (c :: w) :: ws := by
  cases rest with
  | nil => exact ⟨[], [], words_single hc⟩
  | cons d rest =>
    cases hd : isBlank d with
    | true => exact ⟨[], _, words_end hc hd rest⟩
    | false =>
      obtain ⟨w, ws, h⟩ := words_cons hd rest
      exact ⟨d :: w, ws, words_extend hc hd h⟩

/-- The words of two texts with a blank between them are those of the one and then of the other. -/
theorem words_append_of_blank {b : Char} (hb : isBlank b = true) (s rest : List Char) :
    words (s ++ b :: rest) = words s ++ words rest := by
  induction s with
  | nil => exact words_blank hb rest
  | cons c s ih =>
    cases hc : isBlank c with
    | true =>
      rw [List.cons_append, words_blank hc, words_blank hc]
      exact ih
    | false =>
      cases s with
      | nil =>
        rw [List.singleton_append, words_end hc hb, words_blank hb, words_single hc]
        rfl
      | cons d s =>
        cases hd : isBlank d with
        | true =>
          rw [words_end hc hd]
          exact (words_end hc hd (s ++ b :: rest)).trans (congrArg ([c] :: ·) ih)
        | false =>
          obtain ⟨w, ws, hwords⟩ := words_cons hd s
          have hboth : words (d :: (s ++ b :: rest)) = (d :: w) :: (ws ++ words rest) := by
            rw [← List.cons_append, ih, hwords]
            rfl
          rw [words_extend hc hd hwords]
          exact words_extend hc hd hboth

/-- Every word is solid. -/
theorem words_solid (s : List Char) : ∀ w ∈ words s, Solid w := by
  induction s with
  | nil => exact fun _ hw => absurd hw List.not_mem_nil
  | cons c rest ih =>
    cases hc : isBlank c with
    | true => rwa [words_blank hc]
    | false =>
      have hsingle : Solid [c] := ⟨by simp, by simpa using hc⟩
      cases rest with
      | nil => simpa [words_single hc] using hsingle
      | cons d rest =>
        cases hd : isBlank d with
        | true => simpa [words_end hc hd] using ⟨hsingle, ih⟩
        | false =>
          obtain ⟨w, ws, h⟩ := words_cons hd rest
          rw [h] at ih
          obtain ⟨⟨_, hsolid⟩, hws⟩ := List.forall_mem_cons.mp ih
          rw [words_extend hc hd h]
          exact List.forall_mem_cons.mpr
            ⟨⟨by simp, List.forall_mem_cons.mpr ⟨hc, hsolid⟩⟩, hws⟩

/-- Solid texts with spaces between them are the words of what they make. -/
theorem words_spaced {ws : List (List Char)} (h : ∀ w ∈ ws, Solid w) :
    words ([' '].intercalate ws) = ws := by
  induction ws with
  | nil => rfl
  | cons w ws ih =>
    obtain ⟨hw, hws⟩ := List.forall_mem_cons.mp h
    cases ws with
    | nil => simpa [List.intercalate] using words_of_solid hw
    | cons v ws =>
      have hspaced : [' '].intercalate (w :: v :: ws) =
          w ++ ' ' :: [' '].intercalate (v :: ws) := by
        simp [List.intercalate]
      rw [hspaced, words_append_blank hw (by decide), ih hws]

/-- The blanks in front of a text do not count for its words. -/
theorem words_trimLeft (s : List Char) : words (trimLeft s) = words s := by
  induction s with
  | nil => rfl
  | cons c rest ih =>
    cases hc : isBlank c with
    | true => rw [words_blank hc, ← ih, trimLeft, List.dropWhile_cons_of_pos hc, trimLeft]
    | false => rw [trimLeft, List.dropWhile_cons_of_neg (by simp [hc])]

/-- Trimmed at its left, a text begins with no blank. -/
theorem isBlank_of_trimLeft {s rest : List Char} {c : Char} (h : trimLeft s = c :: rest) :
    isBlank c = false := by
  have hhead := List.head?_dropWhile_not isBlank s
  rw [show s.dropWhile isBlank = c :: rest from h] at hhead
  simpa using hhead

/-- A text with something other than blanks in it is not trimmed to nothing. -/
theorem trim_ne_nil {s : List Char} {c : Char} (hc : c ∈ trimLeft s) (hsolid : isBlank c = false) :
    trim s ≠ [] := by
  intro h
  have hblank := List.dropWhile_eq_nil_iff.mp (List.reverse_eq_nil_iff.mp h) c (by simpa using hc)
  rw [hsolid] at hblank
  exact absurd hblank (by simp)

section Digits

/-- The digits of every script stand clear of the blanks. -/
theorem digitZeros_clear : ∀ z ∈ digitZeros, (z + 9 < 9 ∨ 13 < z) ∧ (z + 9 < 28 ∨ 32 < z) ∧
    (z + 9 < 0x85 ∨ 0x85 < z) ∧ (z + 9 < 0xA0 ∨ 0xA0 < z) ∧ (z + 9 < 0x1680 ∨ 0x1680 < z) ∧
    (z + 9 < 0x2000 ∨ 0x200A < z) ∧ (z + 9 < 0x2028 ∨ 0x2029 < z) ∧ (z + 9 < 0x202F ∨ 0x202F < z) ∧
    (z + 9 < 0x205F ∨ 0x205F < z) ∧ (z + 9 < 0x3000 ∨ 0x3000 < z) := by decide

theorem isBlank_of_isDigit {c : Char} (h : isDigit c = true) : isBlank c = false := by
  unfold isDigit digitValue? at h
  rw [Option.isSome_map, List.find?_isSome] at h
  obtain ⟨z, hz, hrange⟩ := h
  have hclear := digitZeros_clear z hz
  simp only [Bool.and_eq_true, decide_eq_true_eq] at hrange
  simp only [isBlank, Bool.or_eq_false_iff, Bool.and_eq_false_iff, decide_eq_false_iff_not,
    beq_eq_false_iff_ne]
  omega

def isNumeral (c : Char) : Bool := isDigit c || c == '_' || c == '-' || c == '+'

theorem isBlank_of_isNumeral {c : Char} (h : isNumeral c = true) : isBlank c = false := by
  simp only [isNumeral, Bool.or_eq_true, beq_iff_eq] at h
  rcases h with ((hdigit | rfl) | rfl) | rfl
  · exact isBlank_of_isDigit hdigit
  · decide
  · decide
  · decide

theorem isNumeral_of_isDigit {c : Char} (h : isDigit c = true) : isNumeral c = true := by
  rw [isNumeral, h]
  rfl

theorem groupedDigits_numeral {s ds : List Char} (h : groupedDigits? s = some ds) :
    s ≠ [] ∧ ∀ c ∈ s, isNumeral c = true := by
  fun_induction groupedDigits? s generalizing ds with
  | case1 => cases h
  | case2 c hc => exact ⟨by simp, by simpa using isNumeral_of_isDigit hc⟩
  | case3 c hc => cases h
  | case4 c rest hc ih =>
    obtain ⟨ds', hds', _⟩ := Option.map_eq_some_iff.mp h
    have hunderscore : isNumeral '_' = true := by decide
    have hrest : ∀ x ∈ '_' :: rest, isNumeral x = true :=
      List.forall_mem_cons.mpr ⟨hunderscore, (ih hds').2⟩
    exact ⟨by simp, List.forall_mem_cons.mpr ⟨isNumeral_of_isDigit hc, hrest⟩⟩
  | case5 c rest hc => cases h
  | case6 c rest _ _ hc ih =>
    obtain ⟨ds', hds', _⟩ := Option.map_eq_some_iff.mp h
    exact ⟨by simp, List.forall_mem_cons.mpr ⟨isNumeral_of_isDigit hc, (ih hds').2⟩⟩
  | case7 c rest _ _ hc => cases h

/-- Whole numbers are spelled with digits, underscores and signs. -/
theorem readInt_numeral {s : List Char} {n : Int} (h : readInt? s = some n) :
    s ≠ [] ∧ ∀ c ∈ s, isNumeral c = true := by
  unfold readInt? at h
  split at h
  rename_i negative digits hsign
  cases hgrouped : groupedDigits? digits with
  | none => simp [hgrouped] at h
  | some ds =>
    obtain ⟨hne, hnumeral⟩ := groupedDigits_numeral hgrouped
    split at hsign
    · obtain ⟨rfl, rfl⟩ := Prod.mk.inj hsign
      exact ⟨by simp, List.forall_mem_cons.mpr ⟨by decide, hnumeral⟩⟩
    · obtain ⟨rfl, rfl⟩ := Prod.mk.inj hsign
      exact ⟨by simp, List.forall_mem_cons.mpr ⟨by decide, hnumeral⟩⟩
    · obtain ⟨rfl, rfl⟩ := Prod.mk.inj hsign
      exact ⟨hne, hnumeral⟩

theorem solid_of_readInt {s : List Char} {n : Int} (h : readInt? s = some n) : Solid s :=
  ⟨(readInt_numeral h).1, fun c hc => isBlank_of_isNumeral ((readInt_numeral h).2 c hc)⟩

end Digits

end CircuitConsole.Text
