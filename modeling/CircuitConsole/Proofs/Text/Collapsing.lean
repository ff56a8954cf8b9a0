import CircuitConsole.Proofs.Text.Trimming
import CircuitConsole.Proofs.Text.Words
import CircuitConsole.Text.Character

/-!
Texts with their blanks collapsed. What has no blank in it and stands in a text also stands in the
collapsed text, since it stands inside of one word. The only blank left is the space.
-/

namespace CircuitConsole.Text

variable {c : Char} {s w : List Char}

/-- Trimming takes off blanks at both ends. -/
theorem exists_blanks_trim (s : List Char) : ∃ b b', (∀ c ∈ b, isBlank c = true) ∧
    (∀ c ∈ b', isBlank c = true) ∧ s = b ++ (trim s ++ b') := by
  refine ⟨s.takeWhile isBlank, ((trimLeft s).reverse.takeWhile isBlank).reverse,
    fun c hc => List.mem_takeWhile_imp hc,
    fun c hc => List.mem_takeWhile_imp (List.mem_reverse.mp hc), ?_⟩
  have hright : trim s ++ ((trimLeft s).reverse.takeWhile isBlank).reverse = trimLeft s := by
    rw [trim, trimRight, ← List.reverse_append, List.takeWhile_append_dropWhile,
      List.reverse_reverse]
  rw [hright, trimLeft, List.takeWhile_append_dropWhile]

theorem trim_trim (s : List Char) : trim (trim s) = trim s := by
  obtain ⟨b, b', hb, hb', hs⟩ := exists_blanks_trim s
  have htrim : trim s = trim (b ++ (trim s ++ b')) := congrArg trim hs
  rw [trim_append_left hb, trim_append_right _ hb'] at htrim
  exact htrim.symm

theorem mem_of_mem_trim (h : c ∈ trim s) : c ∈ s := by
  obtain ⟨b, b', -, -, hs⟩ := exists_blanks_trim s
  rw [hs]
  exact List.mem_append_right b (List.mem_append_left b' h)

theorem words_append_blanks {b : List Char} (hb : ∀ c ∈ b, isBlank c = true) (s : List Char) :
    words (b ++ s) = words s := by
  induction b with
  | nil => rfl
  | cons c b ih =>
    obtain ⟨hc, hb⟩ := List.forall_mem_cons.mp hb
    rw [List.cons_append, words_blank hc, ih hb]

theorem words_append_blanks_right {b : List Char} (hb : ∀ c ∈ b, isBlank c = true)
    (s : List Char) : words (s ++ b) = words s := by
  have hnone : words b = [] := by
    have hall := words_append_blanks hb []
    rwa [List.append_nil] at hall
  induction s with
  | nil => exact hnone
  | cons c s ih =>
    cases hc : isBlank c with
    | true => rw [List.cons_append, words_blank hc, ih, words_blank hc]
    | false =>
      cases s with
      | nil =>
        cases b with
        | nil => rfl
        | cons d b =>
          rw [List.cons_append, List.nil_append, words_end hc (hb d (List.mem_cons_self ..)), hnone,
            words_single hc]
      | cons d s =>
        rw [List.cons_append] at ih
        rw [List.cons_append, List.cons_append]
        cases hd : isBlank d with
        | true => rw [words_end hc hd, ih, words_end hc hd]
        | false =>
          obtain ⟨v, ws, hwords⟩ := words_cons hd s
          rw [words_extend hc hd hwords, words_extend hc hd (ih.trans hwords)]

theorem collapse_trim (s : List Char) : collapse (trim s) = collapse s := by
  obtain ⟨b, b', hb, hb', hs⟩ := exists_blanks_trim s
  have hwords : words s = words (trim s) :=
    (congrArg words hs).trans ((words_append_blanks hb _).trans (words_append_blanks_right hb' _))
  rw [collapse, collapse, hwords]

/-- What begins a text and has no blank in it begins the first word. -/
theorem exists_first_word (hw : Solid w) (rest : List Char) :
    ∃ v ws, words (w ++ rest) = v :: ws ∧ w <+: v := by
  obtain ⟨hne, hsolid⟩ := hw
  induction w with
  | nil => exact absurd rfl hne
  | cons c w ih =>
    obtain ⟨hc, hw⟩ := List.forall_mem_cons.mp hsolid
    cases w with
    | nil =>
      obtain ⟨v, ws, hwords⟩ := words_cons hc rest
      exact ⟨c :: v, ws, hwords, List.cons_prefix_cons.mpr ⟨rfl, List.nil_prefix⟩⟩
    | cons d w =>
      obtain ⟨v, ws, hwords, hprefix⟩ := ih (List.cons_ne_nil d w) hw
      have hd : isBlank d = false := hw d (List.mem_cons_self ..)
      exact ⟨c :: v, ws, words_extend hc hd hwords, List.cons_prefix_cons.mpr ⟨rfl, hprefix⟩⟩

/-- Where something without a blank stands, it stands in one word. -/
theorem exists_word_of_infix (hw : Solid w) (h : w <:+: s) : ∃ v ∈ words s, w <:+: v := by
  induction s with
  | nil => exact absurd (List.infix_nil.mp h) hw.nonempty
  | cons c s ih =>
    rcases List.infix_cons_iff.mp h with h | h
    · obtain ⟨rest, hrest⟩ := h
      obtain ⟨v, ws, hwords, hprefix⟩ := exists_first_word hw rest
      exact ⟨v, by rw [← hrest, hwords]; exact List.mem_cons_self .., hprefix.isInfix⟩
    · obtain ⟨v, hv, hinfix⟩ := ih h
      cases hc : isBlank c with
      | true => exact ⟨v, by rwa [words_blank hc], hinfix⟩
      | false =>
        cases s with
        | nil => exact absurd (List.infix_nil.mp h) hw.nonempty
        | cons d s =>
          cases hd : isBlank d with
          | true =>
            rw [words_end hc hd]
            exact ⟨v, List.mem_cons_of_mem _ hv, hinfix⟩
          | false =>
            obtain ⟨u, ws, hwords⟩ := words_cons hd s
            rw [hwords] at hv
            rw [words_extend hc hd hwords]
            rcases List.mem_cons.mp hv with rfl | hv
            · exact ⟨c :: d :: u, List.mem_cons_self .., List.infix_cons hinfix⟩
            · exact ⟨v, List.mem_cons_of_mem _ hv, hinfix⟩

theorem infix_intercalate {separator v : List Char} {ws : List (List Char)} (h : v ∈ ws) :
    v <:+: separator.intercalate ws := by
  induction ws with
  | nil => cases h
  | cons w ws ih =>
    cases ws with
    | nil =>
      obtain rfl := List.mem_singleton.mp h
      simp
    | cons w' ws =>
      rw [List.intercalate_cons_cons]
      rcases List.mem_cons.mp h with rfl | h
      · exact ((List.prefix_append _ _).trans (List.prefix_append _ _)).isInfix
      · exact (ih h).trans (List.suffix_append _ _).isInfix

theorem infix_collapse (hw : Solid w) (h : w <:+: s) : w <:+: collapse s := by
  obtain ⟨v, hv, hinfix⟩ := exists_word_of_infix hw h
  exact hinfix.trans (infix_intercalate hv)

theorem mem_collapse (h : c ∈ s) (hc : isBlank c = false) : c ∈ collapse s := by
  have hsolid : Solid [c] := ⟨List.cons_ne_nil c [], List.forall_mem_singleton.mpr hc⟩
  have hinfix : [c] <:+: s := by
    obtain ⟨a, b, rfl⟩ := List.append_of_mem h
    exact ⟨a, b, by simp⟩
  exact (infix_collapse hsolid hinfix).subset (List.mem_singleton_self c)

theorem mem_intercalate {separator : List Char} {ws : List (List Char)}
    (h : c ∈ separator.intercalate ws) : c ∈ separator ∨ ∃ w ∈ ws, c ∈ w := by
  induction ws with
  | nil => cases h
  | cons w ws ih =>
    cases ws with
    | nil =>
      rw [List.intercalate_singleton] at h
      exact .inr ⟨w, List.mem_singleton_self w, h⟩
    | cons w' ws =>
      rw [List.intercalate_cons_cons, List.mem_append, List.mem_append] at h
      rcases h with (h | h) | h
      · exact .inr ⟨w, List.mem_cons_self .., h⟩
      · exact .inl h
      · rcases ih h with h | ⟨v, hv, h⟩
        · exact .inl h
        · exact .inr ⟨v, List.mem_cons_of_mem w hv, h⟩

theorem eq_space_of_mem_collapse (h : c ∈ collapse s) (hc : isBlank c = true) : c = ' ' := by
  rcases mem_intercalate h with h | ⟨w, hw, h⟩
  · exact List.mem_singleton.mp h
  · rw [(words_solid s w hw).solid c h] at hc
    cases hc

section Points

def blankPoints : List Nat :=
  [9, 10, 11, 12, 13, 28, 29, 30, 31, 32, 0x85, 0xA0, 0x1680, 0x2000, 0x2001, 0x2002, 0x2003,
    0x2004, 0x2005, 0x2006, 0x2007, 0x2008, 0x2009, 0x200A, 0x2028, 0x2029, 0x202F, 0x205F, 0x3000]

theorem mem_blankPoints (h : isBlank c = true) : c.toNat ∈ blankPoints := by
  simp only [isBlank, Bool.or_eq_true, Bool.and_eq_true, decide_eq_true_eq, beq_iff_eq] at h
  simp only [blankPoints, List.mem_cons, List.not_mem_nil, or_false]
  omega

/-- No blank can stand in a word. -/
theorem isBlank_of_isWord (h : isWord c = true) : isBlank c = false := by
  by_contra hblank
  have hpoint := mem_blankPoints (by simpa using hblank)
  have hnone : ∀ n ∈ blankPoints, isWord (Char.ofNat n) = false := by decide +kernel
  have hc := hnone c.toNat hpoint
  rw [Char.ofNat_toNat, h] at hc
  cases hc

end Points

end CircuitConsole.Text
