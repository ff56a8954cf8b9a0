import CircuitConsole.Proofs.Text.Collapsing
import Mathlib.Data.List.Chain

/-!
Texts with single spaces. A collapsed text has no other blanks than single spaces between its words,
and a text of this kind stays as it is when it is collapsed. Such texts can be put together and have
their ends replaced, as long as no two blanks meet.
-/

namespace CircuitConsole.Text

variable {s t u w x y : List Char} {c : Char}

section Words

theorem isPrefix_first_word {ws : List (List Char)} (hc : isBlank c = false)
    (h : words (c :: s) = w :: ws) : w <+: c :: s := by
  induction s generalizing c w ws with
  | nil =>
    rw [words_single hc] at h
    obtain ⟨rfl, -⟩ := List.cons.inj h
    exact List.prefix_refl [c]
  | cons d s ih =>
    cases hd : isBlank d with
    | true =>
      rw [words_end hc hd] at h
      rw [← (List.cons.inj h).1]
      exact List.prefix_append [c] (d :: s)
    | false =>
      obtain ⟨v, vs, hwords⟩ := words_cons hd s
      rw [words_extend hc hd hwords] at h
      rw [← (List.cons.inj h).1]
      exact List.cons_prefix_cons.mpr ⟨rfl, ih hd hwords⟩

/-- The words of a text stand in it. -/
theorem infix_of_words (s : List Char) : ∀ w ∈ words s, w <:+: s := by
  induction s with
  | nil => exact List.forall_mem_nil _
  | cons c s ih =>
    have hlater : ∀ w ∈ words s, w <:+: c :: s := fun w hw => List.infix_cons (ih w hw)
    cases hc : isBlank c with
    | true => rwa [words_blank hc]
    | false =>
      obtain ⟨w, ws, hwords⟩ := words_cons hc s
      have hfirst := (isPrefix_first_word hc hwords).isInfix
      rw [hwords]
      refine List.forall_mem_cons.mpr ⟨hfirst, fun v hv => hlater v ?_⟩
      cases s with
      | nil =>
        rw [words_single hc] at hwords
        cases hwords
        cases hv
      | cons d s =>
        cases hd : isBlank d with
        | true =>
          rw [words_end hc hd] at hwords
          obtain ⟨-, rfl⟩ := List.cons.inj hwords
          exact hv
        | false =>
          obtain ⟨u, us, hrest⟩ := words_cons hd s
          rw [words_extend hc hd hrest] at hwords
          obtain ⟨-, rfl⟩ := List.cons.inj hwords
          rw [hrest]
          exact List.mem_cons_of_mem _ hv

theorem mem_of_collapse (h : c ∈ collapse s) (hc : isBlank c = false) : c ∈ s := by
  rcases mem_intercalate h with h | ⟨w, hw, h⟩
  · obtain rfl := List.mem_singleton.mp h
    cases hc
  · exact (infix_of_words s w hw).subset h

/-- What stands in a collapsed text without a blank has stood in the text. -/
theorem infix_of_collapse (hw : Solid w) (h : w <:+: collapse s) : w <:+: s := by
  obtain ⟨v, hv, hinfix⟩ := exists_word_of_infix hw h
  unfold collapse at hv
  rw [words_spaced (words_solid s)] at hv
  exact hinfix.trans (infix_of_words s v hv)

end Words

def Apart (c d : Char) : Prop := isBlank c = true → isBlank d = false

structure Spaced (s : List Char) : Prop where
  apart : s.IsChain Apart
  spaces : ∀ c ∈ s, isBlank c = true → c = ' '
  first : ∀ c ∈ s.head?, isBlank c = false
  last : ∀ c ∈ s.getLast?, isBlank c = false

theorem Solid.spaced (h : Solid s) : Spaced s where
  apart :=
    have hall : ∀ c ∈ s, ∀ d ∈ s, Apart c d := fun _ _ d hd _ => h.solid d hd
    (List.pairwise_of_forall_mem_list hall).isChain
  spaces c hc hblank := by
    rw [h.solid c hc] at hblank
    cases hblank
  first c hc := h.solid c (List.mem_of_head? hc)
  last c hc := h.solid c (List.mem_of_getLast? hc)

/-- Two texts with a space between them. -/
theorem Spaced.append (hs : Spaced s) (ht : Spaced t) (hsne : s ≠ []) (htne : t ≠ []) :
    Spaced (s ++ ' ' :: t) where
  apart := by
    refine List.isChain_append.mpr ⟨hs.apart, List.isChain_cons.mpr ⟨?_, ht.apart⟩, ?_⟩
    · intro c hc _
      exact ht.first c hc
    · intro c hc d _ hblank
      rw [hs.last c hc] at hblank
      cases hblank
  spaces := by
    intro c hc
    rcases List.mem_append.mp hc with hc | hc
    · exact hs.spaces c hc
    · rcases List.mem_cons.mp hc with rfl | hc
      · exact fun _ => rfl
      · exact ht.spaces c hc
  first c hc := hs.first c (by rwa [List.head?_append_of_ne_nil _ hsne] at hc)
  last c hc := by
    rw [List.getLast?_append_of_ne_nil _ (List.cons_ne_nil _ _),
      List.getLast?_cons_of_ne_nil htne] at hc
    exact ht.last c hc

/-- The end of a text replaced by another one. -/
theorem Spaced.replace (h : Spaced (u ++ x)) (hy : Spaced y) (hne : y ≠ []) :
    Spaced (u ++ y) where
  apart := by
    refine List.isChain_append.mpr ⟨h.apart.left_of_append, hy.apart, fun c _ d hd _ => ?_⟩
    exact hy.first d hd
  spaces := by
    intro c hc
    rcases List.mem_append.mp hc with hc | hc
    · exact h.spaces c (List.mem_append_left x hc)
    · exact hy.spaces c hc
  first c hc := by
    cases u with
    | nil => exact hy.first c hc
    | cons d u => exact h.first c hc
  last c hc := hy.last c (by rwa [List.getLast?_append_of_ne_nil _ hne] at hc)

theorem Spaced.cons (hc : isBlank c = false) (hs : Spaced s) (hne : s ≠ []) : Spaced (c :: s) where
  apart := List.isChain_cons.mpr ⟨fun d _ hblank => absurd hblank (by simp [hc]), hs.apart⟩
  spaces := List.forall_mem_cons.mpr ⟨fun hblank => absurd hblank (by simp [hc]), hs.spaces⟩
  first d hd := by
    obtain rfl := Option.some.inj hd
    exact hc
  last d hd := hs.last d (by rwa [List.getLast?_cons_of_ne_nil hne] at hd)

/-- The end of a text, if it does not begin with a blank. -/
theorem Spaced.end (h : Spaced (u ++ x)) (hx : trimLeft x = x) : Spaced x where
  apart := h.apart.right_of_append
  spaces c hc := h.spaces c (List.mem_append_right u hc)
  first c hc := by
    obtain ⟨rest, hrest⟩ := List.head?_eq_some_iff.mp hc
    exact isBlank_of_trimLeft (hx.trans hrest)
  last c hc := h.last c (by
    rwa [List.getLast?_append_of_ne_nil _ (List.ne_nil_of_mem (List.mem_of_getLast? hc))])

/-- Between two parts of a text there is at most one blank, and it is a space. -/
theorem Spaced.blanks_eq (h : Spaced (u ++ (y ++ x))) (hy : ∀ c ∈ y, isBlank c = true)
    (hne : y ≠ []) : y = [' '] := by
  obtain ⟨c, rest, rfl⟩ := List.exists_cons_of_ne_nil hne
  have hc := hy c (List.mem_cons_self ..)
  obtain rfl := h.spaces c (by simp) hc
  cases rest with
  | nil => rfl
  | cons d rest =>
    have hapart : Apart ' ' d := (List.isChain_cons_cons.mp h.apart.right_of_append).1
    have hd := hy d (by simp)
    rw [hapart hc] at hd
    cases hd

theorem Spaced.blanks_end (h : Spaced (u ++ y)) (hy : ∀ c ∈ y, isBlank c = true) : y = [] := by
  cases hlast : y.getLast? with
  | none => exact List.getLast?_eq_none_iff.mp hlast
  | some c =>
    have hc := List.mem_of_getLast? hlast
    have hsolid := h.last c (by
      rwa [List.getLast?_append_of_ne_nil _ (List.ne_nil_of_mem hc)])
    rw [hy c hc] at hsolid
    cases hsolid

theorem isBlank_getLast_trim (s : List Char) : ∀ c ∈ (trim s).getLast?, isBlank c = false := by
  intro c hc
  have hhead := List.head?_dropWhile_not isBlank (trimLeft s).reverse
  rw [trim, trimRight, List.getLast?_reverse] at hc
  rw [hc] at hhead
  simpa using hhead

/-- What stands in a text with single spaces has single spaces when it is trimmed. -/
theorem Spaced.trim_part (h : Spaced s) (ht : t <:+: s) : Spaced (trim t) where
  apart := h.apart.infix ((isInfix_trim t).trans ht)
  spaces c hc := h.spaces c (((isInfix_trim t).trans ht).subset hc)
  first c hc := by
    have hhead := head_trim t
    rw [hc] at hhead
    simpa using hhead
  last := isBlank_getLast_trim t

theorem Spaced.trimLeft_eq (h : Spaced s) : trimLeft s = s := by
  cases s with
  | nil => rfl
  | cons c s => rw [trimLeft, List.dropWhile_cons_of_neg (by simp [h.first c rfl])]

theorem Spaced.trim_eq (h : Spaced s) : trim s = s := by
  rw [trim, h.trimLeft_eq, trimRight]
  cases hs : s.reverse with
  | nil => rw [← List.reverse_reverse s, hs]; rfl
  | cons c t =>
    have hlast : isBlank c = false := by
      refine h.last c ?_
      rw [← List.head?_reverse, hs]
      rfl
    rw [List.dropWhile_cons_of_neg (by simp [hlast]), ← hs, List.reverse_reverse]

/-- A text whose blanks are single spaces is made of its words, but for a blank in front. -/
theorem collapse_of_apart (hapart : s.IsChain Apart) (hspaces : ∀ c ∈ s, isBlank c = true → c = ' ')
    (hlast : ∀ c ∈ s.getLast?, isBlank c = false) : collapse s = trimLeft s := by
  unfold collapse
  induction s with
  | nil => rfl
  | cons c s ih =>
    cases s with
    | nil =>
      have hc : isBlank c = false := hlast c rfl
      rw [words_single hc, trimLeft, List.dropWhile_cons_of_neg (by simp [hc])]
      rfl
    | cons d s =>
      obtain ⟨hcd, hapart⟩ := List.isChain_cons_cons.mp hapart
      obtain ⟨hspace, hspaces⟩ := List.forall_mem_cons.mp hspaces
      rw [List.getLast?_cons_cons] at hlast
      have hrest := ih hapart hspaces hlast
      cases hc : isBlank c with
      | true => rw [words_blank hc, hrest, trimLeft, trimLeft, List.dropWhile_cons_of_pos hc]
      | false =>
        rw [trimLeft, List.dropWhile_cons_of_neg (by simp [hc])]
        cases hd : isBlank d with
        | true =>
          obtain rfl := hspaces d (List.mem_cons_self ..) hd
          cases s with
          | nil =>
            rw [hlast ' ' rfl] at hd
            cases hd
          | cons e s =>
            have he : isBlank e = false := (List.isChain_cons_cons.mp hapart).1 hd
            obtain ⟨w, ws, hwords⟩ := words_cons he s
            rw [words_blank hd, hwords, trimLeft, List.dropWhile_cons_of_pos hd,
              List.dropWhile_cons_of_neg (by simp [he])] at hrest
            rw [words_end hc hd, words_blank hd, hwords, List.intercalate_cons_cons, hrest]
            rfl
        | false =>
          obtain ⟨w, ws, hwords⟩ := words_cons hd s
          rw [trimLeft, List.dropWhile_cons_of_neg (by simp [hd]), hwords] at hrest
          rw [words_extend hc hd hwords, ← hrest]
          cases ws <;> rfl

theorem Spaced.collapse_eq (h : Spaced s) : collapse s = s :=
  (collapse_of_apart h.apart h.spaces h.last).trans h.trimLeft_eq

theorem spaced_intercalate {ws : List (List Char)} (h : ∀ w ∈ ws, Solid w) :
    Spaced ([' '].intercalate ws) := by
  induction ws with
  | nil => exact ⟨List.isChain_nil, by simp, by simp, by simp⟩
  | cons w ws ih =>
    obtain ⟨hw, hws⟩ := List.forall_mem_cons.mp h
    cases ws with
    | nil =>
      rw [List.intercalate_singleton]
      exact hw.spaced
    | cons v ws =>
      have hne : [' '].intercalate (v :: ws) ≠ [] := by
        intro hnil
        have hinfix : v <:+: [] := hnil ▸ infix_intercalate (List.mem_cons_self ..)
        exact (hws v (List.mem_cons_self ..)).nonempty (List.infix_nil.mp hinfix)
      rw [List.intercalate_cons_cons, List.append_assoc]
      exact hw.spaced.append (ih hws) hw.nonempty hne

theorem spaced_collapse (s : List Char) : Spaced (collapse s) :=
  spaced_intercalate (words_solid s)

end CircuitConsole.Text
