import CircuitConsole.Text.Blank
import Mathlib.Data.List.TakeWhile

/-!
Trimming. Blanks at either end of a text are cut off, and whatever blanks are put there before make
no difference.
-/

namespace CircuitConsole.Text

variable {b s : List Char}

theorem trimLeft_eq_nil : trimLeft s = [] ↔ ∀ c ∈ s, isBlank c = true :=
  List.dropWhile_eq_nil_iff

theorem trimLeft_append (hb : ∀ c ∈ b, isBlank c = true) (s : List Char) :
    trimLeft (b ++ s) = trimLeft s :=
  List.dropWhile_append_of_pos hb

theorem trimRight_append (s : List Char) (hb : ∀ c ∈ b, isBlank c = true) :
    trimRight (s ++ b) = trimRight s := by
  unfold trimRight
  rw [List.reverse_append, List.dropWhile_append_of_pos fun c hc => hb c (List.mem_reverse.mp hc)]

theorem trimRight_append_eq (s t : List Char) :
    trimRight (s ++ t) = if trimRight t = [] then trimRight s else s ++ trimRight t := by
  unfold trimRight
  rw [List.reverse_append, List.dropWhile_append]
  cases t.reverse.dropWhile isBlank <;> simp

theorem trim_append_left (hb : ∀ c ∈ b, isBlank c = true) (s : List Char) :
    trim (b ++ s) = trim s := by
  rw [trim, trimLeft_append hb, trim]

theorem trim_append_right (s : List Char) (hb : ∀ c ∈ b, isBlank c = true) :
    trim (s ++ b) = trim s := by
  unfold trim
  cases hs : trimLeft s with
  | nil =>
    have hall : ∀ c ∈ s ++ b, isBlank c = true := fun c hc =>
      (List.mem_append.mp hc).elim (trimLeft_eq_nil.mp hs c) (hb c)
    rw [trimLeft_eq_nil.mpr hall]
  | cons c rest =>
    have happend : trimLeft (s ++ b) = (c :: rest) ++ b := by
      rw [trimLeft, List.dropWhile_append, ← trimLeft, hs]
      rfl
    rw [happend, trimRight_append _ hb]

theorem prefix_trimRight (s : List Char) : trimRight s <+: s := by
  have h := List.reverse_prefix.mpr (List.dropWhile_suffix isBlank (l := s.reverse))
  rwa [List.reverse_reverse] at h

theorem isInfix_trim (s : List Char) : trim s <:+: s :=
  (prefix_trimRight _).isInfix.trans (List.dropWhile_suffix isBlank).isInfix

/-- A trimmed text does not begin with a blank. -/
theorem head_trim (s : List Char) : (trim s).head?.any isBlank = false := by
  cases htrim : trim s with
  | nil => rfl
  | cons c rest =>
    obtain ⟨more, hmore⟩ : c :: rest <+: trimLeft s := htrim ▸ prefix_trimRight (trimLeft s)
    have hhead := List.head?_dropWhile_not isBlank s
    rw [← trimLeft, ← hmore] at hhead
    simpa using hhead

end CircuitConsole.Text
