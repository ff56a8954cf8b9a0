import CircuitConsole.Statement.Form

/-!
Forms of statements taken apart: a statement of some form has been read as such, and an operation has
been read as nothing else.
-/

namespace CircuitConsole.Statement

inductive Form.Reading (s : List Char) : Form → Prop
  | ignored (h : isHeader s = true ∨ isInclude s = true) : Reading s .ignored
  | declaration {kind : RegisterKind} {name size : List Char}
      (h : declaration? s = some (kind, name, size)) : Reading s (.declaration kind name size)
  | definition {form : DefinitionForm} (h : definition? s = some form) :
      Reading s (.definition form)
  | conditional {register value text : List Char}
      (h : conditional? s = some (register, value, text)) :
      Reading s (.conditional register value text)
  | operation (hheader : isHeader s = false) (hinclude : isInclude s = false)
      (hdeclaration : declaration? s = none) (hdefinition : definition? s = none)
      (hconditional : conditional? s = none) : Reading s (.operation s)

theorem form_reading (s : List Char) : Form.Reading (tidy s) (Form.of s) := by
  unfold Form.of
  dsimp only
  split
  · rename_i h
    exact .ignored (Bool.or_eq_true_iff.mp h)
  · rename_i h
    obtain ⟨hheader, hinclude⟩ := Bool.or_eq_false_iff.mp (Bool.not_eq_true _ ▸ h)
    split
    · rename_i h
      exact .declaration h
    · rename_i hdeclaration
      split
      · rename_i h
        exact .definition h
      · rename_i hdefinition
        split
        · rename_i h
          exact .conditional h
        · rename_i hconditional
          exact .operation hheader hinclude hdeclaration hdefinition hconditional

/-- What is read as nothing else is an operation. -/
theorem form_of_operation {s : List Char} (htidy : tidy s = s) (hheader : isHeader s = false)
    (hinclude : isInclude s = false) (hdeclaration : declaration? s = none)
    (hdefinition : definition? s = none) (hconditional : conditional? s = none) :
    Form.of s = .operation s := by
  unfold Form.of
  simp only [htidy, hheader, hinclude, hdeclaration, hdefinition, hconditional, Bool.or_self,
    Bool.false_eq_true, if_false]

end CircuitConsole.Statement
