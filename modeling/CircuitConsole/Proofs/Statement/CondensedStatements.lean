import CircuitConsole.Proofs.Expression.Layout
import CircuitConsole.Proofs.Statement.Blocks
import CircuitConsole.Proofs.Statement.Meanings

/-!
Statements worked into a draft, condensed or not. Blanks are collapsed in a statement without braces,
so that its layout is lost at once. A gate definition keeps its body as it stands; condensed it
means the same, if no expression in the body is broken over lines.
-/

namespace CircuitConsole.Statement

open Text Expression

variable {s : List Char}

def callExpressions (s : List Char) : List (List Char) :=
  if (barrier? s).isSome then []
  else match call? s with
  | some form => commaParts form.parameters
  | none => []

def bodyExpressions (form : DefinitionForm) : List (List Char) :=
  match split form.body with
  | .ok statements => statements.flatMap callExpressions
  | .error _ => []

/-- The expressions that a statement leaves to be evaluated whenever a gate is called: those in the
body, if it is a gate definition. -/
def keptExpressions (s : List Char) : List (List Char) :=
  match Form.of s with
  | .definition form => bodyExpressions form
  | _ => []

namespace Draft

variable (d : Draft)

theorem valueOf_condense (h : Unbroken s) :
    valueOf (String.ofList (condense s)) = valueOf (String.ofList s) := by
  funext env room
  unfold valueOf
  rw [String.toList_ofList, String.toList_ofList, evaluate_condense env h]

theorem map_condense_of_tight {xs : List (List Char)} (h : ∀ x ∈ xs, Tight x) :
    xs.map condense = xs :=
  (List.map_congr_left fun x hx => condense_of_tight (h x hx)).trans (List.map_id' xs)

def callMeaning (qubits : List (List Char)) (form : CallForm) : Option Call.Meaning :=
  let name := String.ofList form.gate
  let expressions := commaParts form.parameters
  let arguments := commaParts form.qubits
  (checkArity d.definitions name expressions.length arguments.length).toOption.bind fun _ =>
    if arguments.all qubits.contains then
      some ⟨name, expressions.map (valueOf ∘ String.ofList), arguments.map String.ofList⟩
    else none

theorem bodyMeaning_eq (gate : String) (qubits : List (List Char)) (s : List Char) :
    d.bodyMeaning gate (qubits.map String.ofList) s =
      if (barrier? s).isSome then some none
      else (call? s).bind fun form => (d.callMeaning qubits form).map some := by
  unfold bodyMeaning bodyCall
  split
  · rfl
  · cases call? s with
    | none => rfl
    | some form =>
      have hfind : (((commaParts form.qubits).map String.ofList).find?
          fun a => !(qubits.map String.ofList).contains a) =
            ((commaParts form.qubits).find? fun a => !qubits.contains a).map String.ofList := by
        rw [List.find?_map]
        congr
        funext a
        simp [String.ofList_inj]
      simp only [Option.bind_some, callMeaning, hfind, toOption_bind, List.length_map]
      cases (checkArity d.definitions (String.ofList form.gate) (commaParts form.parameters).length
        (commaParts form.qubits).length).toOption with
      | none => rfl
      | some _ =>
        rw [Option.bind_some, Option.bind_some]
        cases harguments : (commaParts form.qubits).find? fun a => !qubits.contains a with
        | none =>
          have hall : (commaParts form.qubits).all qubits.contains = true :=
            List.all_eq_true.mpr fun a ha => by simpa using List.find?_eq_none.mp harguments a ha
          rw [hall]
          simp [Except.toOption, Call.meaning]
        | some a =>
          have hall : (commaParts form.qubits).all qubits.contains = false :=
            List.all_eq_false.mpr ⟨a, List.mem_of_find?_eq_some harguments,
              by simpa using List.find?_some harguments⟩
          rw [hall]
          rfl

theorem callMeaning_condense {qubits : List (List Char)} (hqubits : ∀ q ∈ qubits, Tight q)
    {form : CallForm} (h : ∀ e ∈ commaParts form.parameters, Unbroken e) :
    d.callMeaning qubits form.condensed = d.callMeaning qubits form := by
  have hvalues : ((commaParts form.parameters).map condense).map (valueOf ∘ String.ofList) =
      (commaParts form.parameters).map (valueOf ∘ String.ofList) := by
    rw [List.map_map]
    exact List.map_congr_left fun e he => valueOf_condense (h e he)
  have hcontains (a : List Char) : qubits.contains (condense a) = qubits.contains a := by
    by_cases ha : Tight a
    · rw [condense_of_tight ha]
    · have hnot (b : List Char) (hb : ¬ Tight b) : qubits.contains b = false := by
        simpa using fun hmem => hb (hqubits b hmem)
      rw [hnot a ha, hnot _ (mt tight_condense.mp ha)]
  have hall : ((commaParts form.qubits).map condense).all qubits.contains =
      (commaParts form.qubits).all qubits.contains := by
    rw [List.all_map]
    exact congrArg (List.all _) (funext hcontains)
  unfold callMeaning CallForm.condensed
  simp only [commaParts_condense, List.length_map, hvalues, hall]
  congr
  funext _
  split
  · rename_i hqs
    rw [map_condense_of_tight fun a ha => hqubits a (by simpa using List.all_eq_true.mp hqs a ha)]
  · rfl

/-- A statement of a body means the same condensed. -/
theorem bodyMeaning_condense (gate : String) {qubits : List (List Char)}
    (hqubits : ∀ q ∈ qubits, Tight q) (h : ∀ e ∈ callExpressions s, Unbroken e) :
    d.bodyMeaning gate (qubits.map String.ofList) (condense s) =
      d.bodyMeaning gate (qubits.map String.ofList) s := by
  unfold callExpressions at h
  rw [bodyMeaning_eq, bodyMeaning_eq, barrier?_condense, Option.isSome_map, call?_condense]
  split
  · rfl
  · rename_i hbarrier
    rw [if_neg hbarrier] at h
    cases hform : call? s with
    | none => rfl
    | some form =>
      rw [hform] at h
      rw [Option.map_some, Option.bind_some, Option.bind_some, d.callMeaning_condense hqubits h]

theorem definitionMeaning_condense {form : DefinitionForm} (hbody : Uncommented form.body)
    (h : ∀ e ∈ bodyExpressions form, Unbroken e) :
    d.definitionMeaning form.condensed = d.definitionMeaning form := by
  have hall (xs : List (List Char)) :
      (xs.map condense).all isIdentifier = xs.all isIdentifier := by
    rw [List.all_map]
    exact congrArg (List.all xs) (funext isIdentifier_condense)
  have hparameters : (commaParts (condense form.parameters)).filter (· ≠ []) =
      ((commaParts form.parameters).filter (· ≠ [])).map condense := by
    rw [commaParts_condense, List.filter_map]
    simp only [Function.comp_def, ne_eq, condense_eq_nil]
  have hqubits : commaParts (trim (condense form.qubits)) =
      (commaParts (trim form.qubits)).map condense := by
    rw [trim_condense, commaParts_condense]
  unfold definitionMeaning DefinitionForm.condensed
  dsimp only
  rw [hparameters, hqubits, ← List.map_append, hall]
  simp only [ne_eq, List.map_eq_nil_iff, split_condense hbody]
  split
  · rename_i hnames
    have htight := fun x hx => tight_of_isIdentifier
      (List.all_eq_true.mp (Bool.and_eq_true_iff.mp hnames).1 x hx)
    rw [map_condense_of_tight fun x hx => htight x (List.mem_append_left _ hx),
      map_condense_of_tight fun x hx => htight x (List.mem_append_right _ hx), toOption_map]
    unfold bodyExpressions at h
    cases hsplit : split form.body with
    | error fault => rfl
    | ok statements =>
      rw [hsplit] at h
      have hmeanings : (statements.map condense).mapM (d.bodyMeaning (String.ofList form.name)
          ((commaParts (trim form.qubits)).map String.ofList)) =
            statements.mapM (d.bodyMeaning (String.ofList form.name)
              ((commaParts (trim form.qubits)).map String.ofList)) := by
        rw [List.mapM_map]
        refine mapM_congr_left fun x hx => d.bodyMeaning_condense _ ?_ ?_
        · exact fun q hq => htight q (List.mem_append_right _ hq)
        · exact fun e he => h e (List.mem_flatMap.mpr ⟨x, hx, he⟩)
      simp only [Except.toOption, Option.map_some, Option.bind_some, hmeanings]
  · rfl

theorem define_condense {form : DefinitionForm} (hbody : Uncommented form.body)
    (h : ∀ e ∈ bodyExpressions form, Unbroken e) :
    outcome (d.define form.condensed) = outcome (d.define form) := by
  rw [outcome_define, outcome_define, definitionMeaning_condense d hbody h]
  rfl

theorem statement_condense (hbrace : '\x7b' ∈ s → EndsBlock s) (hs : Uncommented s)
    (h : ∀ e ∈ keptExpressions s, Unbroken e) (room : Capacity) :
    outcome (d.statement (condense s) room) = outcome (d.statement s room) := by
  by_cases hopen : '\x7b' ∈ s
  · have hend := hbrace hopen
    have hopen' : '\x7b' ∈ condense s := (mem_condense (by decide)).mpr hopen
    unfold outcome
    rw [statement_of_endsBlock hend hopen,
      statement_of_endsBlock (endsBlock_condense.mpr hend) hopen', trim_condense,
      definition?_condense]
    cases hform : definition? (trim s) with
    | none => rfl
    | some form =>
      rw [Option.map_some, Option.bind_some, Option.bind_some]
      have hkept : keptExpressions s = bodyExpressions form := by
        unfold keptExpressions
        rw [form_of_endsBlock hend hopen, hform]
        rfl
      have hbody := (infix_of_definition? hform).trans (isInfix_trim s)
      exact d.define_condense (hs.part hbody) (hkept ▸ h)
  · have hclosed : '\x7b' ∉ condense s := mt (mem_condense (by decide)).mp hopen
    have htidy : tidy (condense s) = tidy s := by
      unfold tidy
      rw [if_neg (by simpa using hclosed), if_neg (by simpa using hopen), collapse_condense]
    have hform : Form.of (condense s) = Form.of s := by
      unfold Form.of
      rw [htidy]
    unfold statement
    rw [hform]

end Draft

end CircuitConsole.Statement
