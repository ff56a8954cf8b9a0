import CircuitConsole.Proofs.Statement.CallTexts
import CircuitConsole.Proofs.Statement.Drafts
import CircuitConsole.Proofs.Statement.FormalNames
import CircuitConsole.Proofs.Statement.References
import CircuitConsole.Proofs.Workspace.DefinitionTables

/-!
Calls of defined gates. A definition that a workspace has is called by its name, with as many
expressions and qubits as it has parameters and qubits of its own. The call queues what it expands
to, or it fails as its expansion does. The words in front of other statements are accepted as names
of definitions all the same, and a call that begins with one of them may be read as such a statement.
-/

namespace CircuitConsole

open Expression Statement Text

namespace Statement

variable {s : List Char} {es as : List (List Char)} {values : List Float} {places : List Nat}
  {table : RegisterTable} {x : Definition}

section Arguments

theorem evaluate_trim (env : Environment) (s : List Char) (room : Nat) :
    evaluate env (trim s) room = evaluate env s room := by
  unfold evaluate
  rw [trim_trim]

theorem evaluateAll_trim (env : Environment) (es : List (List Char)) (room : Nat) :
    evaluateAll env ((es.map trim).map String.ofList) room =
      evaluateAll env (es.map String.ofList) room := by
  induction es with
  | nil => rfl
  | cons e es ih =>
    unfold evaluateAll at ih ⊢
    simp only [List.map_cons, List.mapM_cons, String.toList_ofList, evaluate_trim, ih]

end Arguments

/-- The expressions and references of a call of a definition: they have values and stand for single
qubits, there are as many as the definition has parameters and qubits, and there is no sign of a
comment among them. -/
structure Calls (table : RegisterTable) (room : Capacity) (x : Definition)
    (es as : List (List Char)) (values : List Float) (places : List Nat) : Prop where
  values : evaluateAll [] (es.map String.ofList) (room.calls - 2) = .ok values
  places : List.Forall₂ (fun a q => resolve table .quantum a room = .ok ⟨q, 1⟩) as places
  parameterCount : es.length = x.parameters.length
  qubitCount : as.length = x.qubits.length
  unmarked : ∀ e ∈ es, '#' ∉ e

structure Named (x : Definition) : Prop where
  name : isIdentifier x.name.toList = true
  qubits : x.qubits ≠ []

/-- A definition has its own numbers, since no other has its name. -/
theorem Sound.arity?_of_mem {definitions : List Definition} (hsound : Sound definitions)
    (hx : x ∈ definitions) :
    arity? definitions x.name = some (x.parameters.length, x.qubits.length) := by
  obtain ⟨earlier, later, hsplit⟩ := List.append_of_mem hx
  have hfits := hsound.fits hsplit
  have hnone : earlier.find? (fun e => e.name = x.name) = none := by
    rw [List.find?_eq_none]
    simpa using hfits.new
  subst hsplit
  simp [arity?, hfits.notBuiltIn, List.find?_append, hnone]

/-- Every definition has an identifier as its name. -/
theorem isIdentifier_of_form {form : DefinitionForm} (h : Form.of s = .definition form) :
    isIdentifier form.name = true := by
  have hdefinition : definition? (tidy s) = some form := by
    have hreading := form_reading s
    rw [h] at hreading
    cases hreading with
    | definition hdefinition => exact hdefinition
  obtain ⟨name, rest, hname, -, hbehind⟩ := definition?_eq_some hdefinition
  have hof {parameters rest : List Char} (h : definitionOf name parameters rest = some form) :
      form.name = name := by
    obtain ⟨p, -, rfl⟩ := Option.map_eq_some_iff.mp h
    rfl
  rcases Option.or_eq_some_iff.mp hbehind with h | ⟨-, h⟩
  · obtain ⟨p, -, h⟩ := Option.bind_eq_some_iff.mp h
    rwa [hof h]
  · rwa [hof h]

namespace Calls

variable {room : Capacity} (h : Calls table room x es as values places)

include h

theorem expression {e : List Char} (he : e ∈ es) :
    ∃ v, evaluate [] e (room.calls - 2) = .ok v := by
  have hall := (mapM_eq_ok.mp h.values).flip
  obtain ⟨v, -, hv⟩ := exists_of_forall₂ hall (List.mem_map_of_mem he)
  by_cases hroom : room.calls - 2 = 0
  · rw [if_pos hroom] at hv
    cases hv
  rw [if_neg hroom, String.toList_ofList] at hv
  cases hvalue : evaluate [] e (room.calls - 2) with
  | ok v => exact ⟨v, rfl⟩
  | error fault =>
    rw [hvalue] at hv
    cases hv

theorem reference {a : List Char} (ha : a ∈ as) : ReferenceText a := by
  obtain ⟨q, -, hq⟩ := exists_of_forall₂ h.places.flip ha
  exact referenceText_of_resolve hq

/-- The call of a definition has the parts of a call. -/
theorem parts (hx : Named x) (hs : collapse s = callText x.name.toList es as) :
    CallParts x.name.toList es as where
  name := hx.name
  expressions e he := by
    have hline {c : Char} (hblank : isBlank c = true) (hspace : c ≠ ' ') : c ∉ e := fun hc =>
      hspace (eq_space_of_mem_collapse (hs ▸ mem_callText he hc) hblank)
    obtain ⟨v, hv⟩ := h.expression he
    exact textOpenAfter?_of_evaluate hv (h.unmarked e he) (hline (by decide) (by decide))
      (hline (by decide) (by decide))
  solid e he := by
    obtain ⟨v, hv⟩ := h.expression he
    exact trim_ne_nil_of_evaluate hv
  references a ha := h.reference ha
  nonempty := by
    rintro rfl
    exact hx.qubits (List.eq_nil_of_length_eq_zero h.qubitCount.symm)

theorem checkArity_eq {definitions : List Definition} (hsound : Sound definitions)
    (hx : x ∈ definitions) : checkArity definitions x.name es.length as.length = .ok () := by
  unfold checkArity
  rw [hsound.arity?_of_mem hx]
  dsimp only
  rw [if_neg (not_not.mpr h.parameterCount), if_neg (not_not.mpr h.qubitCount)]

end Calls

namespace Draft

variable {d d' : Draft} {condition : Option Condition} {room : Capacity}

/-- A call of a definition is expanded once. -/
theorem call_eq (hsound : Sound d.definitions) (hx : x ∈ d.definitions)
    (h : Calls d.quantum room x es as values places) (hparts : CallParts x.name.toList es as) :
    d.call condition ⟨x.name.toList, joined es, trimLeft (joined as)⟩ room =
      (expand (room.calls - 1) d.definitions.reverse x.name values places).map
        (d.enqueue condition) := by
  have hes : commaParts (joined es) = es.map trim :=
    commaParts_joined (fun e he => commaPieces_counted (hparts.expressions e he)) hparts.solid
  have has : commaParts (trimLeft (joined as)) = as.map trim := by
    rw [commaParts_trimLeft]
    exact commaParts_joined (fun a ha => (hparts.references a ha).uncut)
      fun a ha => (hparts.references a ha).solid
  have hspans := mapM_resolve_joined h.places
  rw [← commaParts_trimLeft] at hspans
  have hvalues : d.callValues ⟨x.name.toList, joined es, trimLeft (joined as)⟩ room =
      .ok values := by
    unfold callValues
    simp only [hes, has, String.ofList_toList, List.length_map, h.checkArity_eq hsound hx,
      evaluateAll_trim, h.values, bind, Except.bind]
  rw [d.call_single condition hspans, hvalues, String.ofList_toList]
  rfl

/-- A statement that is the call of a definition queues what it expands to. -/
theorem statement_callText (hsound : Sound d.definitions) (hx : x ∈ d.definitions)
    (hnamed : Named x) (hread : ¬ Misread x.name.toList es as)
    (h : Calls d.quantum (room.inside 1) x es as values places)
    (hs : collapse s = callText x.name.toList es as) :
    d.statement s room =
      (expand (room.calls - 2) d.definitions.reverse x.name values places).map
        (d.enqueue none) := by
  have hparts := h.parts hnamed hs
  rw [statement_operation (hparts.form_of hread hs), hparts.operation_callText d none _ hread,
    call_eq hsound hx h hparts]
  rfl

/-- What a statement defines has an identifier as its name, and a qubit. -/
theorem statement_named (h : d.statement s room = .ok d') (hd : ∀ x ∈ d.definitions, Named x) :
    ∀ x ∈ d'.definitions, Named x := by
  cases hform : Form.of s with
  | ignored =>
    rw [statement_ignored hform] at h
    cases h
    exact hd
  | declaration kind name size =>
    rw [statement_declaration hform] at h
    obtain ⟨size, -, h⟩ := bind_eq_ok.mp h
    obtain ⟨-, -, -, rfl⟩ := declare_eq_ok h
    rwa [withRegister_definitions]
  | definition form =>
    rw [statement_definition hform] at h
    obtain ⟨x, rfl, -, haccepted⟩ := define_adds h
    refine List.forall_mem_append.mpr ⟨hd, List.forall_mem_singleton.mpr ⟨?_, haccepted.qubits⟩⟩
    rw [haccepted.name, String.toList_ofList]
    exact isIdentifier_of_form hform
  | conditional register value text =>
    obtain ⟨c, instructions, -, -, -, -, rfl, -⟩ := conditional_queued hform h
    exact hd
  | operation text =>
    rw [statement_operation hform] at h
    obtain ⟨instructions, -, rfl, -⟩ := operation_queued h
    exact hd

theorem statements_named (d : Draft) (statements : List (List Char))
    (room : Capacity) (hd : ∀ x ∈ d.definitions, Named x) :
    ∀ x ∈ (d.statements statements room).1.definitions, Named x :=
  statements_keep (P := fun d => ∀ x ∈ d.definitions, Named x) hd
    fun _ _ _ _ hd hs => statement_named hs hd

end Draft

end Statement

namespace Workspace

variable {draws : Simulation.Draws Float} {w : Workspace} {x : Definition} {s ending : List Char}
  {es as : List (List Char)} {values : List Float} {places : List Nat} {room : Capacity}

/-- Whatever a workspace defines has an identifier as its name, and a qubit. -/
theorem Reachable.named (h : w.Reachable draws) : ∀ x ∈ w.definitions, Named x := by
  induction h with
  | empty => exact List.forall_mem_nil _
  | @accept room text v v' _ haccept ih =>
    obtain ⟨statements, d, -, hstatements, rfl⟩ := accept_eq_ok_iff.mp haccept
    have hnamed := v.draft.statements_named statements room ih
    rwa [hstatements] at hnamed
  | execute room drawn _ hexecute ih =>
    obtain ⟨outcome, -, rfl⟩ := execute_eq_ok hexecute
    exact ih

theorem commit_enqueue (w : Workspace) (instructions : List (Instruction Float)) :
    w.commit (w.draft.enqueue none instructions) = { w with
      queue := w.queue ++ instructions.map (⟨·, none⟩)
      dirty := w.dirty || instructions ≠ [] } := by
  cases instructions <;> simp [commit, draft, Draft.enqueue]

/-- A call of a definition queues exactly what it expands to, or fails as its expansion does, unless
it begins with a word of another statement and fits to that. -/
theorem call_of_definition
    (hw : w.Reachable draws ∨ ∃ c : Console, c.Reachable draws ∧ w ∈ c.workspaces)
    (hx : x ∈ w.definitions) (hread : ¬ Misread x.name.toList es as)
    (h : Calls w.quantum (room.inside 2) x es as values places)
    (hs : collapse s = callText x.name.toList es as)
    (hending : ending = [] ∨ ending = [';']) :
    (∃ instructions,
      expand (room.calls - 3) w.definitions.reverse x.name values places = .ok instructions ∧
      (w.accept (s ++ ending) room).result = .ok { w with
        queue := w.queue ++ instructions.map (⟨·, none⟩)
        dirty := w.dirty || instructions ≠ [] }) ∨
    ∃ fault, expand (room.calls - 3) w.definitions.reverse x.name values places = .error fault ∧
      (w.accept (s ++ ending) room).result = .error fault ∧
      Foreseen (room.calls - 3) (nestingDepth w.definitions.reverse x.name) fault := by
  have hreachable : w.Reachable draws := by
    rcases hw with hw | ⟨c, hc, hw⟩
    · exact hw
    · exact hc.workspaces w hw
  have hsound : Sound w.definitions := hreachable.sound [] room
  have hnamed := hreachable.named x hx
  have hstatement : w.draft.statement (trim s) (room.inside 1) =
      (expand (room.calls - 3) w.definitions.reverse x.name values places).map
        (w.draft.enqueue none) :=
    Draft.statement_callText hsound hx hnamed hread h ((collapse_trim s).trans hs)
  have harity : checkArity w.definitions x.name values.length places.length = .ok () := by
    rw [length_of_evaluateAll h.values, List.length_map, ← h.places.length_eq]
    exact h.checkArity_eq hsound hx
  have hsplit := (h.parts hnamed hs).split_eq hs hending
  rw [accept_single hsplit, hstatement]
  rcases hsound.consistent.expands (room.calls - 3) x.name values places harity with
    ⟨instructions, hexpand⟩ | ⟨fault, hexpand, hforeseen⟩
  · refine .inl ⟨instructions, hexpand, ?_⟩
    rw [hexpand, ← commit_enqueue]
    rfl
  · refine .inr ⟨fault, hexpand, ?_, hforeseen⟩
    rw [hexpand]
    rfl

/-- What a text that is accepted declares and defines. -/
theorem accept_outline (w : Workspace) (text : List Char) (quantum : RegisterTable)
    (definitions : List Definition)
    (room : Capacity)
    (h : (w.accept text room).result.toOption.map (fun v => (v.quantum, v.definitions)) =
      some (quantum, definitions)) :
    ∃ v, (w.accept text room).result = .ok v ∧ v.quantum = quantum ∧
      v.definitions = definitions := by
  cases hresult : (w.accept text room).result with
  | error fault =>
    rw [hresult] at h
    cases h
  | ok v =>
    rw [hresult] at h
    obtain ⟨hquantum, hdefinitions⟩ := Prod.mk.inj (Option.some.inj h)
    exact ⟨v, rfl, hquantum, hdefinitions⟩

/-- A call on two qubits, written over two lines. -/
theorem pair_called :
    let t := "qreg q[2]; gate g(t) a,b \x7b rx(t) a; cx a,b; \x7d".toList
    let s := "g(pi/2)  q[1],\n q[0]".toList
    let es := ["pi/2".toList]
    let as := ["q[1]".toList, " q[0]".toList]
    ∃ w x values, (empty.accept t .usual).result = .ok w ∧ x ∈ w.definitions ∧
      ¬ Misread x.name.toList es as ∧
      Calls w.quantum (Capacity.usual.inside 2) x es as values [1, 0] ∧
      collapse s = callText x.name.toList es as ∧
      ((∃ instructions,
        expand 995 w.definitions.reverse x.name values [1, 0] = .ok instructions ∧
        (w.accept (s ++ [';']) .usual).result = .ok { w with
          queue := w.queue ++ instructions.map (⟨·, none⟩)
          dirty := w.dirty || instructions ≠ [] }) ∨
      ∃ fault, expand 995 w.definitions.reverse x.name values [1, 0] = .error fault ∧
        (w.accept (s ++ [';']) .usual).result = .error fault ∧
        Foreseen 995 (nestingDepth w.definitions.reverse x.name) fault) := by
  intro t s es as
  obtain ⟨w, hw, hquantum, hdefinitions⟩ := accept_outline empty t [⟨"q", 0, 2⟩]
    [⟨"g", ["t"], ["a", "b"], [⟨"rx", ["t"], ["a"]⟩, ⟨"cx", [], ["a", "b"]⟩]⟩] .usual
    (by decide +kernel)
  have hreachable : w.Reachable fun _ => 0 := .accept .usual t .empty hw
  have hvalues : ∃ values, evaluateAll [] (es.map String.ofList) 994 = .ok values := by
    have hsome : (evaluateAll [] (es.map String.ofList) 994).toOption.isSome = true := by
      decide +kernel
    cases h : evaluateAll [] (es.map String.ofList) 994 with
    | ok values => exact ⟨values, rfl⟩
    | error fault =>
      rw [h] at hsome
      cases hsome
  obtain ⟨values, hvalues⟩ := hvalues
  have hx : (⟨"g", ["t"], ["a", "b"], [⟨"rx", ["t"], ["a"]⟩, ⟨"cx", [], ["a", "b"]⟩]⟩ :
      Definition) ∈ w.definitions := by
    rw [hdefinitions]
    exact List.mem_singleton_self _
  have hread : ¬ Misread "g".toList es as := fun h => absurd h.mem (by decide)
  have hcalls : Calls w.quantum (Capacity.usual.inside 2)
      ⟨"g", ["t"], ["a", "b"], [⟨"rx", ["t"], ["a"]⟩, ⟨"cx", [], ["a", "b"]⟩]⟩
      es as values [1, 0] := by
    rw [hquantum]
    refine ⟨hvalues, ?_, rfl, rfl, by decide⟩
    exact .cons (by decide +kernel) (.cons (by decide +kernel) .nil)
  have hs : collapse s = callText "g".toList es as := by decide +kernel
  exact ⟨w, _, values, hw, hx, hread, hcalls, hs,
    call_of_definition (.inl hreachable) hx hread hcalls hs (.inr rfl)⟩

/-- A gate may be defined by the word of a barrier. The call of it is a barrier then, and nothing is
queued, though the gate would expand to an instruction. -/
theorem barrier_queues_nothing :
    let t := "qreg q[1]; gate barrier a \x7b x a; \x7d".toList
    let s := "barrier q[0]".toList
    ∃ w x, (empty.accept t .usual).result = .ok w ∧ x ∈ w.definitions ∧
      Calls w.quantum (Capacity.usual.inside 2) x [] ["q[0]".toList] [] [0] ∧
      collapse s = callText x.name.toList [] ["q[0]".toList] ∧
      expand 995 w.definitions.reverse x.name [] [0] = .ok [.gate .x [] [0]] ∧
      (w.accept (s ++ [';']) .usual).result = .ok w := by
  intro t s
  obtain ⟨w, hw, hquantum, hdefinitions⟩ := accept_outline empty t [⟨"q", 0, 1⟩]
    [⟨"barrier", [], ["a"], [⟨"x", [], ["a"]⟩]⟩] .usual (by decide +kernel)
  refine ⟨w, ⟨"barrier", [], ["a"], [⟨"x", [], ["a"]⟩]⟩, hw, ?_, ?_, by decide +kernel, ?_, ?_⟩
  · rw [hdefinitions]
    exact List.mem_singleton_self _
  · rw [hquantum]
    exact ⟨rfl, .cons (by decide +kernel) .nil, rfl, rfl, by decide⟩
  · rw [hdefinitions]
    decide +kernel
  · have hsplit : split (s ++ [';']) = .ok [s] := by decide +kernel
    have hstatement : w.draft.statement s (Capacity.usual.inside 1) =
        .ok (w.draft.enqueue none []) := by
      have hdraft : w.draft.quantum = [⟨"q", 0, 1⟩] := hquantum
      have hresolve : (commaParts " q[0]".toList).mapM
          (resolve w.draft.quantum .quantum · (Capacity.usual.inside 2)) = .ok [⟨0, 1⟩] := by
        rw [hdraft]
        decide +kernel
      change (do
        let _ ← (commaParts " q[0]".toList).mapM
          (resolve w.draft.quantum .quantum · (Capacity.usual.inside 2))
        Except.ok w.draft) = _
      rw [hresolve]
      rfl
    rw [accept_single hsplit, hstatement]
    change Except.ok (w.commit (w.draft.enqueue none [])) = _
    rw [commit_enqueue]
    simp

end Workspace

end CircuitConsole
