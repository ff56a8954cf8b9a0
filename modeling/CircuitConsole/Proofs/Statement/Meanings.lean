import CircuitConsole.Proofs.Statement.Drafts
import CircuitConsole.Proofs.Statement.Expansion
import CircuitConsole.Proofs.Statement.JoinedTexts

/-!
What definitions mean. The expressions in a body count only by their values under whatever names
have values, and a reason why there is none does not count. Definitions of the same meaning are
expanded alike, and texts are worked alike into drafts of the same meaning.
-/

namespace CircuitConsole

/-- The value of an expression in every environment and every room, if it has one. -/
def valueOf (text : String) (env : Expression.Environment) (room : Nat) : Option Float :=
  (Expression.evaluate env text.toList room).toOption

structure Call.Meaning where
  gate : String
  values : List (Expression.Environment → Nat → Option Float)
  qubits : List String

def Call.meaning (c : Call) : Call.Meaning := ⟨c.gate, c.expressions.map valueOf, c.qubits⟩

structure Definition.Meaning where
  name : String
  parameters : List String
  qubits : List String
  body : List Call.Meaning

def Definition.meaning (d : Definition) : Definition.Meaning :=
  ⟨d.name, d.parameters, d.qubits, d.body.map Call.meaning⟩

namespace Statement

open Text

variable {ds ds' : List Definition}

section Expansion

theorem toOption_evaluateAll (env : Expression.Environment) {texts texts' : List String}
    (room : Nat) (h : texts.map valueOf = texts'.map valueOf) :
    (evaluateAll env texts room).toOption = (evaluateAll env texts' room).toOption := by
  unfold evaluateAll
  rw [toOption_mapM, toOption_mapM]
  refine mapM_congr (fun text text' hvalue => ?_) h
  by_cases hroom : room = 0
  · rw [if_pos hroom, if_pos hroom]
  · rw [if_neg hroom, if_neg hroom, toOption_mapError, toOption_mapError]
    exact congrFun (congrFun hvalue env) room

/-- Calls of the same meaning become alike in the bodies of definitions of the same meaning, where
they are expanded alike. -/
theorem toOption_bodyPart {d d' : Definition} {call call' : Call} {room : Nat}
    {parameters : List Float} {qubits : List Nat} (hd : d.meaning = d'.meaning)
    (hcall : call.meaning = call'.meaning)
    (hexpand : ∀ values places, (expand room ds call.gate values places).toOption =
      (expand room ds' call.gate values places).toOption) :
    (bodyPart room ds d parameters qubits call).toOption =
      (bodyPart room ds' d' parameters qubits call').toOption := by
  obtain ⟨hname, hparameters, hqubits, -⟩ := Definition.Meaning.mk.inj hd
  obtain ⟨hgate, hvalues, hplaces⟩ := Call.Meaning.mk.inj hcall
  unfold bodyPart placesOf
  simp only [toOption_bind]
  rw [toOption_evaluateAll _ (room - 1) hvalues, hparameters, hqubits, hname, hplaces, ← hgate]
  simp only [hexpand]

/-- Calls are expanded alike by definitions of the same meaning. -/
theorem toOption_expand (h : ds.map Definition.meaning = ds'.map Definition.meaning) (room : Nat)
    (gate : String) (parameters : List Float) (qubits : List Nat) :
    (expand room ds gate parameters qubits).toOption =
      (expand room ds' gate parameters qubits).toOption := by
  induction room, ds, gate, parameters, qubits using expand_induction generalizing ds' with
  | noRoom => rw [expand_noRoom, expand_noRoom]
  | repeated room ds gate parameters qubits hqubits =>
    rw [expand_repeated hqubits, expand_repeated hqubits]
  | cramped room ds gate parameters qubits g hqubits hgate hroom =>
    rw [expand_cramped hqubits hgate hroom, expand_cramped hqubits hgate hroom]
  | builtIn room ds gate parameters qubits g hqubits hgate hroom =>
    rw [expand_builtIn hqubits hgate hroom, expand_builtIn hqubits hgate hroom]
  | unknown =>
    obtain rfl : ds' = [] := by simpa using h.symm
    rfl
  | latest room d earlier parameters qubits hqubits hgate ih =>
    obtain _ | ⟨d', earlier'⟩ := ds'
    · cases h
    obtain ⟨hd, hearlier⟩ := List.cons.inj h
    obtain ⟨hname, -, -, hbody⟩ := Definition.Meaning.mk.inj hd
    rw [expand_latest hqubits hgate, hname, expand_latest hqubits (hname ▸ hgate), toOption_map,
      toOption_map, toOption_mapM, toOption_mapM]
    congr 1
    exact mapM_congr
      (fun call call' hcall => toOption_bodyPart hd hcall (ih call · · hearlier)) hbody
  | earlier room d earlier gate parameters qubits hqubits hgate hname ih =>
    obtain _ | ⟨d', earlier'⟩ := ds'
    · cases h
    obtain ⟨hd, hearlier⟩ := List.cons.inj h
    obtain ⟨hname', -⟩ := Definition.Meaning.mk.inj hd
    rw [expand_earlier hname, expand_earlier (hname' ▸ hname)]
    exact ih hearlier

theorem arity?_congr (h : ds.map Definition.meaning = ds'.map Definition.meaning) (gate : String) :
    arity? ds gate = arity? ds' gate := by
  unfold arity?
  split
  · rfl
  · have hfind (ds : List Definition) :
        (ds.find? fun d => d.name = gate).map (fun d => (d.parameters.length, d.qubits.length)) =
          ((ds.map Definition.meaning).find? fun d => d.name = gate).map
            fun d => (d.parameters.length, d.qubits.length) := by
      rw [List.find?_map, Option.map_map]
      rfl
    rw [hfind, hfind, h]

theorem checkArity_congr (h : ds.map Definition.meaning = ds'.map Definition.meaning)
    (gate : String) (parameters qubits : Nat) :
    checkArity ds gate parameters qubits = checkArity ds' gate parameters qubits := by
  unfold checkArity
  rw [arity?_congr h]

end Expansion

namespace Draft

def meaning (d : Draft) : Draft × List Definition.Meaning :=
  ({ d with definitions := [] }, d.definitions.map Definition.meaning)

def outcome (r : Except Fault Draft) : Option (Draft × List Definition.Meaning) :=
  r.toOption.map meaning

theorem outcome_bind {α : Type} (x : Except Fault α) (f : α → Except Fault Draft) :
    outcome (x >>= f) = x.toOption.bind fun a => outcome (f a) := by
  cases x <;> rfl

theorem outcome_map {α : Type} (x : Except Fault α) (f : α → Draft) :
    outcome (x.map f) = x.toOption.map fun a => (f a).meaning := by
  cases x <;> rfl

@[simp] theorem outcome_ok (d : Draft) : outcome (.ok d) = some d.meaning := rfl

@[simp] theorem outcome_error (fault : Fault) : outcome (.error fault) = none := rfl

theorem meaning_eq {d d' : Draft} (h : d.meaning = d'.meaning) :
    d' = { d with definitions := d'.definitions } ∧
      d.definitions.map Definition.meaning = d'.definitions.map Definition.meaning := by
  obtain ⟨quantum, classical, definitions, queue, declared⟩ := d
  obtain ⟨hrest, hdefinitions⟩ := Prod.mk.inj h
  cases hrest
  exact ⟨rfl, hdefinitions⟩

variable (d : Draft)

theorem declare_congr (h : ds.map Definition.meaning = ds'.map Definition.meaning)
    (kind : RegisterKind) (name : String) (size : Nat) :
    outcome ({ d with definitions := ds }.declare kind name size) =
      outcome ({ d with definitions := ds' }.declare kind name size) := by
  unfold declare
  dsimp only
  split
  · rfl
  · split
    · rfl
    · cases kind <;> simp [meaning, h]

theorem enqueue_congr (h : ds.map Definition.meaning = ds'.map Definition.meaning)
    (condition : Option Condition) (instructions : List (Instruction Float)) :
    ({ d with definitions := ds }.enqueue condition instructions).meaning =
      ({ d with definitions := ds' }.enqueue condition instructions).meaning := by
  simp [meaning, enqueue, h]

theorem call_congr (h : ds.map Definition.meaning = ds'.map Definition.meaning)
    (condition : Option Condition) (form : CallForm) (room : Capacity) :
    outcome ({ d with definitions := ds }.call condition form room) =
      outcome ({ d with definitions := ds' }.call condition form room) := by
  have hreverse : ds.reverse.map Definition.meaning = ds'.reverse.map Definition.meaning := by
    rw [List.map_reverse, List.map_reverse, h]
  unfold call
  simp only [outcome_bind, checkArity_congr h, toOption_mapM, toOption_expand hreverse]
  simp only [pure, Except.pure, outcome_ok, enqueue_congr d h]

def bodyMeaning (gate : String) (qubits : List String) (s : List Char) :
    Option (Option Call.Meaning) :=
  (d.bodyCall gate qubits s).toOption.map (Option.map Call.meaning)

def definitionMeaning (form : DefinitionForm) : Option Definition.Meaning :=
  let name := String.ofList form.name
  let parameters := (commaParts form.parameters).filter (· ≠ [])
  let qubits := commaParts (trim form.qubits)
  if (parameters ++ qubits).all isIdentifier && qubits ≠ [] then
    (split form.body).toOption.bind fun statements =>
      (statements.mapM (d.bodyMeaning name (qubits.map String.ofList))).map fun body =>
        ⟨name, parameters.map String.ofList, qubits.map String.ofList, body.filterMap id⟩
  else none

theorem mapM_bodyMeaning (gate : String) (qubits : List String) (statements : List (List Char)) :
    statements.mapM (d.bodyMeaning gate qubits) =
      (statements.mapM (d.bodyCall gate qubits)).toOption.map (List.map (Option.map Call.meaning)) := by
  rw [toOption_mapM]
  induction statements with
  | nil => rfl
  | cons s statements ih =>
    rw [List.mapM_cons, List.mapM_cons, ih, bodyMeaning]
    cases (d.bodyCall gate qubits s).toOption with
    | none => rfl
    | some call =>
      cases statements.mapM fun s => (d.bodyCall gate qubits s).toOption <;> rfl

/-- A definition is made out of what its texts mean. -/
theorem outcome_define (form : DefinitionForm) : outcome (d.define form) =
    if (Gate.ofName? (String.ofList form.name)).isSome ||
        d.definitions.any fun x => x.name = String.ofList form.name then none
    else (d.definitionMeaning form).map fun m => (d.meaning.1, d.meaning.2 ++ [m]) := by
  unfold define definitionMeaning
  dsimp only
  split
  · rfl
  · cases hfind : List.find? (fun i => !isIdentifier i)
      ((commaParts form.parameters).filter (· ≠ []) ++ commaParts (trim form.qubits)) with
    | some i =>
      have hall : ((commaParts form.parameters).filter (· ≠ []) ++
          commaParts (trim form.qubits)).all isIdentifier = false := by
        refine List.all_eq_false.mpr ⟨i, List.mem_of_find?_eq_some hfind, ?_⟩
        simpa using List.find?_some hfind
      rw [hall]
      rfl
    | none =>
      have hall : ((commaParts form.parameters).filter (· ≠ []) ++
          commaParts (trim form.qubits)).all isIdentifier = true :=
        List.all_eq_true.mpr fun i hi => by simpa using List.find?_eq_none.mp hfind i hi
      rw [hall]
      by_cases hqubits : commaParts (trim form.qubits) = []
      · simp only [hqubits]
        rfl
      · have hsome : (true && decide (commaParts (trim form.qubits) ≠ [])) = true := by
          simpa using hqubits
        rw [if_neg hqubits, if_pos hsome, outcome_bind]
        simp only [mapM_bodyMeaning]
        cases (split form.body).toOption with
        | none => rfl
        | some statements =>
          rw [Option.bind_some, Option.bind_some, outcome_bind]
          cases (statements.mapM (d.bodyCall (String.ofList form.name)
            ((commaParts (trim form.qubits)).map String.ofList))).toOption with
          | none => rfl
          | some body =>
            simp [meaning, Definition.meaning, List.map_filterMap, List.filterMap_map, pure,
              Except.pure]

theorem bodyMeaning_congr (h : ds.map Definition.meaning = ds'.map Definition.meaning)
    (gate : String) (qubits : List String) (s : List Char) :
    { d with definitions := ds }.bodyMeaning gate qubits s =
      { d with definitions := ds' }.bodyMeaning gate qubits s := by
  unfold bodyMeaning bodyCall
  simp only [checkArity_congr h]

theorem define_congr (h : ds.map Definition.meaning = ds'.map Definition.meaning)
    (form : DefinitionForm) :
    outcome ({ d with definitions := ds }.define form) =
      outcome ({ d with definitions := ds' }.define form) := by
  have hany (name : String) : (ds.any fun d => d.name = name) = ds'.any fun d => d.name = name := by
    have hmap (ds : List Definition) : (ds.any fun d => d.name = name) =
        (ds.map Definition.meaning).any fun d => d.name = name := by
      rw [List.any_map]
      rfl
    rw [hmap, hmap, h]
  rw [outcome_define, outcome_define]
  simp only [hany, meaning, h, definitionMeaning, funext (bodyMeaning_congr d h _ _)]

theorem operation_congr (h : ds.map Definition.meaning = ds'.map Definition.meaning)
    (condition : Option Condition) (s : List Char) (room : Capacity) :
    outcome ({ d with definitions := ds }.operation condition s room) =
      outcome ({ d with definitions := ds' }.operation condition s room) := by
  cases operation_reading s with
  | measurement source target hmeasurement =>
    rw [operation_measurement hmeasurement, operation_measurement hmeasurement]
    simp only [outcome_bind, apply_ite outcome, outcome_ok, outcome_error, enqueue_congr d h]
  | reset target hmeasurement hreset =>
    rw [operation_reset hmeasurement hreset, operation_reset hmeasurement hreset]
    simp only [outcome_map, enqueue_congr d h]
  | barrier arguments hmeasurement hreset hbarrier =>
    rw [operation_barrier hmeasurement hreset hbarrier,
      operation_barrier hmeasurement hreset hbarrier]
    simp only [outcome_map, meaning, h]
  | call form hcall hqubits =>
    rw [hcall.operation_eq hqubits, hcall.operation_eq hqubits]
    exact call_congr d h condition form room
  | nothing hnothing =>
    rw [hnothing, hnothing]

theorem statement_congr {d d' : Draft} {room : Capacity} (h : d.meaning = d'.meaning)
    (s : List Char) :
    outcome (d.statement s room) = outcome (d'.statement s room) := by
  obtain ⟨hd', hdefinitions⟩ := meaning_eq h
  rw [hd']
  cases hform : Form.of s with
  | ignored =>
    rw [statement_ignored hform, statement_ignored hform]
    simp [meaning, hdefinitions]
  | declaration kind name size =>
    rw [statement_declaration hform, statement_declaration hform]
    simp only [outcome_bind, declare_congr d hdefinitions]
  | definition form =>
    rw [statement_definition hform, statement_definition hform]
    exact define_congr d hdefinitions form
  | conditional register value text =>
    rw [statement_conditional hform, statement_conditional hform]
    simp only [outcome_bind, operation_congr d hdefinitions]
    rfl
  | operation text =>
    rw [statement_operation hform, statement_operation hform]
    exact operation_congr d hdefinitions none text _

def worked (d : Draft) (statements : List (List Char)) (room : Capacity) : Option Draft :=
  match d.statements statements room with
  | (d', none) => some d'
  | (_, some _) => none

theorem worked_cons (d : Draft) (s : List Char) (statements : List (List Char)) (room : Capacity) :
    d.worked (s :: statements) room =
      (d.statement s (room.inside 1)).toOption.bind fun d' => d'.worked statements room := by
  unfold worked
  rw [statements_cons]
  cases d.statement s (room.inside 1) <;> rfl

/-- Statements are worked alike into drafts of the same meaning, also where each is changed to one
that means the same. -/
theorem worked_congr {f : List Char → List Char} {statements : List (List Char)}
    (room : Capacity) (hf : ∀ s ∈ statements, ∀ (d : Draft) (room : Capacity),
      outcome (d.statement (f s) room) = outcome (d.statement s room))
    {d d' : Draft} (h : d.meaning = d'.meaning) :
    (d.worked (statements.map f) room).map meaning = (d'.worked statements room).map meaning := by
  induction statements generalizing d d' with
  | nil => exact congrArg some h
  | cons s statements ih =>
    obtain ⟨hs, hstatements⟩ := List.forall_mem_cons.mp hf
    have houtcome : outcome (d.statement (f s) (room.inside 1)) =
        outcome (d'.statement s (room.inside 1)) :=
      (hs d _).trans (statement_congr h s)
    rw [List.map_cons, worked_cons, worked_cons]
    unfold outcome at houtcome
    cases hd : (d.statement (f s) (room.inside 1)).toOption with
    | none =>
      rw [hd, Option.map_none, eq_comm, Option.map_eq_none_iff] at houtcome
      rw [houtcome]
      rfl
    | some e =>
      rw [hd, Option.map_some, eq_comm, Option.map_eq_some_iff] at houtcome
      obtain ⟨e', he', hmeaning⟩ := houtcome
      rw [he']
      exact ih hstatements hmeaning.symm

end Draft

end Statement

end CircuitConsole
