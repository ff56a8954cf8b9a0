import CircuitConsole.Proofs.Statement.Expansion
import Mathlib.Data.List.MinMax

/-!
How an expansion can fail. In a table where every definition fits to those before it, a call with
the right numbers of parameters and qubits finds every gate and every qubit that it needs. Its
expansion goes down the table and fails only where the value of a parameter cannot be found, where
a qubit is repeated, or where the calls are nested deeper than there is room.
-/

namespace CircuitConsole.Statement

/-- How many calls a call brings about inside one another, itself included. The definitions stand in
reverse order. -/
def nestingDepth : List Definition → String → Nat
  | [], _ => 1
  | d :: earlier, gate =>
    if (Gate.ofName? gate).isSome then 1
    else if d.name = gate then
      (d.body.map fun call => nestingDepth earlier call.gate).foldr max 0 + 1
    else nestingDepth earlier gate

theorem nestingDepth_pos (definitions : List Definition) (gate : String) :
    0 < nestingDepth definitions gate := by
  induction definitions with
  | nil => exact Nat.one_pos
  | cons d earlier ih =>
    unfold nestingDepth
    split
    · exact Nat.one_pos
    · split
      · exact Nat.succ_pos _
      · exact ih

/-- The calls of a body are nested less deep than a call of its definition. -/
theorem nestingDepth_body {d : Definition} (earlier : List Definition)
    (hd : Gate.ofName? d.name = none) {call : Call} (hcall : call ∈ d.body) :
    nestingDepth earlier call.gate < nestingDepth (d :: earlier) d.name := by
  have hle : nestingDepth earlier call.gate ≤
      (d.body.map fun call => nestingDepth earlier call.gate).foldr max 0 :=
    List.le_max_of_le' 0 (List.mem_map_of_mem hcall) le_rfl
  simp only [nestingDepth, hd, Option.isSome_none, Bool.false_eq_true, if_false, if_true]
  exact Nat.lt_succ_of_le hle

theorem nestingDepth_earlier {d : Definition} {earlier : List Definition} {gate : String}
    (hgate : Gate.ofName? gate = none) (hd : d.name ≠ gate) :
    nestingDepth (d :: earlier) gate = nestingDepth earlier gate := by
  simp only [nestingDepth, hgate, Option.isSome_none, Bool.false_eq_true, if_false, if_neg hd]

/-- The faults with which a call that has the right numbers can fail. The calls nested inside it and
the two that make an instruction may not find enough room. -/
inductive Foreseen (room depth : Nat) : Fault → Prop
  | expression (fault : Expression.Fault) : Foreseen room depth (.expression fault)
  | repeatedQubit (gate : String) : Foreseen room depth (.repeatedQubit gate)
  | nesting (h : room < depth + 2) : Foreseen room depth (.overload .nesting)

theorem Foreseen.inside {room depth depth' : Nat} {fault : Fault} (h : Foreseen room depth fault)
    (hdepth : depth < depth') : Foreseen (room + 1) depth' fault := by
  cases h with
  | expression fault => exact .expression fault
  | repeatedQubit gate => exact .repeatedQubit gate
  | nesting h => exact .nesting (by omega)

/-- A formal name is bound where there are as many values as names. -/
theorem lookUp?_isSome {α : Type} {names : List String} {values : List α} {name : String}
    (hlength : values.length = names.length) (h : name ∈ names) :
    ∃ a, lookUp? names values name = some a := by
  obtain ⟨i, hi, rfl⟩ := List.getElem_of_mem h
  have hpair : (names[i], values[i]) ∈ (names.zip values).reverse := by
    rw [List.mem_reverse, List.mem_iff_getElem]
    exact ⟨i, by rw [List.length_zip]; omega, List.getElem_zip⟩
  cases hfind : (names.zip values).reverse.find? fun b => b.1 = names[i] with
  | some b => exact ⟨b.2, by rw [lookUp?, hfind]; rfl⟩
  | none => simpa using List.find?_eq_none.mp hfind _ hpair

theorem evaluateAll_error {room : Nat} {env : Expression.Environment} {texts : List String}
    {fault : Fault} (h : evaluateAll env texts room = .error fault) :
    (∃ e, fault = .expression e) ∨ room = 0 ∧ fault = .overload .nesting := by
  obtain ⟨text, _, htext⟩ := exists_of_mapM_eq_error h
  by_cases hroom : room = 0
  · rw [if_pos hroom] at htext
    exact .inr ⟨hroom, (Except.error.inj htext).symm⟩
  · rw [if_neg hroom] at htext
    cases hvalue : Expression.evaluate env text.toList room with
    | ok x => simp [hvalue, Except.mapError] at htext
    | error e =>
      rw [hvalue] at htext
      exact .inl ⟨e, (Except.error.inj htext).symm⟩

/-- The latest definition has the numbers with which it was made. -/
theorem arity?_latest {earlier : List Definition} {d : Definition} (hd : Fits earlier d) :
    arity? (earlier ++ [d]) d.name = some (d.parameters.length, d.qubits.length) := by
  have hnone : earlier.find? (fun e => e.name = d.name) = none := by
    rw [List.find?_eq_none]
    simpa using hd.new
  simp [arity?, hd.notBuiltIn, List.find?_append, hnone]

/-- A call in the body of a definition that binds its qubits fails for a parameter, or where it is
expanded. -/
theorem bodyPart_error {room : Nat} {d : Definition} {earlier : List Definition}
    {parameters : List Float} {qubits : List Nat} {call : Call} {fault : Fault}
    (hcount : qubits.length = d.qubits.length) (hbound : ∀ q ∈ call.qubits, q ∈ d.qubits)
    (h : bodyPart room earlier d parameters qubits call = .error fault) :
    (∃ e, fault = .expression e) ∨ room - 1 = 0 ∧ fault = .overload .nesting ∨
      ∃ (values : List Float) (places : List Nat), values.length = call.expressions.length ∧
        places.length = call.qubits.length ∧
        expand room earlier call.gate values places = .error fault := by
  rcases bind_eq_error.mp h with h | ⟨values, hvalues, h⟩
  · exact (evaluateAll_error h).imp_right .inl
  · rcases bind_eq_error.mp h with h | ⟨places, hplaces, h⟩
    · -- every qubit of the body is bound
      obtain ⟨q, hq, hunbound⟩ := exists_of_mapM_eq_error h
      obtain ⟨place, hplace⟩ := lookUp?_isSome hcount (hbound q hq)
      simp [hplace] at hunbound
    · exact .inr (.inr
        ⟨values, places, length_of_evaluateAll hvalues, length_of_mapM hplaces, h⟩)

/-- A call with the right numbers fails in a foreseen way, if at all. -/
theorem expand_faults {room : Nat} {definitions : List Definition} {gate : String}
    {parameters : List Float} {qubits : List Nat} {fault : Fault}
    (hsound : Sound definitions.reverse)
    (harity : arity? definitions.reverse gate = some (parameters.length, qubits.length))
    (h : expand room definitions gate parameters qubits = .error fault) :
    Foreseen room (nestingDepth definitions gate) fault := by
  induction room, definitions, gate, parameters, qubits using expand_induction with
  | noRoom definitions gate =>
    rw [expand_noRoom] at h
    obtain rfl := Except.error.inj h
    exact .nesting (by omega)
  | repeated room definitions gate parameters qubits hqubits =>
    rw [expand_repeated hqubits] at h
    obtain rfl := Except.error.inj h
    exact .repeatedQubit gate
  | cramped room definitions gate parameters qubits g hqubits hgate hroom =>
    rw [expand_cramped hqubits hgate hroom] at h
    obtain rfl := Except.error.inj h
    have hdepth := nestingDepth_pos definitions gate
    exact .nesting (by omega)
  | builtIn room definitions gate parameters qubits g hqubits hgate hroom =>
    rw [expand_builtIn hqubits hgate hroom] at h
    cases h
  | unknown room gate parameters qubits hqubits hgate => simp [arity?, hgate] at harity
  | latest room d earlier parameters qubits hqubits hgate ih =>
    obtain ⟨hearlier, hd⟩ := hsound.of_reverse_cons
    rw [List.reverse_cons, arity?_latest hd, Option.some.injEq, Prod.mk.injEq] at harity
    rw [expand_latest hqubits hgate] at h
    obtain ⟨call, hcall, h⟩ := exists_of_mapM_eq_error (map_eq_error.mp h)
    rcases bodyPart_error harity.2.symm (hd.qubits call hcall) h with
      ⟨e, rfl⟩ | ⟨hroom, rfl⟩ | ⟨values, places, hvalues, hplaces, h⟩
    · exact .expression e
    · have hdepth := nestingDepth_body earlier hgate hcall
      exact .nesting (by omega)
    · have hbody := checkArity_eq_ok (hd.arity call hcall)
      rw [← hvalues, ← hplaces] at hbody
      exact (ih call values places hearlier hbody h).inside
        (nestingDepth_body earlier hgate hcall)
  | earlier room d earlier gate parameters qubits hqubits hgate hd ih =>
    rw [expand_earlier hd] at h
    rw [nestingDepth_earlier hgate hd]
    refine ih hsound.of_reverse_cons.1 ?_ h
    simpa [arity?, hgate, List.find?_append, hd] using harity

end CircuitConsole.Statement
