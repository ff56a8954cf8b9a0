import CircuitConsole.Proofs.Statement.Drafts
import CircuitConsole.Proofs.Statement.Expansion

/-!
Calls on other qubits. A definition knows the qubits of its call by their formal names only, and so
does every definition that it calls in turn. A call that is moved to other qubits, no two of which
were different before, is therefore expanded as before, with the qubits moved in whatever it queues;
and what it queues are built-in gates on qubits of the call, under the condition of the call.
-/

namespace CircuitConsole.Statement

variable {definitions : List Definition} {gate : String} {parameters : List Float}
  {qubits : List Nat} {instructions : List (Instruction Float)} {p : Nat → Nat}

def Distinguishes (p : Nat → Nat) (qubits : List Nat) : Prop :=
  ∀ q ∈ qubits, ∀ q' ∈ qubits, p q = p q' → q = q'

theorem Distinguishes.mono {places : List Nat} (hp : Distinguishes p qubits)
    (h : ∀ place ∈ places, place ∈ qubits) : Distinguishes p places :=
  fun q hq q' hq' => hp q (h q hq) q' (h q' hq')

theorem Distinguishes.nodup_map (hp : Distinguishes p qubits) :
    (qubits.map p).Nodup ↔ qubits.Nodup :=
  ⟨List.Nodup.of_map p, List.Nodup.map_on hp⟩

/-- A formal name stands for the moved qubit. -/
theorem lookUp?_map {α β : Type} (f : α → β) (names : List String) (values : List α)
    (name : String) :
    lookUp? names (values.map f) name = (lookUp? names values name).map f := by
  unfold lookUp?
  rw [List.zip_map_right, ← List.map_reverse, List.find?_map, Option.map_map, Option.map_map]
  rfl

theorem placesOf_map (p : Nat → Nat) (x : Definition) (qubits : List Nat) (names : List String) :
    placesOf x (qubits.map p) names = (placesOf x qubits names).map (List.map p) := by
  unfold placesOf
  rw [← mapM_map_result]
  congr
  funext name
  rw [lookUp?_map]
  cases lookUp? x.qubits qubits name <;> rfl

theorem mem_of_placesOf {x : Definition} {names : List String} {places : List Nat}
    (h : placesOf x qubits names = .ok places) : ∀ place ∈ places, place ∈ qubits := by
  intro place hplace
  obtain ⟨name, -, hname⟩ := exists_of_forall₂ (placesOf_eq_ok.mp h) hplace
  exact lookUp?_mem hname

/-- A call in a body is moved with the qubits of the call of its definition, where the calls that it
is expanded to are. -/
theorem bodyPart_map {room : Nat} {earlier : List Definition} {x : Definition} {call : Call}
    (h : ∀ values places, (∀ place ∈ places, place ∈ qubits) →
      expand room earlier call.gate values (places.map p) =
        (expand room earlier call.gate values places).map (List.map (Instruction.mapQubits p))) :
    bodyPart room earlier x parameters (qubits.map p) call =
      (bodyPart room earlier x parameters qubits call).map
        (List.map (Instruction.mapQubits p)) := by
  unfold bodyPart
  rw [placesOf_map]
  cases evaluateAll (x.parameters.zip parameters) call.expressions (room - 1) with
  | error fault => rfl
  | ok values =>
    cases hplaces : placesOf x qubits call.qubits with
    | error fault => rfl
    | ok places => exact h values places (mem_of_placesOf hplaces)

/-- A call that is moved is expanded as before, or fails as before. -/
theorem expand_map {room : Nat} (hp : Distinguishes p qubits) :
    expand room definitions gate parameters (qubits.map p) =
      (expand room definitions gate parameters qubits).map
        (List.map (Instruction.mapQubits p)) := by
  induction room, definitions, gate, parameters, qubits using expand_induction with
  | noRoom definitions gate parameters qubits =>
    rw [expand_noRoom, expand_noRoom]
    rfl
  | repeated room definitions gate parameters qubits hqubits =>
    rw [expand_repeated (mt hp.nodup_map.mp hqubits), expand_repeated hqubits]
    rfl
  | cramped room definitions gate parameters qubits g hqubits hgate hroom =>
    rw [expand_cramped (hp.nodup_map.mpr hqubits) hgate hroom, expand_cramped hqubits hgate hroom]
    rfl
  | builtIn room definitions gate parameters qubits g hqubits hgate hroom =>
    rw [expand_builtIn (hp.nodup_map.mpr hqubits) hgate hroom, expand_builtIn hqubits hgate hroom]
    rfl
  | unknown room gate parameters qubits hqubits hgate =>
    rw [expand_unknown (hp.nodup_map.mpr hqubits) hgate, expand_unknown hqubits hgate]
    rfl
  | latest room x earlier parameters qubits hqubits hgate ih =>
    have hbody (call : Call) : bodyPart room earlier x parameters (qubits.map p) call =
        (bodyPart room earlier x parameters qubits call).map
          (List.map (Instruction.mapQubits p)) :=
      bodyPart_map fun values places hplaces => ih call values places (hp.mono hplaces)
    rw [expand_latest (hp.nodup_map.mpr hqubits) hgate, expand_latest hqubits hgate,
      funext hbody, mapM_map_result]
    cases x.body.mapM (bodyPart room earlier x parameters qubits) with
    | error fault => rfl
    | ok parts => exact congrArg Except.ok List.map_flatten.symm
  | earlier room x earlier gate parameters qubits hqubits hgate hx ih =>
    rw [expand_earlier hx, expand_earlier hx]
    exact ih hp

namespace Draft

/-- A round of a call on some qubits, and the same on the qubits that these are moved to: both fail
alike, or both queue the same operations, once with the qubits moved. -/
theorem round_moved (d : Draft) (condition : Option Condition) (gate : String)
    (parameters : List Float) (room : Capacity) (hp : Distinguishes p qubits) :
    (∃ fault, d.round condition gate parameters qubits room = .error fault ∧
      d.round condition gate parameters (qubits.map p) room = .error fault) ∨
    ∃ operations, d.round condition gate parameters qubits room =
        .ok { d with queue := d.queue ++ operations } ∧
      d.round condition gate parameters (qubits.map p) room =
        .ok { d with queue := d.queue ++ operations.map (·.mapQubits p) } ∧
      ∀ op ∈ operations, op.condition = condition ∧ op.instruction.bits = [] ∧
        ∃ g values places, op.instruction = .gate g values places ∧ places.Nodup ∧
          ∀ place ∈ places, place ∈ qubits := by
  unfold round
  rw [expand_map hp]
  cases hexpand : expand (room.calls - 1) d.definitions.reverse gate parameters qubits with
  | error fault => exact .inl ⟨fault, rfl, rfl⟩
  | ok instructions =>
    refine .inr ⟨instructions.map (⟨·, condition⟩), rfl, ?_, ?_⟩
    · simp only [Except.map, enqueue, List.map_map]
      rfl
    · intro op hop
      obtain ⟨i, hi, rfl⟩ := List.mem_map.mp hop
      obtain ⟨g, values, places, rfl, hplaces⟩ := gates_of_expand hexpand i hi
      exact ⟨rfl, rfl, g, values, places, rfl, hplaces⟩

/-- A definition that calls another one twice, moved by five qubits. -/
theorem nested_round_moved :
    let d : Draft := ⟨[⟨"q", 0, 8⟩], [⟨"c", 0, 2⟩], [
      ⟨"g", ["t"], ["a", "b"], [⟨"rx", ["t"], ["b"]⟩, ⟨"cx", [], ["b", "a"]⟩]⟩,
      ⟨"f", ["s", "t"], ["b", "a", "c"], [⟨"g", ["t"], ["a", "c"]⟩, ⟨"g", ["s/2"], ["c", "b"]⟩]⟩],
      [], false⟩
    let condition : Option Condition := some ⟨"c", 0, 2, 3⟩
    Distinguishes (· + 5) [2, 0, 1] ∧
      (d.round condition "f" [1, 2] [2, 0, 1] .usual).toOption.isSome ∧
      ((∃ fault, d.round condition "f" [1, 2] [2, 0, 1] .usual = .error fault ∧
        d.round condition "f" [1, 2] ([2, 0, 1].map (· + 5)) .usual = .error fault) ∨
      ∃ operations, d.round condition "f" [1, 2] [2, 0, 1] .usual =
          .ok { d with queue := d.queue ++ operations } ∧
        d.round condition "f" [1, 2] ([2, 0, 1].map (· + 5)) .usual =
          .ok { d with queue := d.queue ++ operations.map (·.mapQubits (· + 5)) } ∧
        ∀ op ∈ operations, op.condition = condition ∧ op.instruction.bits = [] ∧
          ∃ g values places, op.instruction = .gate g values places ∧ places.Nodup ∧
            ∀ place ∈ places, place ∈ [2, 0, 1]) := by
  intro d condition
  have hp : Distinguishes (· + 5) [2, 0, 1] := fun _ _ _ _ h => Nat.add_right_cancel h
  exact ⟨hp, by decide +kernel, d.round_moved condition "f" [1, 2] .usual hp⟩

end Draft

end CircuitConsole.Statement
