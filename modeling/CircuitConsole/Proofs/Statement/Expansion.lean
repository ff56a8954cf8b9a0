import CircuitConsole.Proofs.Success
import CircuitConsole.Statement.Expansion
import Mathlib.Data.List.Nodup

/-!
Expansion keeps to the built-in gates. In a table where every definition fits to those before it,
a call with the right numbers of parameters and qubits expands to instructions that each have the
right numbers for their gate, on distinct qubits of the call.
-/

namespace CircuitConsole

inductive Instruction.FitsIn {R : Type} (width bits : Nat) : Instruction R → Prop
  | gate (g : Gate) (parameters : List R) (qubits : List Nat)
      (hparameters : parameters.length = g.parameterCount)
      (hqubits : qubits.length = g.qubitCount) (hdistinct : qubits.Nodup)
      (hrange : ∀ q ∈ qubits, q < width) : FitsIn width bits (.gate g parameters qubits)
  | measure (qubit bit : Nat) (hqubit : qubit < width) (hbit : bit < bits) :
      FitsIn width bits (.measure qubit bit)
  | reset (qubit : Nat) (hqubit : qubit < width) : FitsIn width bits (.reset qubit)

theorem Instruction.FitsIn.mono {R : Type} {width width' bits bits' : Nat} {i : Instruction R}
    (h : i.FitsIn width bits) (hwidth : width ≤ width') (hbits : bits ≤ bits') :
    i.FitsIn width' bits' := by
  cases h with
  | gate g parameters qubits hparameters hqubits hdistinct hrange =>
    exact .gate g parameters qubits hparameters hqubits hdistinct
      fun q hq => Nat.lt_of_lt_of_le (hrange q hq) hwidth
  | measure qubit bit hqubit hbit =>
    exact .measure qubit bit (Nat.lt_of_lt_of_le hqubit hwidth) (Nat.lt_of_lt_of_le hbit hbits)
  | reset qubit hqubit => exact .reset qubit (Nat.lt_of_lt_of_le hqubit hwidth)

theorem Instruction.FitsIn.qubits_lt {R : Type} {width bits : Nat} {i : Instruction R}
    (h : i.FitsIn width bits) : ∀ q ∈ i.qubits, q < width := by
  cases h with
  | gate g parameters qubits hparameters hqubits hdistinct hrange => exact hrange
  | measure qubit bit hqubit hbit => exact List.forall_mem_singleton.mpr hqubit
  | reset qubit hqubit => exact List.forall_mem_singleton.mpr hqubit

theorem Instruction.FitsIn.bits_lt {R : Type} {width bits : Nat} {i : Instruction R}
    (h : i.FitsIn width bits) : ∀ b ∈ i.bits, b < bits := by
  cases h with
  | gate g parameters qubits hparameters hqubits hdistinct hrange => exact List.forall_mem_nil _
  | measure qubit bit hqubit hbit => exact List.forall_mem_singleton.mpr hbit
  | reset qubit hqubit => exact List.forall_mem_nil _

namespace Statement

structure Fits (earlier : List Definition) (x : Definition) : Prop where
  notBuiltIn : Gate.ofName? x.name = none
  new : ∀ e ∈ earlier, e.name ≠ x.name
  arity : ∀ call ∈ x.body,
    checkArity earlier call.gate call.expressions.length call.qubits.length = .ok ()
  qubits : ∀ call ∈ x.body, ∀ q ∈ call.qubits, q ∈ x.qubits

inductive Sound : List Definition → Prop
  | nil : Sound []
  | snoc {earlier : List Definition} {x : Definition} (h : Sound earlier) (hx : Fits earlier x) :
      Sound (earlier ++ [x])

/-- In a sound table every definition fits to those before it. -/
theorem Sound.fits {definitions earlier later : List Definition} {x : Definition}
    (h : Sound definitions) (hsplit : definitions = earlier ++ x :: later) : Fits earlier x := by
  induction h generalizing later with
  | nil => simp at hsplit
  | @snoc front y _ hy ih =>
    rcases List.eq_nil_or_concat later with rfl | ⟨before, z, rfl⟩
    · obtain ⟨rfl, hlast⟩ := List.append_inj' hsplit rfl
      obtain rfl := (List.cons.inj hlast).1
      exact hy
    · rw [List.concat_eq_append, ← List.cons_append, ← List.append_assoc] at hsplit
      exact ih (List.append_inj' hsplit rfl).1

theorem Sound.of_reverse_cons {d : Definition} {earlier : List Definition}
    (h : Sound (d :: earlier).reverse) : Sound earlier.reverse ∧ Fits earlier.reverse d := by
  generalize hds : (d :: earlier).reverse = ds at h
  rw [List.reverse_cons] at hds
  cases h with
  | nil => simp at hds
  | snoc hsound hx =>
    obtain ⟨rfl, hlast⟩ := List.append_inj' hds rfl
    obtain rfl := List.cons.inj hlast |>.1
    exact ⟨hsound, hx⟩

theorem checkArity_eq_ok {definitions : List Definition} {gate : String}
    {parameters qubits : Nat} (h : checkArity definitions gate parameters qubits = .ok ()) :
    arity? definitions gate = some (parameters, qubits) := by
  unfold checkArity at h
  split at h
  · contradiction
  · rename_i p q harity
    split at h
    · contradiction
    · split at h
      · contradiction
      · rename_i hp hq
        rw [harity, not_not.mp hp, not_not.mp hq]

theorem lookUp?_mem {α : Type} {names : List String} {values : List α} {name : String} {a : α}
    (h : lookUp? names values name = some a) : a ∈ values := by
  unfold lookUp? at h
  obtain ⟨b, hb, rfl⟩ := Option.map_eq_some_iff.mp h
  exact (List.of_mem_zip (List.mem_reverse.mp (List.mem_of_find?_eq_some hb))).2

def placesOf (x : Definition) (qubits : List Nat) (names : List String) :
    Except Fault (List Nat) :=
  names.mapM fun name => match lookUp? x.qubits qubits name with
    | some place => .ok place
    | none => .error (.unknownQubit name x.name)

def bodyPart (room : Nat) (earlier : List Definition) (x : Definition) (parameters : List Float)
    (qubits : List Nat) (call : Call) : Except Fault (List (Instruction Float)) := do
  let values ← evaluateAll (x.parameters.zip parameters) call.expressions (room - 1)
  let places ← placesOf x qubits call.qubits
  expand room earlier call.gate values places

section Equations

variable {room : Nat} {definitions earlier : List Definition} {d : Definition} {gate : String}
  {parameters : List Float} {qubits : List Nat}

theorem expand_noRoom :
    expand 0 definitions gate parameters qubits = .error (.overload .nesting) := by
  rw [expand]

theorem expand_repeated (hqubits : ¬ qubits.Nodup) :
    expand (room + 1) definitions gate parameters qubits = .error (.repeatedQubit gate) := by
  rw [expand.eq_def]
  simp [hqubits]

theorem expand_cramped {g : Gate} (hqubits : qubits.Nodup) (hgate : Gate.ofName? gate = some g)
    (hroom : room < 2) :
    expand (room + 1) definitions gate parameters qubits = .error (.overload .nesting) := by
  rw [expand.eq_def]
  simp [hqubits, hgate, hroom]

theorem expand_builtIn {g : Gate} (hqubits : qubits.Nodup) (hgate : Gate.ofName? gate = some g)
    (hroom : 2 ≤ room) :
    expand (room + 1) definitions gate parameters qubits = .ok [.gate g parameters qubits] := by
  rw [expand.eq_def]
  simp [hqubits, hgate, Nat.not_lt.mpr hroom]

theorem expand_unknown (hqubits : qubits.Nodup) (hgate : Gate.ofName? gate = none) :
    expand (room + 1) [] gate parameters qubits = .error (.unknownGate gate) := by
  rw [expand]
  simp [hqubits, hgate]

theorem expand_latest (hqubits : qubits.Nodup) (hgate : Gate.ofName? d.name = none) :
    expand (room + 1) (d :: earlier) d.name parameters qubits =
      (d.body.mapM (bodyPart room earlier d parameters qubits)).map List.flatten := by
  have hfound : expand (room + 1) (d :: earlier) d.name parameters qubits = (do
      let parts ← d.body.mapM (bodyPart room earlier d parameters qubits)
      .ok parts.flatten) := by
    rw [expand, hgate]
    simp only [hqubits, decide_true, Bool.not_true, Bool.false_eq_true, if_false, if_true]
    rfl
  rw [hfound]
  cases d.body.mapM (bodyPart room earlier d parameters qubits) <;> rfl

/-- A definition of another gate is passed over, also where the call fails for itself. -/
theorem expand_earlier (hd : d.name ≠ gate) :
    expand room (d :: earlier) gate parameters qubits =
      expand room earlier gate parameters qubits := by
  obtain _ | room := room
  · rw [expand_noRoom, expand_noRoom]
  by_cases hqubits : qubits.Nodup
  · cases hgate : Gate.ofName? gate with
    | some g =>
      obtain hroom | hroom := Nat.lt_or_ge room 2
      · rw [expand_cramped hqubits hgate hroom, expand_cramped hqubits hgate hroom]
      · rw [expand_builtIn hqubits hgate hroom, expand_builtIn hqubits hgate hroom]
    | none =>
      rw [expand.eq_def]
      simp [hqubits, hgate, hd]
  · rw [expand_repeated hqubits, expand_repeated hqubits]

/-- The cases of an expansion, with one induction over the definitions that are left. -/
@[elab_as_elim]
theorem expand_induction {motive : Nat → List Definition → String → List Float → List Nat → Prop}
    (noRoom : ∀ definitions gate parameters qubits, motive 0 definitions gate parameters qubits)
    (repeated : ∀ room definitions gate parameters qubits, ¬ qubits.Nodup →
      motive (room + 1) definitions gate parameters qubits)
    (cramped : ∀ room definitions gate parameters qubits g, qubits.Nodup →
      Gate.ofName? gate = some g → room < 2 → motive (room + 1) definitions gate parameters qubits)
    (builtIn : ∀ room definitions gate parameters qubits g, qubits.Nodup →
      Gate.ofName? gate = some g → 2 ≤ room → motive (room + 1) definitions gate parameters qubits)
    (unknown : ∀ room gate parameters qubits, qubits.Nodup → Gate.ofName? gate = none →
      motive (room + 1) [] gate parameters qubits)
    (latest : ∀ room d earlier parameters qubits, qubits.Nodup → Gate.ofName? d.name = none →
      (∀ (call : Call) values places, motive room earlier call.gate values places) →
      motive (room + 1) (d :: earlier) d.name parameters qubits)
    (earlier : ∀ room d earlier gate parameters qubits, qubits.Nodup → Gate.ofName? gate = none →
      d.name ≠ gate → motive (room + 1) earlier gate parameters qubits →
      motive (room + 1) (d :: earlier) gate parameters qubits)
    (room : Nat) (definitions : List Definition) (gate : String) (parameters : List Float)
    (qubits : List Nat) : motive room definitions gate parameters qubits := by
  induction room, definitions, gate, parameters, qubits using expand.induct with
  | case1 definitions gate parameters qubits => exact noRoom ..
  | case2 room definitions gate parameters qubits hqubits =>
    exact repeated _ _ _ _ _ (by simpa using hqubits)
  | case3 room definitions gate parameters qubits hqubits g hgate hroom =>
    exact cramped _ _ _ _ _ g (by simpa using hqubits) hgate hroom
  | case4 room definitions gate parameters qubits hqubits g hgate hroom =>
    exact builtIn _ _ _ _ _ g (by simpa using hqubits) hgate (Nat.not_lt.mp hroom)
  | case5 room gate parameters qubits hqubits hgate =>
    exact unknown _ _ _ _ (by simpa using hqubits) hgate
  | case6 room parameters qubits hqubits d definitions hgate ih =>
    exact latest _ d definitions _ _ (by simpa using hqubits) hgate ih
  | case7 room gate parameters qubits hqubits hgate d definitions hd ih =>
    exact earlier _ d definitions _ _ _ (by simpa using hqubits) hgate hd ih

end Equations

/-- What a call of a body becomes when its definition is expanded: the values of its parameters
and the places of its qubits are found, and it is expanded in what came before. -/
def BecomesPart (room : Nat) (earlier : List Definition) (d : Definition)
    (parameters : List Float) (qubits : List Nat) (call : Call)
    (part : List (Instruction Float)) : Prop :=
  ∃ values places,
    evaluateAll (d.parameters.zip parameters) call.expressions (room - 1) = .ok values ∧
    List.Forall₂ (fun q place => lookUp? d.qubits qubits q = some place) call.qubits places ∧
    expand room earlier call.gate values places = .ok part

/-- How the expansion of a call comes about: the gate is built in, or it is the latest definition,
or it is looked for among the earlier ones. -/
inductive Expansion (room : Nat) : List Definition → String → List Float → List Nat →
    List (Instruction Float) → Prop
  | builtIn {definitions : List Definition} {gate : String} {parameters : List Float}
      {qubits : List Nat} (g : Gate) (hgate : Gate.ofName? gate = some g) (hroom : 2 ≤ room) :
      Expansion room definitions gate parameters qubits [.gate g parameters qubits]
  | latest {d : Definition} {earlier : List Definition} {parameters : List Float}
      {qubits : List Nat} (parts : List (List (Instruction Float)))
      (hgate : Gate.ofName? d.name = none)
      (hparts : List.Forall₂ (BecomesPart room earlier d parameters qubits) d.body parts) :
      Expansion room (d :: earlier) d.name parameters qubits parts.flatten
  | earlier {d : Definition} {earlier : List Definition} {gate : String}
      {parameters : List Float} {qubits : List Nat} {instructions : List (Instruction Float)}
      (hgate : Gate.ofName? gate = none) (hd : d.name ≠ gate)
      (h : expand (room + 1) earlier gate parameters qubits = .ok instructions) :
      Expansion room (d :: earlier) gate parameters qubits instructions

theorem placesOf_eq_ok {x : Definition} {qubits : List Nat} {names : List String}
    {places : List Nat} : placesOf x qubits names = .ok places ↔
      List.Forall₂ (fun q place => lookUp? x.qubits qubits q = some place) names places := by
  unfold placesOf
  rw [mapM_eq_ok]
  have hname (q : String) (place : Nat) : (match lookUp? x.qubits qubits q with
      | some place => Except.ok place
      | none => .error (Fault.unknownQubit q x.name)) = .ok place ↔
      lookUp? x.qubits qubits q = some place := by
    cases lookUp? x.qubits qubits q <;> simp
  simp only [hname]

theorem BecomesPart.of_bodyPart {room : Nat} {earlier : List Definition} {d : Definition}
    {parameters : List Float} {qubits : List Nat} {call : Call} {part : List (Instruction Float)}
    (h : bodyPart room earlier d parameters qubits call = .ok part) :
    BecomesPart room earlier d parameters qubits call part := by
  obtain ⟨values, hvalues, h⟩ := bind_eq_ok.mp h
  obtain ⟨places, hplaces, h⟩ := bind_eq_ok.mp h
  exact ⟨values, places, hvalues, placesOf_eq_ok.mp hplaces, h⟩

theorem expand_eq_ok {room : Nat} {definitions : List Definition} {gate : String}
    {parameters : List Float} {qubits : List Nat} {instructions : List (Instruction Float)}
    (h : expand room definitions gate parameters qubits = .ok instructions) :
    qubits.Nodup ∧ ∃ less, room = less + 1 ∧
      Expansion less definitions gate parameters qubits instructions := by
  induction room, definitions, gate, parameters, qubits using expand_induction with
  | noRoom => simp [expand_noRoom] at h
  | repeated room definitions gate parameters qubits hqubits =>
    simp [expand_repeated hqubits] at h
  | cramped room definitions gate parameters qubits g hqubits hgate hroom =>
    simp [expand_cramped hqubits hgate hroom] at h
  | builtIn room definitions gate parameters qubits g hqubits hgate hroom =>
    rw [expand_builtIn hqubits hgate hroom] at h
    obtain rfl := Except.ok.inj h
    exact ⟨hqubits, room, rfl, .builtIn g hgate hroom⟩
  | unknown room gate parameters qubits hqubits hgate =>
    simp [expand_unknown hqubits hgate] at h
  | latest room d earlier parameters qubits hqubits hgate _ =>
    rw [expand_latest hqubits hgate] at h
    obtain ⟨parts, hparts, rfl⟩ := map_eq_ok.mp h
    exact ⟨hqubits, room, rfl, .latest parts hgate
      ((mapM_eq_ok.mp hparts).imp fun _ _ => BecomesPart.of_bodyPart)⟩
  | earlier room d earlier gate parameters qubits hqubits hgate hd _ =>
    rw [expand_earlier hd] at h
    exact ⟨hqubits, room, rfl, .earlier hgate hd h⟩

/-- What holds of the built-in gates, and of a definition where it holds of the calls of its body,
holds of every call that can be expanded. -/
@[elab_as_elim]
theorem expand_ok_induction
    {motive : List Definition → String → List Float → List Nat → List (Instruction Float) → Prop}
    (builtIn : ∀ definitions gate parameters qubits g, qubits.Nodup → Gate.ofName? gate = some g →
      motive definitions gate parameters qubits [.gate g parameters qubits])
    (latest : ∀ room d earlier parameters qubits parts,
      List.Forall₂ (fun call part => ∃ values places,
        evaluateAll (d.parameters.zip parameters) call.expressions (room - 1) = .ok values ∧
        List.Forall₂ (fun q place => lookUp? d.qubits qubits q = some place) call.qubits places ∧
        motive earlier call.gate values places part) d.body parts →
      motive (d :: earlier) d.name parameters qubits parts.flatten)
    (earlier : ∀ d earlier gate parameters qubits instructions, Gate.ofName? gate = none →
      d.name ≠ gate → motive earlier gate parameters qubits instructions →
      motive (d :: earlier) gate parameters qubits instructions)
    {room : Nat} {definitions : List Definition} {gate : String} {parameters : List Float}
    {qubits : List Nat} {instructions : List (Instruction Float)}
    (h : expand room definitions gate parameters qubits = .ok instructions) :
    motive definitions gate parameters qubits instructions := by
  induction definitions generalizing room gate parameters qubits instructions with
  | nil =>
    obtain ⟨hdistinct, less, rfl, hexpansion⟩ := expand_eq_ok h
    cases hexpansion with
    | builtIn g hgate _ => exact builtIn [] gate parameters qubits g hdistinct hgate
  | cons d definitions ih =>
    obtain ⟨hdistinct, less, rfl, hexpansion⟩ := expand_eq_ok h
    cases hexpansion with
    | builtIn g hgate _ => exact builtIn _ gate parameters qubits g hdistinct hgate
    | latest parts hgate hparts =>
      refine latest less d definitions parameters qubits parts (hparts.imp ?_)
      rintro call part ⟨values, places, hvalues, hplaces, hexpand⟩
      exact ⟨values, places, hvalues, hplaces, ih hexpand⟩
    | earlier hgate hd h => exact earlier d definitions gate parameters qubits _ hgate hd (ih h)

/-- What a call expands to are built-in gates on distinct qubits of the call. -/
theorem gates_of_expand {room : Nat} {definitions : List Definition} {gate : String}
    {parameters : List Float} {qubits : List Nat} {instructions : List (Instruction Float)}
    (h : expand room definitions gate parameters qubits = .ok instructions) :
    ∀ i ∈ instructions, ∃ g values places, i = .gate g values places ∧ places.Nodup ∧
      ∀ place ∈ places, place ∈ qubits := by
  refine expand_ok_induction ?builtIn ?latest ?earlier h
  case builtIn =>
    intro _ _ parameters qubits g hdistinct _
    rw [List.forall_mem_singleton]
    exact ⟨g, parameters, qubits, rfl, hdistinct, fun _ hq => hq⟩
  case latest =>
    intro _ d _ _ qubits parts hparts i hi
    obtain ⟨part, hpart, hi⟩ := List.mem_flatten.mp hi
    obtain ⟨call, -, values, places, -, hplaces, ih⟩ := exists_of_forall₂ hparts hpart
    obtain ⟨g, values, used, rfl, hused, hsub⟩ := ih i hi
    refine ⟨g, values, used, rfl, hused, fun q hq => ?_⟩
    obtain ⟨name, -, hname⟩ := exists_of_forall₂ hplaces (hsub q hq)
    exact lookUp?_mem hname
  case earlier => exact fun _ _ _ _ _ _ _ _ ih => ih

/-- A call expands to gates, so that it writes no classical bit. -/
theorem bits_of_expand {room : Nat} {definitions : List Definition} {gate : String}
    {parameters : List Float} {qubits : List Nat} {instructions : List (Instruction Float)}
    (h : expand room definitions gate parameters qubits = .ok instructions) :
    ∀ i ∈ instructions, i.bits = [] := by
  intro i hi
  obtain ⟨g, values, places, rfl, -⟩ := gates_of_expand h i hi
  rfl

theorem length_of_evaluateAll {env : Expression.Environment} {texts : List String} {room : Nat}
    {values : List Float} (h : evaluateAll env texts room = .ok values) :
    values.length = texts.length :=
  length_of_mapM h

/-- What a call expands to fits where the qubits of the call are in range. -/
theorem expand_fits {room : Nat} {definitions : List Definition} {gate : String}
    {parameters : List Float} {qubits : List Nat} {instructions : List (Instruction Float)}
    {width bits : Nat} (hsound : Sound definitions.reverse)
    (harity : arity? definitions.reverse gate = some (parameters.length, qubits.length))
    (hrange : ∀ q ∈ qubits, q < width)
    (h : expand room definitions gate parameters qubits = .ok instructions) :
    ∀ i ∈ instructions, i.FitsIn width bits := by
  revert hsound harity hrange
  refine expand_ok_induction ?builtIn ?latest ?earlier h
  case builtIn =>
    intro _ gate parameters qubits g hdistinct hgate _ harity hrange
    simp only [arity?, hgate, Option.some.injEq, Prod.mk.injEq] at harity
    simpa using .gate g parameters qubits harity.1.symm harity.2.symm hdistinct hrange
  case latest =>
    intro _ d earlier _ qubits parts hparts hsound _ hrange i hi
    obtain ⟨hearlier, hd⟩ := hsound.of_reverse_cons
    obtain ⟨part, hpart, hi⟩ := List.mem_flatten.mp hi
    obtain ⟨call, hcall, values, places, hvalues, hplaces, ih⟩ := exists_of_forall₂ hparts hpart
    have harity := checkArity_eq_ok (hd.arity call hcall)
    rw [← length_of_evaluateAll hvalues, hplaces.length_eq] at harity
    refine ih hearlier harity (fun place hplace => ?_) i hi
    obtain ⟨q, _, hq⟩ := exists_of_forall₂ hplaces hplace
    exact hrange place (lookUp?_mem hq)
  case earlier =>
    intro d earlier gate _ _ _ hgate hd ih hsound harity hrange
    refine ih hsound.of_reverse_cons.1 ?_ hrange
    simpa [arity?, hgate, List.find?_append, hd] using harity

end Statement

end CircuitConsole
