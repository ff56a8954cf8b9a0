import CircuitConsole.Proofs.Statement.Drafts
import CircuitConsole.Proofs.Statement.Expansion
import Mathlib.Logic.Relation

/-!
What a statement can do to a draft. It declares a register, adds a definition, or queues
instructions under one condition; nothing is taken away and no two of these happen at once. The
instructions come from a measurement, a reset or a call, whose arguments have been resolved in the
draft as it was.
-/

namespace CircuitConsole.Statement

def Reads (table : RegisterTable) (c : Condition) : Prop :=
  ∃ r ∈ table, c.register = r.name ∧ c.offset = r.offset ∧ c.size = r.size

inductive Queued (d : Draft) : List (Instruction Float) → Prop
  | barrier : Queued d []
  | measurement (room : Capacity) (source target : List Char) (qubits bits : Span)
      (hqubits : resolve d.quantum .quantum source room = .ok qubits)
      (hbits : resolve d.classical .classical target room = .ok bits)
      (hsize : qubits.size = bits.size) :
      Queued d (qubits.toList.zipWith .measure bits.toList)
  | reset (room : Capacity) (target : List Char) (qubits : Span)
      (hqubits : resolve d.quantum .quantum target room = .ok qubits) :
      Queued d (qubits.toList.map .reset)
  | call (room : Capacity) (form : CallForm) (parameters : List Float) (spans : List Span)
      (rounds : List (List Nat)) (instructions : List (List (Instruction Float)))
      (harity : checkArity d.definitions (String.ofList form.gate)
        ((commaParts form.parameters).map String.ofList).length
        (commaParts form.qubits).length = .ok ())
      (hparameters : evaluateAll [] ((commaParts form.parameters).map String.ofList)
        (room.calls - 2) = .ok parameters)
      (hspans : (commaParts form.qubits).mapM (resolve d.quantum .quantum · room) = .ok spans)
      (hrounds : broadcast spans = .ok rounds)
      (hexpand : rounds.mapM (expand (room.calls - 1) d.definitions.reverse
        (String.ofList form.gate) parameters) = .ok instructions) :
      Queued d instructions.flatten

/-- A definition that is accepted: its formal names are identifiers, it has a qubit, and its body is
on its qubits. -/
structure Accepted (form : DefinitionForm) (x : Definition) : Prop where
  name : x.name = String.ofList form.name
  identifiers : ∀ name ∈ x.parameters ++ x.qubits, Text.isIdentifier name.toList = true
  qubits : x.qubits ≠ []
  body : ∀ call ∈ x.body, ∀ q ∈ call.qubits, q ∈ x.qubits

namespace Draft

def withRegister (d : Draft) (kind : RegisterKind) (name : String) (size : Nat) : Draft :=
  match kind with
  | .quantum => { d with quantum := d.quantum.declare name size, declared := true }
  | .classical => { d with classical := d.classical.declare name size, declared := true }

inductive Change (d : Draft) : Draft → Prop
  | nothing : Change d d
  | register (kind : RegisterKind) (name : String) (size : Nat)
      (hquantum : d.quantum.contains name = false)
      (hclassical : d.classical.contains name = false) (hsize : 1 ≤ size) :
      Change d (d.withRegister kind name size)
  | definition (x : Definition) (hfits : Fits d.definitions x) :
      Change d { d with definitions := d.definitions ++ [x] }
  | operations (condition : Option Condition) (instructions : List (Instruction Float))
      (hcondition : ∀ c ∈ condition, Reads d.classical c) (hqueued : Queued d instructions) :
      Change d (d.enqueue condition instructions)

theorem declare_eq_ok {d d' : Draft} {kind : RegisterKind} {name : String} {size : Nat}
    (h : d.declare kind name size = .ok d') :
    d.quantum.contains name = false ∧ d.classical.contains name = false ∧ 1 ≤ size ∧
      d' = d.withRegister kind name size := by
  unfold declare at h
  split at h
  · contradiction
  · rename_i hnames
    simp only [Bool.or_eq_true, not_or, Bool.not_eq_true] at hnames
    split at h
    · contradiction
    · have hsize : 1 ≤ size := by omega
      refine ⟨hnames.1, hnames.2, hsize, ?_⟩
      cases kind <;> exact (Except.ok.inj h).symm

theorem declare_change {d d' : Draft} {kind : RegisterKind} {name : String} {size : Nat}
    (h : d.declare kind name size = .ok d') : Change d d' := by
  obtain ⟨hquantum, hclassical, hsize, rfl⟩ := declare_eq_ok h
  exact .register kind name size hquantum hclassical hsize

@[simp] theorem withRegister_definitions (d : Draft) (kind : RegisterKind) (name : String)
    (size : Nat) : (d.withRegister kind name size).definitions = d.definitions := by
  cases kind <;> rfl

@[simp] theorem withRegister_queue (d : Draft) (kind : RegisterKind) (name : String) (size : Nat) :
    (d.withRegister kind name size).queue = d.queue := by
  cases kind <;> rfl

theorem bodyCall_ok {d : Draft} {gate : String} {qubits : List String} {s : List Char}
    {call : Call} (h : d.bodyCall gate qubits s = .ok (some call)) :
    checkArity d.definitions call.gate call.expressions.length call.qubits.length = .ok () ∧
      ∀ q ∈ call.qubits, q ∈ qubits := by
  unfold bodyCall at h
  split at h
  · simp at h
  · split at h
    · contradiction
    · rename_i form _
      obtain ⟨_, harity, h⟩ := bind_eq_ok.mp h
      split at h
      · contradiction
      · rename_i hnone
        obtain rfl := Option.some.inj (Except.ok.inj h)
        refine ⟨harity, fun q hq => ?_⟩
        simpa using List.find?_eq_none.mp hnone q hq

/-- A definition that succeeds adds one to the table, which fits to those before it. -/
theorem define_adds {d d' : Draft} {form : DefinitionForm} (h : d.define form = .ok d') :
    ∃ x, d' = { d with definitions := d.definitions ++ [x] } ∧ Fits d.definitions x ∧
      Accepted form x := by
  unfold define at h
  dsimp only at h
  split at h
  · exact absurd h throw_bind_ne_ok
  · rename_i hname
    simp only [Bool.or_eq_true, Option.isSome_iff_ne_none, List.any_eq_true, decide_eq_true_eq,
      not_or, not_not, not_exists, not_and] at hname
    split at h
    · exact absurd h throw_bind_ne_ok
    · rename_i hidentifiers
      split at h
      · exact absurd h throw_bind_ne_ok
      · rename_i hqubits
        obtain ⟨statements, _, h⟩ := bind_eq_ok.mp h
        obtain ⟨body, hbody, h⟩ := bind_eq_ok.mp h
        have hcalls : ∀ call ∈ body.filterMap (fun call => call), ∃ s ∈ statements,
            d.bodyCall (String.ofList form.name)
              ((commaParts (Text.trim form.qubits)).map String.ofList) s = .ok (some call) := by
          intro call hcall
          obtain ⟨found, hfound, rfl⟩ := List.mem_filterMap.mp hcall
          exact exists_of_mem_mapM hbody hfound
        have hon : ∀ call ∈ body.filterMap (fun call => call), ∀ q ∈ call.qubits,
            q ∈ (commaParts (Text.trim form.qubits)).map String.ofList := by
          intro call hcall
          obtain ⟨s, _, hs⟩ := hcalls call hcall
          exact (bodyCall_ok hs).2
        refine ⟨_, (Except.ok.inj h).symm, ⟨hname.1, hname.2, fun call hcall => ?_, hon⟩,
          ⟨rfl, fun name hname => ?_, by simpa using hqubits, hon⟩⟩
        · obtain ⟨s, _, hs⟩ := hcalls call hcall
          exact (bodyCall_ok hs).1
        · rw [← List.map_append] at hname
          obtain ⟨letters, hletters, rfl⟩ := List.mem_map.mp hname
          rw [String.toList_ofList]
          simpa using List.find?_eq_none.mp hidentifiers letters hletters

theorem define_change {d d' : Draft} {form : DefinitionForm} (h : d.define form = .ok d') :
    Change d d' := by
  obtain ⟨x, rfl, hfits, -⟩ := define_adds h
  exact .definition x hfits

/-- An operation queues its instructions under the condition; only a measurement writes bits. -/
theorem operation_queued {d d' : Draft} {condition : Option Condition} {s : List Char}
    {room : Capacity}
    (h : d.operation condition s room = .ok d') :
    ∃ instructions, Queued d instructions ∧ d' = d.enqueue condition instructions ∧
      (measurement? s = none → ∀ i ∈ instructions, i.bits = []) := by
  cases operation_reading s with
  | measurement source target hmeasurement =>
    rw [operation_measurement hmeasurement] at h
    obtain ⟨qubits, hqubits, h⟩ := bind_eq_ok.mp h
    obtain ⟨bits, hbits, h⟩ := bind_eq_ok.mp h
    split at h
    · contradiction
    · rename_i hsize
      exact ⟨_, .measurement room source target qubits bits hqubits hbits (not_not.mp hsize),
        (Except.ok.inj h).symm, by simp [hmeasurement]⟩
  | reset target hmeasurement hreset =>
    rw [operation_reset hmeasurement hreset] at h
    obtain ⟨qubits, hqubits, rfl⟩ := map_eq_ok.mp h
    exact ⟨_, .reset room target qubits hqubits, rfl, by simp [Instruction.bits]⟩
  | barrier arguments hmeasurement hreset hbarrier =>
    rw [operation_barrier hmeasurement hreset hbarrier] at h
    obtain ⟨_, _, rfl⟩ := map_eq_ok.mp h
    exact ⟨[], .barrier, (d.enqueue_nil condition).symm, by simp⟩
  | call form hcall hqubits =>
    rw [hcall.operation_eq hqubits] at h
    unfold call at h
    obtain ⟨_, harity, h⟩ := bind_eq_ok.mp h
    obtain ⟨parameters, hparameters, h⟩ := bind_eq_ok.mp h
    obtain ⟨spans, hspans, h⟩ := bind_eq_ok.mp h
    obtain ⟨rounds, hrounds, h⟩ := bind_eq_ok.mp h
    obtain ⟨instructions, hexpand, h⟩ := bind_eq_ok.mp h
    refine ⟨_, .call room form parameters spans rounds instructions harity hparameters hspans
      hrounds hexpand, (Except.ok.inj h).symm, fun _ i hi => ?_⟩
    obtain ⟨part, hpart, hi⟩ := List.mem_flatten.mp hi
    obtain ⟨_, _, hround⟩ := exists_of_mem_mapM hexpand hpart
    exact bits_of_expand hround i hi
  | nothing hnothing =>
    rw [hnothing] at h
    contradiction

theorem find?_reads {table : RegisterTable} {name : String} {r : Register}
    (h : table.find? name = some r) (value : Nat) :
    Reads table ⟨r.name, r.offset, r.size, value⟩ :=
  ⟨r, List.mem_of_find?_eq_some h, rfl, rfl, rfl⟩

/-- A conditional statement queues its instructions under one condition, on a register that there
is. -/
theorem conditional_queued {d d' : Draft} {s register value text : List Char} {room : Capacity}
    (hform : Form.of s = .conditional register value text) (h : d.statement s room = .ok d') :
    ∃ c instructions, Reads d.classical c ∧ c.register = String.ofList register ∧
      readNumber value = .ok c.value ∧ Queued d instructions ∧
      d' = d.enqueue (some c) instructions ∧
      (measurement? text = none → ∀ i ∈ instructions, i.bits = []) := by
  rw [statement_conditional hform] at h
  obtain ⟨condition, hguard, h⟩ := bind_eq_ok.mp h
  obtain ⟨r, number, hr, hnumber, rfl⟩ := guard_eq_ok hguard
  obtain ⟨instructions, hqueued, hd', hbits⟩ := operation_queued h
  have hname : r.name = String.ofList register := by simpa using List.find?_some hr
  exact ⟨_, instructions, find?_reads hr number, hname, hnumber, hqueued, hd', hbits⟩

/-- A statement that succeeds makes one of the changes. -/
theorem statement_change {d d' : Draft} {s : List Char} {room : Capacity}
    (h : d.statement s room = .ok d') : Change d d' := by
  cases hform : Form.of s with
  | ignored =>
    rw [statement_ignored hform] at h
    obtain rfl := Except.ok.inj h
    exact .nothing
  | declaration kind name size =>
    rw [statement_declaration hform] at h
    obtain ⟨size, _, h⟩ := bind_eq_ok.mp h
    exact declare_change h
  | definition form => exact define_change (statement_definition hform d ▸ h)
  | conditional register value text =>
    obtain ⟨c, instructions, hreads, _, _, hqueued, rfl, _⟩ := conditional_queued hform h
    refine .operations _ _ ?_ hqueued
    rintro c ⟨⟩
    exact hreads
  | operation text =>
    rw [statement_operation hform] at h
    obtain ⟨instructions, hqueued, rfl, _⟩ := operation_queued h
    exact .operations none _ (by simp) hqueued

/-- Statements make changes one after the other, up to the first that fails. -/
theorem statements_lead (d : Draft) (texts : List (List Char)) (room : Capacity) :
    Relation.ReflTransGen Change d (d.statements texts room).1 :=
  statements_keep .refl fun _ _ _ _ hlead hs => hlead.tail (statement_change hs)

theorem statements_changes {d d' : Draft} {texts : List (List Char)} {room : Capacity}
    (h : d.statements texts room = (d', none)) : Relation.ReflTransGen Change d d' := by
  have hlead := d.statements_lead texts room
  rwa [h] at hlead

end Draft

end CircuitConsole.Statement
