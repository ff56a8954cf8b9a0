import CircuitConsole.Proofs.Expression.Room
import CircuitConsole.Proofs.Statement.Expansion
import CircuitConsole.Proofs.Statement.References
import CircuitConsole.Workspace.State
import Mathlib.Order.Basic

/-!
Room for the calls that reading a text takes. Where more calls can be opened, a text does what it
did before, unless it failed for want of room: an expression or definitions were nested too deep.
-/

namespace CircuitConsole

namespace Capacity

instance : Preorder Capacity where
  le room room' := room.row = room'.row ∧ room.calls ≤ room'.calls
  le_refl room := ⟨rfl, Nat.le_refl _⟩
  le_trans _ _ _ h h' := ⟨h.1.trans h'.1, Nat.le_trans h.2 h'.2⟩

variable {room room' : Capacity}

theorem inside_mono (h : room ≤ room') (calls : Nat) : room.inside calls ≤ room'.inside calls :=
  ⟨h.1, Nat.sub_le_sub_right h.2 calls⟩

theorem inside_le_inside (room : Capacity) {j k : Nat} (h : j ≤ k) :
    room.inside k ≤ room.inside j :=
  ⟨rfl, Nat.sub_le_sub_left h _⟩

theorem le_of_le_inside {least : Capacity} {j k : Nat} (h : least ≤ room.inside k) (hle : j ≤ k) :
    least ≤ room.inside j :=
  h.trans (room.inside_le_inside hle)

theorem inside_le (room : Capacity) (calls : Nat) : room.inside calls ≤ room :=
  ⟨rfl, Nat.sub_le _ _⟩

theorem inside_inside (room : Capacity) (j k : Nat) :
    (room.inside j).inside k = room.inside (j + k) :=
  congrArg (Capacity.mk room.row · room.row_lt) (Nat.sub_sub room.calls j k)

theorem le_inside {least : Capacity} (j : Nat) {k : Nat} (h : least ≤ room.inside (k + j)) :
    least ≤ (room.inside j).inside k := by
  rwa [inside_inside, Nat.add_comm]

@[reducible]
def noCalls (room : Capacity) : Capacity := { room with calls := 0 }

theorem noCalls_le (room : Capacity) (calls : Nat) : room.noCalls ≤ room.inside calls :=
  ⟨rfl, Nat.zero_le _⟩

/-- Where there is less room, some calls have been opened. -/
theorem exists_inside (h : room ≤ room') : ∃ calls, room = room'.inside calls := by
  obtain ⟨row, calls, hrow⟩ := room
  obtain ⟨rfl, hcalls⟩ := h
  refine ⟨room'.calls - calls, ?_⟩
  change _ = Capacity.mk room'.row (room'.calls - (room'.calls - calls)) _
  congr 1
  exact (Nat.sub_sub_self hcalls).symm

end Capacity

namespace Statement

variable {α β : Type}

def Fault.isCramped : Fault → Bool
  | .expression .tooDeep | .overload .nesting => true
  | _ => false

/-- One computation does what another does, unless that fails for want of room. -/
def Covers (x' x : Except Fault α) : Prop :=
  (∃ fault, x = .error fault ∧ fault.isCramped = true) ∨ x' = x

namespace Covers

theorem refl (x : Except Fault α) : Covers x x := .inr rfl

theorem cramped {x : Except Fault α} {fault : Fault} (h : fault.isCramped = true) :
    Covers x (.error fault) := .inl ⟨fault, rfl, h⟩

theorem bind {x' x : Except Fault α} {f' f : α → Except Fault β} (hx : Covers x' x)
    (hf : ∀ a, Covers (f' a) (f a)) : Covers (x' >>= f') (x >>= f) := by
  rcases hx with ⟨fault, rfl, hfault⟩ | rfl
  · exact cramped hfault
  · cases x' with
    | error fault => exact refl _
    | ok a => exact hf a

theorem map {x' x : Except Fault α} (f : α → β) (h : Covers x' x) :
    Covers (x'.map f) (x.map f) := by
  rcases h with ⟨fault, rfl, hfault⟩ | rfl
  · exact cramped hfault
  · exact refl _

theorem mapM {f' f : α → Except Fault β} {xs : List α} (h : ∀ a ∈ xs, Covers (f' a) (f a)) :
    Covers (xs.mapM f') (xs.mapM f) := by
  induction xs with
  | nil => exact refl _
  | cons a xs ih =>
    obtain ⟨ha, hxs⟩ := List.forall_mem_cons.mp h
    rw [List.mapM_cons, List.mapM_cons]
    exact ha.bind fun b => (ih hxs).bind fun bs => refl _

/-- What has not failed for want of room is done in the same way. -/
theorem eq_of_not_cramped {x' x : Except Fault α} (h : Covers x' x)
    (hx : ∀ fault, x = .error fault → fault.isCramped = false) : x' = x := by
  rcases h with ⟨fault, hfault, hcramped⟩ | h
  · rw [hx fault hfault] at hcramped
    cases hcramped
  · exact h

end Covers

section Calls

theorem evaluateAll_covers {calls calls' : Nat} (h : calls ≤ calls')
    (env : Expression.Environment) (texts : List String) :
    Covers (evaluateAll env texts calls') (evaluateAll env texts calls) := by
  refine .mapM fun text _ => ?_
  by_cases hnone : calls = 0
  · rw [if_pos hnone]
    exact .cramped rfl
  · rw [if_neg hnone, if_neg (by omega)]
    by_cases hdeep : Expression.evaluate env text.toList calls = .error .tooDeep
    · rw [hdeep]
      exact .cramped rfl
    · rw [Expression.evaluate_more h hdeep]
      exact .refl _

theorem bodyPart_covers {calls calls' : Nat} (h : calls ≤ calls') {earlier : List Definition}
    (hexpand : ∀ (call : Call) values places, Covers
      (expand calls' earlier call.gate values places)
      (expand calls earlier call.gate values places))
    (d : Definition) (parameters : List Float) (qubits : List Nat) (call : Call) :
    Covers (bodyPart calls' earlier d parameters qubits call)
      (bodyPart calls earlier d parameters qubits call) :=
  (evaluateAll_covers (Nat.sub_le_sub_right h 1) _ _).bind fun values =>
    (Covers.refl _).bind fun places => hexpand call values places

theorem expand_covers {calls calls' : Nat} (h : calls ≤ calls') (definitions : List Definition)
    (gate : String) (parameters : List Float) (qubits : List Nat) :
    Covers (expand calls' definitions gate parameters qubits)
      (expand calls definitions gate parameters qubits) := by
  induction calls, definitions, gate, parameters, qubits using expand_induction
    generalizing calls' with
  | noRoom =>
    rw [expand_noRoom]
    exact .cramped rfl
  | repeated calls definitions gate parameters qubits hqubits =>
    obtain ⟨calls', rfl⟩ := Nat.exists_eq_add_of_le' (Nat.le_trans (Nat.le_add_left 1 _) h)
    rw [expand_repeated hqubits, expand_repeated hqubits]
    exact .refl _
  | cramped calls definitions gate parameters qubits g hqubits hgate hroom =>
    rw [expand_cramped hqubits hgate hroom]
    exact .cramped rfl
  | builtIn calls definitions gate parameters qubits g hqubits hgate hroom =>
    obtain ⟨calls', rfl⟩ := Nat.exists_eq_add_of_le' (Nat.le_trans (Nat.le_add_left 1 _) h)
    rw [expand_builtIn hqubits hgate hroom, expand_builtIn hqubits hgate (by omega)]
    exact .refl _
  | unknown calls gate parameters qubits hqubits hgate =>
    obtain ⟨calls', rfl⟩ := Nat.exists_eq_add_of_le' (Nat.le_trans (Nat.le_add_left 1 _) h)
    rw [expand_unknown hqubits hgate, expand_unknown hqubits hgate]
    exact .refl _
  | latest calls d earlier parameters qubits hqubits hgate ih =>
    obtain ⟨calls', rfl⟩ := Nat.exists_eq_add_of_le' (Nat.le_trans (Nat.le_add_left 1 _) h)
    have hcalls := Nat.le_of_add_le_add_right h
    rw [expand_latest hqubits hgate, expand_latest hqubits hgate]
    exact .map _ (.mapM fun call _ => bodyPart_covers hcalls
      (fun call values places => ih call values places hcalls) d parameters qubits call)
  | earlier calls d earlier gate parameters qubits hqubits hgate hd ih =>
    rw [expand_earlier hd, expand_earlier hd]
    exact ih h

end Calls

namespace Draft

variable {room room' : Capacity} (h : room ≤ room')

include h

theorem call_covers (d : Draft) (condition : Option Condition) (form : CallForm) :
    Covers (d.call condition form room') (d.call condition form room) := by
  obtain ⟨calls, rfl⟩ := Capacity.exists_inside h
  refine (Covers.refl _).bind fun _ => ?_
  refine (evaluateAll_covers (Nat.sub_le_sub_right h.2 2) _ _).bind fun parameters => ?_
  refine (Covers.refl _).bind fun spans => (Covers.refl _).bind fun rounds => ?_
  refine Covers.bind (.mapM fun qubits _ => ?_) fun instructions => .refl _
  exact expand_covers (Nat.sub_le_sub_right h.2 1) _ _ _ _

theorem operation_covers (d : Draft) (condition : Option Condition) (s : List Char) :
    Covers (d.operation condition s room') (d.operation condition s room) := by
  have hcall := call_covers h d condition
  obtain ⟨calls, rfl⟩ := Capacity.exists_inside h
  unfold operation
  split
  · exact .refl _
  · split
    · exact .refl _
    · split
      · exact .refl _
      · split
        · split
          · exact .refl _
          · exact hcall _
        · exact .refl _

theorem statement_covers (d : Draft) (s : List Char) :
    Covers (d.statement s room') (d.statement s room) := by
  have hoperation := operation_covers (Capacity.inside_mono h 1) d
  unfold statement
  split
  · exact .refl _
  · exact .refl _
  · exact .refl _
  · split
    · exact .refl _
    · exact (Covers.refl _).bind fun value => hoperation _ _
  · exact hoperation _ _

/-- Statements are worked in as before, unless one of them failed for want of room. -/
theorem statements_more {texts : List (List Char)} {d : Draft}
    (hfault : ∀ fault, (d.statements texts room).2 = some fault → fault.isCramped = false) :
    d.statements texts room' = d.statements texts room := by
  induction texts generalizing d with
  | nil => rfl
  | cons s texts ih =>
    have hcovers := statement_covers (Capacity.inside_mono h 1) d s
    rw [statements_cons] at hfault ⊢
    rw [statements_cons]
    cases hstatement : d.statement s (room.inside 1) with
    | error fault =>
      rw [hstatement] at hcovers hfault
      rw [hcovers.eq_of_not_cramped fun _ hf => Except.error.inj hf ▸ hfault fault rfl]
    | ok e =>
      rw [hstatement] at hcovers hfault
      rw [hcovers.eq_of_not_cramped fun _ hf => by cases hf]
      exact ih hfault

end Draft

end Statement

/-- A text is accepted as before where there is more room, or refused as before, unless it was
refused for want of room. -/
theorem Workspace.accept_more {room room' : Capacity} (h : room ≤ room') {w : Workspace}
    {text : List Char}
    (hfault : ∀ fault, (w.accept text room).result = .error fault → fault.isCramped = false) :
    w.accept text room' = w.accept text room := by
  unfold accept at hfault ⊢
  split
  · rfl
  · rename_i statements hsplit
    simp only [hsplit] at hfault
    rw [Statement.Draft.statements_more h]
    intro fault hstatements
    rw [hstatements] at hfault
    exact hfault fault rfl

end CircuitConsole
