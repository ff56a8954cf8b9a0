import CircuitConsole.Proofs.Statement.CondensedStatements
import CircuitConsole.Workspace.State

/-!
Circuit texts and their layout. Two texts that differ only in layout are both accepted or both
refused, add the same registers and operations, and define gates of the same meaning, so that no
later text tells one from the other; as long as no expression in the body of a gate is broken over
lines. A call in a text by itself may be broken anywhere, but a body keeps its line ends until it is
evaluated, and there a line end outside brackets ends an expression.
-/

namespace CircuitConsole

open Text Statement Expression

namespace Workspace

variable {w w' : Workspace} {t t' : List Char} {room : Capacity}

def meaning (w : Workspace) : Workspace × List Definition.Meaning :=
  ({ w with definitions := [] }, w.definitions.map Definition.meaning)

def accepted (w : Workspace) (text : List Char) (room : Capacity) : Option Workspace :=
  (w.accept text room).result.toOption

theorem accepted_eq (w : Workspace) (text : List Char) (room : Capacity) :
    w.accepted text room = (split text).toOption.bind fun statements =>
      (w.draft.worked statements room).map w.commit := by
  unfold accepted accept Draft.worked
  cases split text with
  | error fault => rfl
  | ok statements =>
    dsimp only [Except.toOption, Option.bind_some]
    rcases w.draft.statements statements room with ⟨d, _ | fault⟩ <;> rfl

theorem meaning_eq (h : w.meaning = w'.meaning) :
    w' = { w with definitions := w'.definitions } ∧
      w.definitions.map Definition.meaning = w'.definitions.map Definition.meaning := by
  obtain ⟨quantum, classical, definitions, queue, executed, dirty, amplitudes, bits⟩ := w
  obtain ⟨hrest, hdefinitions⟩ := Prod.mk.inj h
  cases hrest
  exact ⟨rfl, hdefinitions⟩

theorem draft_congr (h : w.meaning = w'.meaning) : w.draft.meaning = w'.draft.meaning := by
  obtain ⟨hw', hdefinitions⟩ := meaning_eq h
  rw [hw']
  exact Prod.ext rfl hdefinitions

theorem commit_congr (h : w.meaning = w'.meaning) {d d' : Draft} (hd : d.meaning = d'.meaning) :
    (w.commit d).meaning = (w'.commit d').meaning := by
  obtain ⟨hw', -⟩ := meaning_eq h
  obtain ⟨hd', hdefinitions⟩ := Draft.meaning_eq hd
  rw [hw', hd']
  exact Prod.ext rfl hdefinitions

/-- Workspaces of the same meaning take the same from texts whose statements mean the same. -/
theorem accepted_congr {f : List Char → List Char} (h : w.meaning = w'.meaning)
    (hsplit : split t = (split t').map (List.map f))
    (hf : ∀ statements, split t' = .ok statements → ∀ s ∈ statements,
      ∀ (d : Draft) (room : Capacity),
        Draft.outcome (d.statement (f s) room) = Draft.outcome (d.statement s room)) :
    (w.accepted t room).map meaning = (w'.accepted t' room).map meaning := by
  rw [accepted_eq, accepted_eq, hsplit]
  cases hstatements : split t' with
  | error fault => rfl
  | ok statements =>
    have hworked := Draft.worked_congr room (hf statements hstatements) (draft_congr h)
    dsimp only [Except.map, Except.toOption, Option.bind_some]
    cases hd' : w'.draft.worked statements room with
    | none =>
      rw [hd', Option.map_none, Option.map_eq_none_iff] at hworked
      rw [hworked]
      rfl
    | some d' =>
      rw [hd', Option.map_some, Option.map_eq_some_iff] at hworked
      obtain ⟨d, hd, hmeaning⟩ := hworked
      rw [hd]
      exact congrArg some (commit_congr h hmeaning)

/-- What comes of texts one after the other: the workspace with all that each adds, its definitions
left out, or nothing, where a text is not accepted and the workspace stays as it was. -/
def answers (w : Workspace) (texts : List (List Char)) (room : Capacity) :
    List (Option Workspace) :=
  match texts with
  | [] => []
  | text :: texts =>
    match w.accepted text room with
    | some w' => some { w' with definitions := [] } :: w'.answers texts room
    | none => none :: w.answers texts room

def keptExpressions (text : List Char) : List (List Char) :=
  match split text with
  | .ok statements => statements.flatMap Statement.keptExpressions
  | .error _ => []

theorem accepted_same (h : w.meaning = w'.meaning) (text : List Char) (room : Capacity) :
    (w.accepted text room).map meaning = (w'.accepted text room).map meaning := by
  refine accepted_congr (f := id) h ?_ fun _ _ _ _ _ _ => rfl
  cases split text <;> simp [Except.map]

theorem answers_cons_congr {texts : List (List Char)} (h : w.meaning = w'.meaning)
    (haccepted : (w.accepted t room).map meaning = (w'.accepted t' room).map meaning)
    (htexts : ∀ {v v' : Workspace}, v.meaning = v'.meaning →
      v.answers texts room = v'.answers texts room) :
    w.answers (t :: texts) room = w'.answers (t' :: texts) room := by
  unfold answers
  cases hv' : w'.accepted t' room with
  | none =>
    rw [hv', Option.map_none, Option.map_eq_none_iff] at haccepted
    rw [haccepted]
    exact congrArg _ (htexts h)
  | some v' =>
    rw [hv', Option.map_some, Option.map_eq_some_iff] at haccepted
    obtain ⟨v, hv, hmeaning⟩ := haccepted
    rw [hv]
    exact congrArg₂ _ (congrArg (some ·.1) hmeaning) (htexts hmeaning)

/-- What a workspace answers depends on the meaning of its definitions only. -/
theorem answers_congr (h : w.meaning = w'.meaning) (texts : List (List Char))
    (room : Capacity) :
    w.answers texts room = w'.answers texts room := by
  induction texts generalizing w w' with
  | nil => rfl
  | cons text texts ih => exact answers_cons_congr h (accepted_same h text room) ih

theorem accepted_condense (w : Workspace) (room : Capacity) (h : Uncommented t)
    (ht : ∀ e ∈ keptExpressions t, Unbroken e) :
    (w.accepted (condense t) room).map meaning = (w.accepted t room).map meaning := by
  refine accepted_congr rfl (split_condense h) fun statements hstatements s hs d room => ?_
  refine d.statement_condense (split_endsBlock hstatements s hs)
    (h.part (infix_of_split h hstatements s hs)) (fun e he => ht e ?_) room
  unfold keptExpressions
  rw [hstatements]
  exact List.mem_flatMap.mpr ⟨s, hs, he⟩

/-- Two texts that differ only in layout have the same effect, and so has every later text: whether
each is accepted, and all registers and operations. -/
theorem answers_of_condense_eq (w : Workspace) (room : Capacity)
    (hlayout : condense t = condense t') (h : Uncommented t)
    (ht : ∀ e ∈ keptExpressions t, Unbroken e)
    (ht' : ∀ e ∈ keptExpressions t', Unbroken e) (later : List (List Char)) :
    w.answers (t :: later) room = w.answers (t' :: later) room := by
  have h' : Uncommented t' := uncommented_condense.mp (hlayout ▸ uncommented_condense.mpr h)
  have hsame : (w.accepted t room).map meaning = (w.accepted t' room).map meaning := by
    rw [← w.accepted_condense room h ht, hlayout, w.accepted_condense room h' ht']
  exact answers_cons_congr rfl hsame fun hmeaning => answers_congr hmeaning later room

/-- A definition written over several lines, with a line end inside brackets, and in one line. -/
theorem gate_over_lines :
    let t := "gate g(a) b\t\x7b\n  rx(a/2) b;\n\trz((a\n + 1)*2) b;\n\x7d\nqreg q[1];".toList
    let t' := "gate g(a) b \x7b rx(a/2) b; rz((a + 1)*2) b; \x7d qreg q[1];".toList
    let later := ["g(pi/2) q[0];".toList]
    (empty.answers (t :: later) .usual).map Option.isSome = [true, true] ∧
      empty.answers (t :: later) .usual = empty.answers (t' :: later) .usual :=
  ⟨by decide +kernel, answers_of_condense_eq empty .usual (by decide +kernel) (by decide +kernel)
    (by decide +kernel) (by decide +kernel) _⟩

/-- A line end between the operands of a sum is accepted in a body, and then no call is, though
there is no comment and no quote; with a space in its place the call is accepted. -/
theorem line_end_in_body :
    let t := "qreg q[1]; gate g(a) b \x7b rx(a\n+1) b; \x7d".toList
    let t' := "qreg q[1]; gate g(a) b \x7b rx(a +1) b; \x7d".toList
    let later := ["g(1) q[0];".toList]
    condense t = condense t' ∧ Uncommented t ∧ ('#' ∉ t ∧ '\'' ∉ t ∧ '"' ∉ t) ∧
      (empty.answers (t :: later) .usual).map Option.isSome = [true, false] ∧
      (empty.answers (t' :: later) .usual).map Option.isSome = [true, true] ∧
      empty.answers (t :: later) .usual ≠ empty.answers (t' :: later) .usual := by
  intro t t' later
  have hbroken : (empty.answers (t :: later) .usual).map Option.isSome = [true, false] := by
    decide +kernel
  have hwhole : (empty.answers (t' :: later) .usual).map Option.isSome = [true, true] := by
    decide +kernel
  refine ⟨by decide +kernel, by decide +kernel, by decide +kernel, hbroken, hwhole, fun h => ?_⟩
  rw [h, hwhole] at hbroken
  cases hbroken

end Workspace

end CircuitConsole
