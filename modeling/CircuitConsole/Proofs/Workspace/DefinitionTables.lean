import CircuitConsole.Proofs.Console.Feeding
import CircuitConsole.Proofs.Workspace.DefinitionChains

/-!
The tables of definitions that workspaces have. Every definition is founded on those before it,
whether they come from the same text, from an earlier one, from a text that failed later on, or from
a tag that was gone back to. A call that passes the check of its numbers is therefore expanded, or
fails for a parameter, for a repeated qubit, or because too many calls are inside one another.
-/

namespace CircuitConsole

open Simulation Statement

/-- A definition whose name is not built in and whose calls go to built-in gates or to definitions
before it, with the right numbers of parameters and qubits, on qubits of its own. -/
structure Founded (earlier : List Definition) (x : Definition) : Prop where
  notBuiltIn : Gate.ofName? x.name = none
  new : ∀ y ∈ earlier, y.name ≠ x.name
  calls : ∀ call ∈ x.body,
    (∃ g, Gate.ofName? call.gate = some g ∧ call.expressions.length = g.parameterCount ∧
      call.qubits.length = g.qubitCount) ∨
    ∃ y ∈ earlier, y.name = call.gate ∧ call.expressions.length = y.parameters.length ∧
      call.qubits.length = y.qubits.length
  qubits : ∀ call ∈ x.body, ∀ q ∈ call.qubits, q ∈ x.qubits

/-- A table where every definition is founded on those before it, so that a call with the right
numbers is expanded or fails in a foreseen way: no gate and no qubit is missed, and no numbers turn
out wrong on the way. -/
structure Consistent (definitions : List Definition) : Prop where
  founded : ∀ earlier x later, definitions = earlier ++ x :: later → Founded earlier x
  expands : ∀ (room : Nat) (gate : String) (parameters : List Float) (qubits : List Nat),
    checkArity definitions gate parameters.length qubits.length = .ok () →
    (∃ instructions,
      expand room definitions.reverse gate parameters qubits = .ok instructions) ∨
    ∃ fault, expand room definitions.reverse gate parameters qubits = .error fault ∧
      Foreseen room (nestingDepth definitions.reverse gate) fault

namespace Statement

/-- Whatever has numbers is built in or defined. -/
theorem arity?_eq_some {definitions : List Definition} {gate : String} {p q : Nat}
    (h : arity? definitions gate = some (p, q)) :
    (∃ g, Gate.ofName? gate = some g ∧ p = g.parameterCount ∧ q = g.qubitCount) ∨
    ∃ y ∈ definitions, y.name = gate ∧ p = y.parameters.length ∧ q = y.qubits.length := by
  unfold arity? at h
  split at h
  · rename_i g hgate
    obtain ⟨rfl, rfl⟩ := Prod.mk.inj (Option.some.inj h)
    exact .inl ⟨g, hgate, rfl, rfl⟩
  · obtain ⟨y, hy, heq⟩ := Option.map_eq_some_iff.mp h
    obtain ⟨rfl, rfl⟩ := Prod.mk.inj heq
    exact .inr ⟨y, List.mem_of_find?_eq_some hy, by simpa using List.find?_some hy, rfl, rfl⟩

theorem Fits.founded {earlier : List Definition} {x : Definition} (h : Fits earlier x) :
    Founded earlier x where
  notBuiltIn := h.notBuiltIn
  new := h.new
  calls call hcall := arity?_eq_some (checkArity_eq_ok (h.arity call hcall))
  qubits := h.qubits

theorem Sound.consistent {definitions : List Definition} (h : Sound definitions) :
    Consistent definitions where
  founded _ _ _ hsplit := (h.fits hsplit).founded
  expands room gate parameters qubits harity := by
    cases hexpand : expand room definitions.reverse gate parameters qubits with
    | ok instructions => exact .inl ⟨instructions, rfl⟩
    | error fault =>
      rw [← definitions.reverse_reverse] at h harity
      exact .inr ⟨fault, rfl, expand_faults h (checkArity_eq_ok harity) hexpand⟩

end Statement

namespace Workspace

variable {draws : Draws Float} {w : Workspace}

/-- Statements lead to a sound table, also when one of them fails. -/
theorem Reachable.sound (hw : w.Reachable draws) (statements : List (List Char))
    (room : Capacity) : Sound (w.draft.statements statements room).1.definitions := by
  have hwell := hw.wellFormed
  have hdraft : w.draft.WellFormed :=
    ⟨hwell.tiledQuantum, hwell.tiledClassical, hwell.names, hwell.sound, by simp [draft],
      by simp [draft]⟩
  exact (Draft.wellFormed_of_changes hdraft (w.draft.statements_lead statements room)).sound

/-- Whatever has been done to an engine or a console, the tables are consistent, and so are those to
which statements of a text have led, whether it is still being read or has failed. -/
theorem definitions_consistent
    (hw : w.Reachable draws ∨ ∃ c : Console, c.Reachable draws ∧ w ∈ c.workspaces)
    (statements : List (List Char)) (room : Capacity) :
    Consistent w.definitions ∧ Consistent (w.draft.statements statements room).1.definitions := by
  have hreachable : w.Reachable draws := by
    rcases hw with hw | ⟨c, hc, hw⟩
    · exact hw
    · exact hc.workspaces w hw
  exact ⟨(hreachable.sound [] room).consistent, (hreachable.sound statements room).consistent⟩

/-- A definition of an earlier line, and one of a text that fails after it. -/
theorem definitions_of_failing_text :
    let s : Console.Setting := ⟨fun _ => .error .missing, fun _ => 0⟩
    let p := (Console.Prompt.start.feed s "gate g(a) b \x7brx(a) b;\x7d".toList).1
    let w := p.console.workspace
    let d := w.draft.statements
      ["gate h2 c,d \x7bg(1) d; cx c,d;\x7d".toList, "h2 c;".toList] .usual
    (d.1.definitions.length = 2 ∧ d.2.isSome = true) ∧
      Consistent w.definitions ∧ Consistent d.1.definitions := by
  intro s p w d
  have hp : p.Reachable s.draws := .feed s rfl _ .start
  exact ⟨by decide +kernel,
    definitions_consistent (.inr ⟨p.console, hp.console, Console.workspace_mem _⟩) _ _⟩

/-- Definitions that are nested deep enough: a call with the right numbers and distinct qubits, which
has no parameters, fails all the same. -/
theorem long_chain_fails :
    ¬ ∀ w : Workspace, w.Reachable (fun _ => 0) →
      ∀ (gate : String) (parameters : List Float) (qubits : List Nat)
        (fault : Statement.Fault),
        checkArity w.definitions gate parameters.length qubits.length = .ok () →
        expand (Capacity.usual.calls - 3) w.definitions.reverse gate parameters qubits =
          .error fault →
        (∃ e, fault = .expression e) ∨ ∃ g, fault = .repeatedQubit g := by
  intro h
  have hlimit : Capacity.usual.calls - 3 < 1000 := by decide
  obtain ⟨w, hw, hchain⟩ := Chain.reachable_chain (fun _ => 0) hlimit.le
  have harity := Chain.checkArity_chain hlimit.le
  have hfails := Chain.expand_chain hlimit le_rfl 0
  rw [← hchain] at harity hfails
  rcases h w hw _ [] [0] _ harity hfails with ⟨e, he⟩ | ⟨g, hg⟩
  · cases he
  · cases hg

end Workspace

end CircuitConsole
