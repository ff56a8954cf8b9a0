import CircuitConsole.Proofs.Console.Workspaces

/-!
Events are never taken back: each action of a console puts new ones in front of those there are.
The number of events of some kind therefore never falls, and where it is the same after a row of
actions, none of them has added such an event.
-/

namespace CircuitConsole.Console

open Simulation

def tally (kind : Event → Bool) (c : Console) : Nat := c.events.countP kind

def Event.isCapped : Event → Bool
  | .report _ (.tooDeep _) => true
  | _ => false

section Events

theorem accept_events (room : Capacity) (text : List Char) (c : Console) :
    c.events <:+ (c.accept room text).console.events := by
  unfold accept
  simp only [foldl_defined]
  cases (c.workspace.accept text room).result with
  | error fault => exact List.suffix_append _ _
  | ok w => exact (List.suffix_append _ _).trans (List.suffix_cons _ _)

theorem go_events (s : Setting) (c : Console) : c.events <:+ (c.go s).console.events := by
  unfold go
  split
  · exact List.suffix_refl _
  · exact List.suffix_cons _ _

theorem goto_events (name : List Char) (c : Console) :
    c.events <:+ (c.goto name).console.events := by
  unfold goto
  split
  · exact List.suffix_refl _
  · exact List.suffix_cons _ _

theorem untag_events (name : List Char) (c : Console) :
    c.events <:+ (c.untag name).console.events := by
  unfold untag
  split
  · exact List.suffix_refl _
  · exact List.suffix_cons _ _

theorem display_events (s : Setting) (view : View) (c : Console) :
    c.events <:+ (c.display s view).console.events := by
  unfold display
  split
  · exact List.suffix_refl _
  · split
    · exact List.suffix_cons _ _
    · exact List.suffix_refl _

theorem load_none_events (s : Setting) (path : List Char) (c : Console) :
    c.events <:+ (load s none path c).console.events := by
  unfold load
  split
  · exact List.suffix_refl _
  · exact List.suffix_cons _ _

variable {draws : Draws Float} {c d e : Console}

/-- An action adds events and takes none back. -/
theorem step_events (h : Step draws c d) : c.events <:+ d.events := by
  cases h with
  | accept room text => exact accept_events room text c
  | emit e => exact List.suffix_cons _ _
  | command s hs k =>
    cases k with
    | loop _ | close | reset | quit => exact List.suffix_refl _
    | tag _ | list | help => exact List.suffix_cons _ _
    | goto name => exact goto_events name c
    | untag name => exact untag_events name c
    | display view => exact display_events s view c
    | go => exact go_events _ c
    | load path => exact load_none_events _ path c

theorem steps_events (h : Steps draws c d) : c.events <:+ d.events := by
  induction h with
  | refl => exact List.suffix_refl _
  | tail _ hlast ih => exact ih.trans (step_events hlast)

theorem tally_le (kind : Event → Bool) (h : Steps draws c d) : c.tally kind ≤ d.tally kind :=
  (steps_events h).sublist.countP_le

/-- What is not added in a row of actions is not added in either part of it. -/
theorem tally_between {kind : Event → Bool} (h : Steps draws c d) (h' : Steps draws d e)
    (heq : e.tally kind = c.tally kind) :
    d.tally kind = c.tally kind ∧ e.tally kind = d.tally kind := by
  have hfirst := tally_le kind h
  have hsecond := tally_le kind h'
  omega

end Events

end CircuitConsole.Console
