import CircuitConsole.Proofs.Console.Feeding
import CircuitConsole.Proofs.Console.Tallies

/-!
Tagged workspaces are snapshots. What is done to the workspace at hand does not reach the tagged
ones, and a tag is changed by nothing but setting it again or removing it. Between these, going to
the tag gives the workspace that was tagged, as often as it is done.
-/

namespace CircuitConsole.Console

open Simulation

namespace Tags

variable {tags : Tags} {name other : List Char}

theorem find?_insert_self (name : List Char) (w : Workspace) (tags : Tags) :
    (tags.insert name w).find? name = some w := by
  induction tags with
  | nil => simp [insert, find?]
  | cons entry tags ih =>
    obtain ⟨n, v⟩ := entry
    unfold insert
    by_cases hn : n = name
    · simp [hn, find?]
    · simp [hn, find?, ih]

theorem find?_insert_of_ne (w : Workspace) (h : other ≠ name) :
    (tags.insert other w).find? name = tags.find? name := by
  induction tags with
  | nil => simp [insert, find?, h]
  | cons entry tags ih =>
    obtain ⟨n, v⟩ := entry
    unfold insert
    by_cases hn : n = other
    · simp [hn, find?, h]
    · rw [if_neg hn]
      simp only [find?, ih]

theorem find?_erase_of_ne (h : other ≠ name) :
    (tags.erase other).find? name = tags.find? name := by
  induction tags with
  | nil => rfl
  | cons entry tags ih =>
    obtain ⟨n, v⟩ := entry
    unfold erase
    by_cases hn : n = other
    · simp [hn, find?, h]
    · rw [if_neg hn]
      simp only [find?, ih]

end Tags

def Event.retags (name : List Char) : Event → Bool
  | .note (.tagged other) | .note (.untagged other) => other = name
  | _ => false

section Keeping

variable {draws : Draws Float} {c d : Console} {name : List Char}

theorem tally_note_retagged {name : List Char} (c : Console) (n : Note)
    (h : Event.retags name (.note n) = true) :
    (c.note n).tally (Event.retags name) = c.tally (Event.retags name) + 1 :=
  List.countP_cons_of_pos h

theorem accept_tags (room : Capacity) (text : List Char) (c : Console) :
    (c.accept room text).console.tags = c.tags := by
  unfold accept
  simp only [foldl_defined]
  cases (c.workspace.accept text room).result <;> rfl

theorem go_tags (s : Setting) (c : Console) : (c.go s).console.tags = c.tags := by
  unfold go
  split <;> rfl

theorem goto_tags (name : List Char) (c : Console) : (c.goto name).console.tags = c.tags := by
  unfold goto
  split <;> rfl

theorem display_tags (s : Setting) (view : View) (c : Console) :
    (c.display s view).console.tags = c.tags := by
  unfold display
  split
  · rfl
  · split <;> rfl

theorem load_none_tags (s : Setting) (path : List Char) (c : Console) :
    (load s none path c).console.tags = c.tags := by
  unfold load
  split <;> rfl

/-- Setting a tag changes no other. -/
theorem tag_keeps {other : List Char}
    (hkept : (c.tag other).console.tally (Event.retags name) = c.tally (Event.retags name)) :
    (c.tag other).console.tags.find? name = c.tags.find? name := by
  by_cases heq : other = name
  · -- the tag itself would be noted
    have hnoted := tally_note_retagged
      { c with tags := c.tags.insert other c.workspace } (.tagged other) (decide_eq_true heq)
    exact absurd (hnoted.symm.trans hkept) (Nat.succ_ne_self _)
  · exact Tags.find?_insert_of_ne _ heq

/-- Removing a tag, or failing to, changes no other. -/
theorem untag_keeps {other : List Char}
    (hkept : (c.untag other).console.tally (Event.retags name) = c.tally (Event.retags name)) :
    (c.untag other).console.tags.find? name = c.tags.find? name := by
  unfold untag at hkept ⊢
  cases hfound : c.tags.find? other with
  | none => rfl
  | some w =>
    simp only [hfound] at hkept
    by_cases heq : other = name
    · have hnoted := tally_note_retagged
        { c with tags := c.tags.erase other } (.untagged other) (decide_eq_true heq)
      exact absurd (hnoted.symm.trans hkept) (Nat.succ_ne_self _)
    · exact Tags.find?_erase_of_ne heq

/-- An action that does not set or remove a tag keeps what is tagged. -/
theorem step_keeps_tag (h : Step draws c d)
    (hkept : d.tally (Event.retags name) = c.tally (Event.retags name)) :
    d.tags.find? name = c.tags.find? name := by
  cases h with
  | accept room text => rw [accept_tags]
  | emit e => rfl
  | command s hs k =>
    cases k with
    | loop _ | close | list | reset | help | quit => rfl
    | tag other => exact tag_keeps hkept
    | untag other => exact untag_keeps hkept
    | goto other =>
      change (c.goto other).console.tags.find? name = _
      rw [goto_tags]
    | display view =>
      change (c.display s view).console.tags.find? name = _
      rw [display_tags]
    | go =>
      change (c.go _).console.tags.find? name = _
      rw [go_tags]
    | load path =>
      change (load _ none path c).console.tags.find? name = _
      rw [load_none_tags]

/-- Actions in a row keep what is tagged, unless one of them sets or removes the tag. -/
theorem steps_keep_tag (h : Steps draws c d)
    (hkept : d.tally (Event.retags name) = c.tally (Event.retags name)) :
    d.tags.find? name = c.tags.find? name := by
  induction h with
  | refl => rfl
  | @tail b d hfirst hlast ih =>
    obtain ⟨hbefore, hafter⟩ := tally_between hfirst (.single hlast) hkept
    exact (step_keeps_tag hlast hafter).trans (ih hbefore)

end Keeping

/-- A workspace is tagged, and then anything is done to the console, at the prompt or in the middle
of a line, but this tag is neither set again nor removed. The tag is still there, and going to it
gives the workspace that was tagged, while the other tags, the count of random numbers and the
prompt stay as they are. -/
theorem snapshot_isolated {draws : Draws Float} {c d : Console} {name : List Char}
    (hlater : Steps draws (c.tag name).console d)
    (hkept : d.tally (Event.retags name) = (c.tag name).console.tally (Event.retags name)) :
    d.tags.find? name = some c.workspace ∧
    d.goto name = ({ d with workspace := c.workspace }.note (.restoring name)).done ∧
    ∀ (s : Setting) (line : Line), d.running = true → isDirective line = true →
      commands line = .ok [.goto name] →
      (Prompt.mk .idle d).feed s line =
        (⟨.idle, { d with workspace := c.workspace }.note (.restoring name)⟩, none) := by
  have hfound : d.tags.find? name = some c.workspace :=
    (steps_keep_tag hlater hkept).trans (Tags.find?_insert_self name c.workspace c.tags)
  have hgoto : d.goto name = ({ d with workspace := c.workspace }.note (.restoring name)).done := by
    simp only [goto, hfound]
  refine ⟨hfound, hgoto, fun s line hrun hdirective hread => ?_⟩
  have hperform :
      perform (s.inside 1) (some fun s => level s (maxNesting - 1)) d (.goto name) = _ :=
    hgoto
  have hplain : ∀ count, Command.goto name ≠ .loop count := fun count h => by cases h
  rw [Prompt.feed_command rfl hrun hdirective hread hplain, hperform]
  rfl

/-- A flipped qubit is tagged, and flipped again; this is gone back from, and the one flip is
executed; lines fail, another tag is set and removed, and everything is reset. Going to the tag
gives one flip that has not been executed, as it was tagged. -/
theorem flip_gone_back_to :
    let s : Setting := ⟨fun _ => .error .missing, fun _ => 0⟩
    let p : Prompt := (Prompt.start.feed s "qreg q[1]; x q;".toList).1
    let inputs : List Input := ["x q;", ":goto a :go", "x q", ":loop 2 :goto a :prob",
      ":tags b :untag b", ":untag b", ":reset"].map fun line => .line line.toList
    let q : Prompt := inputs.foldl (fun p input => (p.answer s input).1)
      ⟨.idle, (p.console.tag ['a']).console⟩
    p.console.workspace.queue.length = 1 ∧ q.console.workspace.queue.length = 0 ∧
      ((Prompt.mk .idle q.console).feed s ":goto a".toList).1.console.workspace =
        p.console.workspace := by
  intro s p inputs q
  have hlater : Steps s.draws (p.console.tag ['a']).console q.console :=
    Prompt.answers_steps s inputs ⟨.idle, (p.console.tag ['a']).console⟩
  have hkept : q.console.tally (Event.retags ['a']) =
      (p.console.tag ['a']).console.tally (Event.retags ['a']) := by decide +kernel
  obtain ⟨_, _, hfeed⟩ := snapshot_isolated hlater hkept
  refine ⟨by decide +kernel, by decide +kernel, ?_⟩
  rw [hfeed s _ (by decide +kernel) (by decide +kernel) (by decide +kernel)]
  simp only [note, emit]

end CircuitConsole.Console
