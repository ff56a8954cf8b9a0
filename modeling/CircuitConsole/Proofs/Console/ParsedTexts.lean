import CircuitConsole.Proofs.Console.ClosedBlocks
import CircuitConsole.Proofs.Console.Workspaces

/-!
Texts that are read into a workspace one after the other. Where none of them fails the console has
the workspace that comes of them, a note on each text in the order in which they were read, and no
report. Lines of single statements are read in this way, in a round of a block and in all of its
rounds.
-/

namespace CircuitConsole.Console

open Moment

structure StatementLine (line : Line) : Prop where
  nonblank : Text.trim line ≠ []
  unmarked : isDirective line = false
  complete : goesOn [line] = false

instance (line : Line) : Decidable (StatementLine line) :=
  decidable_of_iff (Text.trim line ≠ [] ∧ isDirective line = false ∧ goesOn [line] = false)
    ⟨fun h => ⟨h.1, h.2.1, h.2.2⟩, fun h => ⟨h.1, h.2, h.3⟩⟩

def acceptAll (room : Capacity) (texts : List (List Char)) (w : Workspace) :
    Except Statement.Fault Workspace :=
  texts.foldlM (fun w text => (w.accept text room).result) w

def Event.parsed? : Event → Option (List Char)
  | .note (.queued _ text) => some text
  | _ => none

/-- Texts have been read one after the other, and nothing else was done: the notes on texts that
were read are those on them, in this order. -/
structure Parses (room : Capacity) (texts : List (List Char)) (c c' : Console) : Prop where
  rest : c' = { c with workspace := c'.workspace, events := c'.events }
  workspace : acceptAll room texts c.workspace = .ok c'.workspace
  events : ∃ events, c'.events = events ++ c.events ∧ (∀ e ∈ events, ∃ n, e = .note n) ∧
    events.filterMap Event.parsed? = texts.reverse

section Parsing

variable {room : Capacity} {xs ys : List (List Char)} {c c' c'' : Console}

theorem acceptAll_append (xs ys : List (List Char)) (w : Workspace) :
    acceptAll room (xs ++ ys) w = acceptAll room xs w >>= acceptAll room ys :=
  List.foldlM_append

theorem Parses.running (h : Parses room xs c c') : c'.running = c.running := by
  rw [h.rest]

theorem Parses.refl (c : Console) : Parses room [] c c where
  rest := rfl
  workspace := rfl
  events := ⟨[], rfl, List.forall_mem_nil _, rfl⟩

theorem Parses.trans (h : Parses room xs c c') (h' : Parses room ys c' c'') :
    Parses room (xs ++ ys) c c'' where
  rest := by
    rw [h'.rest, h.rest]
  workspace := by
    rw [acceptAll_append, h.workspace]
    exact h'.workspace
  events := by
    obtain ⟨events, hevents, hnotes, hparsed⟩ := h.events
    obtain ⟨events', hevents', hnotes', hparsed'⟩ := h'.events
    refine ⟨events' ++ events, by rw [hevents', hevents, List.append_assoc], ?_, ?_⟩
    · exact fun e he => (List.mem_append.mp he).elim (hnotes' e) (hnotes e)
    · rw [List.filterMap_append, hparsed, hparsed', List.reverse_append]

theorem acceptAll_singleton (text : List Char) (w : Workspace) :
    acceptAll room [text] w = (w.accept text room).result := by
  rw [acceptAll, List.foldlM_cons]
  cases (w.accept text room).result <;> rfl

theorem parses_note {n : Note} (h : Event.parsed? (.note n) = none) (c : Console) :
    Parses room [] c (c.note n) where
  rest := rfl
  workspace := rfl
  events := ⟨[.note n], rfl, by simp, by simp [h]⟩

/-- A text that is accepted has been read, with notes on the gates it defines. -/
theorem accept_parses {text : List Char} {w : Workspace}
    (h : (c.workspace.accept text room).result = .ok w) :
    ∃ c', c.accept room text = c'.done ∧ c'.workspace = w ∧ Parses room [text] c c' := by
  let defined : List Event :=
    ((c.workspace.accept text room).defined.map fun d => .note (.defined d)).reverse
  let queued : Event := .note (.queued (w.queue.length - c.workspace.queue.length) text)
  have haccept : c.accept room text =
      ({ c with workspace := w, events := queued :: defined ++ c.events } : Console).done := by
    simp only [accept, foldl_defined, h]
    rfl
  have hdefined : ∀ e ∈ defined, ∃ d, e = .note (.defined d) := by
    intro e he
    obtain ⟨d, -, rfl⟩ := List.mem_map.mp (List.mem_reverse.mp he)
    exact ⟨d, rfl⟩
  have hparsed : defined.filterMap Event.parsed? = [] := by
    refine List.filterMap_eq_nil_iff.mpr fun e he => ?_
    obtain ⟨d, rfl⟩ := hdefined e he
    rfl
  have hworkspace := (acceptAll_singleton text _).trans h
  refine ⟨_, haccept, rfl, rfl, hworkspace, queued :: defined, rfl, ?_, ?_⟩
  · refine List.forall_mem_cons.mpr ⟨⟨_, rfl⟩, fun e he => ?_⟩
    obtain ⟨d, rfl⟩ := hdefined e he
    exact ⟨_, rfl⟩
  · rw [List.filterMap_cons, hparsed]
    rfl

/-- The first of some texts is read before the others. -/
theorem acceptAll_cons_eq_ok {text : List Char} {w w' : Workspace} :
    acceptAll room (text :: xs) w = .ok w' ↔
      ∃ v, (w.accept text room).result = .ok v ∧ acceptAll room xs v = .ok w' := by
  rw [acceptAll, List.foldlM_cons]
  exact bind_eq_ok

end Parsing

section Lines

variable {s : Setting} {below : Option (Setting → Level)} {room : Capacity} {body : List Line}
  {texts : List (List Char)}

theorem consume_statement {line : Line} (h : StatementLine line) (c : Console) :
    (levelOver s below).consume .idle line c = (c.accept (s.room.inside 2) line).idle := by
  simp only [levelOver, consumeLine, takeFirst, takeStatement, h.nonblank, h.unmarked, h.complete,
    joined, List.intercalate_singleton, if_false, Bool.false_eq_true]

/-- Lines of statements are read as texts of their own. -/
theorem readAll_statements (hbody : ∀ line ∈ body, StatementLine line) (number : Nat) {c : Console}
    (hrun : c.running = true) {w : Workspace}
    (h : acceptAll (s.room.inside 2) body c.workspace = .ok w) :
    ∃ c', (levelOver s below).readAll (fun _ f c => c.fail f) number .idle body c =
      ⟨.idle, c', none⟩ ∧ Parses (s.room.inside 2) body c c' := by
  induction body generalizing number c with
  | nil => exact ⟨c, rfl, .refl c⟩
  | cons line body ih =>
    obtain ⟨hline, hlater⟩ := List.forall_mem_cons.mp hbody
    obtain ⟨v, haccept, hrest⟩ := acceptAll_cons_eq_ok.mp h
    obtain ⟨m, hm, rfl, hfirst⟩ := accept_parses haccept
    obtain ⟨c', hread, hparses⟩ := ih hlater (number + 1) (hfirst.running.trans hrun) hrest
    refine ⟨c', ?_, hfirst.trans hparses⟩
    simp only [Level.readAll, hrun, if_true, consume_statement hline, hm, Effect.idle, done]
    exact hread

/-- Rounds that each read some texts read them so many times over. -/
theorem rounds_parses {round : Console → Effect}
    (hround : ∀ (c : Console) (w : Workspace), c.running = true →
      acceptAll room texts c.workspace = .ok w → ∃ c', round c = c'.done ∧ Parses room texts c c')
    (n : Nat) {c : Console} (hrun : c.running = true) {w : Workspace}
    (h : acceptAll room (List.replicate n texts).flatten c.workspace = .ok w) :
    ∃ c', rounds round n c = c'.done ∧ Parses room (List.replicate n texts).flatten c c' := by
  induction n generalizing c with
  | zero => exact ⟨c, rfl, .refl c⟩
  | succ n ih =>
    rw [List.replicate_succ, List.flatten_cons] at h ⊢
    rw [acceptAll_append, bind_eq_ok] at h
    obtain ⟨v, hfirst, hrest⟩ := h
    obtain ⟨m, hm, hparses⟩ := hround c v hrun hfirst
    obtain rfl : m.workspace = v := Except.ok.inj (hparses.workspace.symm.trans hfirst)
    obtain ⟨c', hrounds, hlater⟩ := ih (hparses.running.trans hrun) hrest
    refine ⟨c', ?_, hparses.trans hlater⟩
    rw [rounds_succ _ _ hrun, hm]
    exact hrounds

/-- A replay of rounds that each read some texts reads them so many times over. -/
theorem replay_parses {l : Setting → Level} {b : Block}
    (hround : ∀ (c : Console) (w : Workspace), c.running = true →
      acceptAll room texts c.workspace = .ok w →
        ∃ c', blockRound (l (s.inside 1)) b c = c'.done ∧ Parses room texts c c')
    {c : Console} (hrun : c.running = true) {w : Workspace}
    (h : acceptAll room (List.replicate b.rounds texts).flatten c.workspace = .ok w) :
    ∃ c', replay s (some l) b (c.note (.capturing b.rounds)) = c'.done ∧
      Parses room (List.replicate b.rounds texts).flatten c c' := by
  have hnotes : Parses room [] c
      ((c.note (.capturing b.rounds)).note (.replaying b.lines.length b.rounds)) :=
    (parses_note rfl c).trans (parses_note rfl _)
  obtain ⟨c', hrounds, hparses⟩ := rounds_parses hround b.rounds (hnotes.running.trans hrun) h
  exact ⟨c', hrounds, hnotes.trans hparses⟩

end Lines

end CircuitConsole.Console
