import CircuitConsole.Proofs.Console.Workspaces
import CircuitConsole.Proofs.Statement.JoinedTexts
import CircuitConsole.Proofs.Workspace.Commitment

/-!
Two texts accepted as one, and one after the other. The one text is read into a single draft that
is taken over at its end, the two into a draft each, with a workspace between them. The workspace
they end in is the same, and a part that fails spoils the whole of the one text, also what stands
in front of it.
-/

namespace CircuitConsole

open Statement

namespace Workspace

/-- A draft lies behind the one that begins where it was taken over. -/
theorem behind_draft_commit (w : Workspace) (d : Draft) :
    (w.commit d).draft.behind d.queue d.declared = d := by
  simp [draft, commit, Draft.behind]

/-- Two drafts taken over one after the other are one taken over. -/
theorem commit_commit (w : Workspace) (d d' : Draft) :
    (w.commit d).commit d' = w.commit (d'.behind d.queue d.declared) := by
  simp [commit, Draft.behind, Bool.or_assoc, Bool.or_left_comm]

/-- What continues a draft that is taken over could have begun its own. -/
theorem statements_of_commit (w : Workspace) {d d'' : Draft} {ys : List (List Char)}
    {room : Capacity} (h : d.statements ys room = (d'', none)) :
    ∃ d', (w.commit d).draft.statements ys room = (d', none) ∧
      d'' = d'.behind d.queue d.declared := by
  rw [← w.behind_draft_commit d, Draft.statements_behind] at h
  obtain ⟨hd, hnone⟩ := Prod.mk.inj h
  exact ⟨_, Prod.ext rfl hnone, hd.symm⟩

/-- Two texts as one are accepted as the one and then the other are. -/
theorem accept_joined {w w'' : Workspace} {front back : List Char} {xs : List (List Char)}
    {room : Capacity} (hsplit : split front = .ok xs) :
    (w.accept (front ++ "\n;\n".toList ++ back) room).result = .ok w'' ↔
      ∃ w', (w.accept front room).result = .ok w' ∧ (w'.accept back room).result = .ok w'' := by
  constructor
  · intro h
    obtain ⟨zs, d'', hzs, hall, rfl⟩ := accept_eq_ok_iff.mp h
    rw [split_join hsplit] at hzs
    obtain ⟨ys, hys, rfl⟩ := map_eq_ok.mp hzs
    obtain ⟨d, hfront, hback⟩ := Draft.statements_append_eq_none.mp hall
    obtain ⟨d', hown, rfl⟩ := w.statements_of_commit hback
    exact ⟨w.commit d, accept_eq_ok_iff.mpr ⟨xs, d, hsplit, hfront, rfl⟩,
      accept_eq_ok_iff.mpr ⟨ys, d', hys, hown, (w.commit_commit d d').symm⟩⟩
  · rintro ⟨w', hfront, hback⟩
    obtain ⟨xs', d, hxs', hfront, rfl⟩ := accept_eq_ok_iff.mp hfront
    obtain rfl := Except.ok.inj (hsplit.symm.trans hxs')
    obtain ⟨ys, d', hys, hown, rfl⟩ := accept_eq_ok_iff.mp hback
    have hback : d.statements ys room = (d'.behind d.queue d.declared, none) := by
      rw [← w.behind_draft_commit d, Draft.statements_behind, hown, behind_draft_commit]
    exact accept_eq_ok_iff.mpr ⟨xs ++ ys, _, by rw [split_join hsplit, hys]; rfl,
      Draft.statements_append_eq_none.mpr ⟨d, hfront, hback⟩, w.commit_commit d d'⟩

end Workspace

namespace Console

/-- A text is accepted as the workspace at hand accepts it, or fails and leaves that as it was. -/
theorem accept_cases (c : Console) (room : Capacity) (text : List Char) :
    (∃ w, (c.workspace.accept text room).result = .ok w ∧
      (c.accept room text).failure = none ∧ (c.accept room text).console.workspace = w) ∨
    (∃ fault, (c.workspace.accept text room).result = .error fault ∧
      (c.accept room text).failure = some (.statement fault) ∧
      (c.accept room text).console.workspace = c.workspace) := by
  simp only [accept, foldl_defined]
  cases (c.workspace.accept text room).result with
  | ok w => exact .inl ⟨w, rfl, rfl, rfl⟩
  | error fault => exact .inr ⟨fault, rfl, rfl, rfl⟩

theorem accept_result_of_none {c : Console} {room : Capacity} {text : List Char}
    (h : (c.accept room text).failure = none) :
    (c.workspace.accept text room).result = .ok (c.accept room text).console.workspace := by
  rcases accept_cases c room text with ⟨w, hw, _, rfl⟩ | ⟨fault, _, hfault, _⟩
  · exact hw
  · rw [h] at hfault
    cases hfault

theorem accept_of_ok {c : Console} {room : Capacity} {text : List Char} {w : Workspace}
    (h : (c.workspace.accept text room).result = .ok w) :
    (c.accept room text).failure = none ∧ (c.accept room text).console.workspace = w := by
  rcases accept_cases c room text with ⟨w', hw', hnone, hconsole⟩ | ⟨fault, hfault, _⟩
  · exact ⟨hnone, hconsole.trans (Except.ok.inj (hw'.symm.trans h))⟩
  · rw [h] at hfault
    cases hfault

/-- Two texts that are accepted as one are accepted one after the other, and the other way round,
with the same workspace at the end. In any other case the one text changes no workspace. -/
theorem accept_composes (c : Console) (room : Capacity) {front back : List Char}
    {xs : List (List Char)} (hsplit : split front = .ok xs) :
    let whole := c.accept room (front ++ "\n;\n".toList ++ back)
    let first := c.accept room front
    let second := first.console.accept room back
    (whole.failure = none ↔ first.failure = none ∧ second.failure = none) ∧
      (whole.failure = none → whole.console.workspace = second.console.workspace) ∧
      (whole.failure ≠ none → whole.console.workspace = c.workspace) := by
  intro whole first second
  have hparts (h : whole.failure = none) : first.failure = none ∧ second.failure = none ∧
      whole.console.workspace = second.console.workspace := by
    obtain ⟨w', hfront, hback⟩ :=
      (Workspace.accept_joined hsplit).mp (accept_result_of_none h)
    obtain ⟨hfirst, rfl⟩ := accept_of_ok hfront
    obtain ⟨hsecond, hw⟩ := accept_of_ok hback
    exact ⟨hfirst, hsecond, hw.symm⟩
  refine ⟨⟨fun h => ⟨(hparts h).1, (hparts h).2.1⟩, ?_⟩, fun h => (hparts h).2.2, ?_⟩
  · rintro ⟨hfirst, hsecond⟩
    have hwhole := (@Workspace.accept_joined _ _ front back _ _ hsplit).mpr
      ⟨_, accept_result_of_none hfirst, accept_result_of_none hsecond⟩
    exact (accept_of_ok hwhole).1
  · intro h
    rcases accept_cases c room (front ++ "\n;\n".toList ++ back) with
      ⟨w, _, hnone, _⟩ | ⟨_, _, _, hkept⟩
    · exact absurd hnone h
    · exact hkept

/-- A register and a gate, with a comment at the end, and a call of the gate on all qubits: read as
one text they are what they are as two. A call on one qubit too many spoils them all. -/
theorem defined_then_called :
    let front := "qreg q[2]; gate f(t) a \x7b rx(t) a; \x7d // a note".toList
    let call := "f(pi) q; creg c[1]".toList
    let whole := start.accept .usual (front ++ "\n;\n".toList ++ call)
    let spoilt := start.accept .usual (front ++ "\n;\n".toList ++ "f(pi) q[2]".toList)
    split front = .ok ["qreg q[2]".toList, "gate f(t) a \x7b rx(t) a; \x7d".toList] ∧
      whole.failure = none ∧ whole.console.workspace.queue.length = 2 ∧
      whole.console.workspace =
        ((start.accept .usual front).console.accept .usual call).console.workspace ∧
      (start.accept .usual front).failure = none ∧ spoilt.console.workspace = .empty := by
  intro front call whole spoilt
  have hsplit : split front =
      .ok ["qreg q[2]".toList, "gate f(t) a \x7b rx(t) a; \x7d".toList] := by decide +kernel
  have hwhole : whole.failure = none ∧ whole.console.workspace.queue.length = 2 := by decide +kernel
  have hspoilt : spoilt.failure ≠ none := by decide +kernel
  obtain ⟨hboth, hsame, -⟩ := @accept_composes start .usual front call _ hsplit
  obtain ⟨-, -, hkept⟩ := @accept_composes start .usual front "f(pi) q[2]".toList _ hsplit
  exact ⟨hsplit, hwhole.1, hwhole.2, hsame hwhole.1, (hboth.mp hwhole.1).1, hkept hspoilt⟩

end Console

end CircuitConsole
