import CircuitConsole.Proofs.Statement.Instances
import CircuitConsole.Proofs.Workspace.DefinedCalls
import CircuitConsole.Proofs.Workspace.Layout

/-!
Broadcasting is repetition. A call, a measurement or a reset of whole registers adds to a workspace
what the sequence of its instances adds as one text, and is refused exactly if that text is.
-/

namespace CircuitConsole

open Text Expression Statement

namespace Statement

variable {quantum classical : RegisterTable} {s t front text : List Char}
  {turns : List (List Char)} {guard : Option (List Char × List Char)} {room : Capacity}

/-- What stands for bits does not end with a block. -/
theorem Repeats.not_endsBlock (h : Repeats quantum classical room t turns) : ¬ EndsBlock t := by
  intro hend
  cases h with
  | @call head form spans width hcall hne hspans hwidth =>
    have hnone := resolveAll_of_mem (mem_call? hend hcall.call) quantum .quantum room
    rw [hspans] at hnone
    cases hnone
  | @measurement _ source target qubits bits ht hsource htarget hsizes =>
    obtain ⟨hsuffix, hne⟩ := measurement?_suffix ht
    have hnone := resolve_of_mem (hend.suffix hsuffix hne).mem classical .classical room
    rw [htarget] at hnone
    cases hnone
  | @reset _ target qubits hmeasurement ht htarget =>
    have hnone := resolve_of_mem (mem_resetTarget? ht hend.mem) quantum .quantum room
    rw [htarget] at hnone
    cases hnone

theorem Repeats.nonempty (h : Repeats quantum classical room t turns) : t ≠ [] := by
  cases h with
  | call hcall hne hspans hwidth => exact List.append_ne_nil_of_right_ne_nil _ hne
  | measurement ht hsource htarget hsizes =>
    rintro rfl
    cases ht
  | reset hmeasurement ht htarget =>
    rintro rfl
    cases ht

/-- A statement with such an operation is without braces, and tidy up to its layout. -/
theorem Repeats.plain (h : Repeats quantum classical room t turns) (hsplit : split text = .ok [s])
    (hs : tidy s = front ++ t) : Plain (front ++ t) ∧ Spaced (front ++ t) := by
  have hopen : '\x7b' ∉ s := by
    intro hopen
    have hend := split_endsBlock hsplit s (List.mem_singleton_self s) hopen
    have htidy : tidy s = trim s := if_pos (by simpa using hopen)
    have hwhole : EndsBlock (front ++ t) := by
      rw [← hs, htidy]
      exact hend.trim
    exact h.not_endsBlock (hwhole.suffix (List.suffix_append front t) h.nonempty)
  have htidy : tidy s = collapse s := if_neg (by simpa using hopen)
  rw [← hs, htidy]
  exact ⟨(plain_of_split hsplit s (List.mem_singleton_self s) hopen).collapse, spaced_collapse s⟩

/-- A statement that is an operation by itself is neither a declaration nor under a condition. -/
theorem form_of_bare (h : Form.of s = .operation t) :
    declaration? t = none ∧ conditional? t = none := by
  have hreading := form_reading s
  rw [h] at hreading
  cases hreading with
  | operation hheader hinclude hdeclaration hdefinition hconditional =>
    exact ⟨hdeclaration, hconditional⟩

end Statement

namespace Workspace

variable {draws : Simulation.Draws Float} {w : Workspace} {s t front text : List Char}
  {turns : List (List Char)} {guard : Option (List Char × List Char)} {room : Capacity}

/-- A statement on whole registers does what its instances do as one text: both are accepted with
the same outcome, or both are refused. The exception is a call that would have to be repeated by
declarations. -/
theorem accepted_repeated
    (hw : w.Reachable draws ∨ ∃ c : Console, c.Reachable draws ∧ w ∈ c.workspaces)
    (hsplit : split text = .ok [s]) (hform : Form.of s = operationForm guard t)
    (hs : tidy s = front ++ t) (hrepeats : Repeats w.quantum w.classical room t turns)
    (hread : guard = none → ¬ Redeclares t) :
    w.accepted text room = w.accepted (sequence (turns.map (front ++ ·))) room := by
  have hreachable := Console.reachable_of_held hw
  have hwell := hreachable.wellFormed
  have hquantum : w.draft.quantum.Tiled := hwell.tiledQuantum
  have hclassical : w.draft.classical.Tiled := hwell.tiledClassical
  obtain ⟨hplain, hspaced⟩ := hrepeats.plain hsplit hs
  obtain ⟨hfront, ht⟩ := front_of_form hform hs hspaced
  have hend : Plain t := hplain.part (List.suffix_append front t).isInfix
  have hwritten := hrepeats.written hquantum hclassical hend ht
  have hturn : ∀ x ∈ turns, Plain (front ++ x) ∧ Spaced (front ++ x) ∧ ∀ d : Draft,
      d.statement (front ++ x) (room.inside 1) =
        d.guard guard >>= fun condition => d.operation condition x (room.inside 2) := by
    intro x hx
    refine (hwritten x hx).statement_eq hfront hplain hspaced fun hguard => ?_
    obtain ⟨hdeclaration, hconditional⟩ := form_of_bare (hguard ▸ hform)
    exact hrepeats.form_of hquantum hclassical hend ht hdeclaration hconditional (hread hguard) x hx
  have hworked : w.draft.worked (turns.map (front ++ ·)) room = _ :=
    Repeats.worked_eq hrepeats hquantum hclassical ht fun x hx => (hturn x hx).2.2
  have htrim : (turns.map (front ++ ·)).map trim = turns.map (front ++ ·) := by
    rw [List.map_map]
    exact List.map_congr_left fun x hx => (hturn x hx).2.1.trim_eq
  have hne : ∀ x ∈ turns, trim (front ++ x) ≠ [] := by
    intro x hx
    rw [(hturn x hx).2.1.trim_eq]
    exact List.append_ne_nil_of_right_ne_nil front (hwritten x hx).nonempty
  have hsequence := (split_sequence
    (List.forall_mem_map.mpr fun x hx => (hturn x hx).1) (List.forall_mem_map.mpr hne)).2
  rw [accepted_eq, accepted_eq, hsplit, hsequence, htrim]
  dsimp only [Except.toOption, Option.bind_some]
  rw [hworked, Draft.worked_cons, Draft.statement_of_form hform]
  cases (w.draft.guard guard >>= fun condition =>
    w.draft.operation condition t (room.inside 2)) <;> rfl

/-- The call of a defined gate on a register and on the only place of another, under a condition and
with a comment behind it, and its two instances. -/
theorem gate_repeated :
    let t := "qreg q[2]; qreg r[1]; creg c[1]; gate g(t) a,b \x7b rx(t) a; cx a,b; \x7d".toList
    let text := "if (c==1)  g(pi/2) q , r; // both".toList
    let instances := "if (c==1) g(pi/2) q[0],r[0];if (c==1) g(pi/2) q[1],r[0];".toList
    ∃ w, (empty.accept t .usual).result = .ok w ∧ (w.accepted text .usual).isSome ∧
      w.accepted text .usual = w.accepted instances .usual := by
  intro t text instances
  obtain ⟨w, hw, hfound⟩ := ok_of_any (x := (empty.accept t .usual).result)
    (p := fun w => w.quantum = [⟨"q", 0, 2⟩, ⟨"r", 2, 1⟩] ∧ (w.accepted text .usual).isSome)
    (by decide +kernel)
  obtain ⟨hquantum, hsome⟩ := of_decide_eq_true hfound
  have hreachable : w.Reachable fun _ => 0 := .accept .usual t .empty hw
  have hcall : IsCall ("g(pi/2) ".toList ++ "q , r".toList)
      ⟨"g".toList, "pi/2".toList, "q , r".toList⟩ :=
    ⟨by decide +kernel, by decide +kernel, by decide +kernel, by decide +kernel⟩
  have hrepeats : Repeats w.quantum w.classical .usual ("g(pi/2) ".toList ++ "q , r".toList)
      ["g(pi/2) q[0],r[0]".toList, "g(pi/2) q[1],r[0]".toList] := by
    rw [hquantum]
    have hspans : (commaParts "q , r".toList).mapM
        (resolve [⟨"q", 0, 2⟩, ⟨"r", 2, 1⟩] .quantum · .usual) = .ok [⟨0, 2⟩, ⟨2, 1⟩] := by
      decide +kernel
    have hturns : [0, 1].map (fun i => "g(pi/2) ".toList ++ joined ((commaParts "q , r".toList).map
        (instanceAt [⟨"q", 0, 2⟩, ⟨"r", 2, 1⟩] i))) =
          ["g(pi/2) q[0],r[0]".toList, "g(pi/2) q[1],r[0]".toList] := by decide +kernel
    rw [← hturns]
    exact @Repeats.call _ _ _ _ ⟨"g".toList, "pi/2".toList, "q , r".toList⟩ _ 2 hcall
      (List.cons_ne_nil _ _) hspans ⟨by decide, by decide⟩
  have hsplit : split text = .ok ["if (c==1)  g(pi/2) q , r".toList] := by decide +kernel
  have hform : Form.of "if (c==1)  g(pi/2) q , r".toList =
      operationForm (some ("c".toList, "1".toList)) ("g(pi/2) ".toList ++ "q , r".toList) := by
    decide +kernel
  have hs : tidy "if (c==1)  g(pi/2) q , r".toList =
    "if (c==1) ".toList ++ ("g(pi/2) ".toList ++ "q , r".toList) := by decide +kernel
  exact ⟨w, hw, hsome, accepted_repeated (.inl hreachable) hsplit hform hs hrepeats (by simp)⟩

/-- A gate may be defined by the word of a declaration, and its call on a register is accepted. The
instances of the call are read as declarations, and refused. -/
theorem instances_refused :
    let t := "qreg q[2]; gate qreg a \x7b x a; \x7d".toList
    ∃ w, (empty.accept t .usual).result = .ok w ∧
      Repeats w.quantum w.classical .usual ("qreg ".toList ++ "q".toList)
        ["qreg q[0]".toList, "qreg q[1]".toList] ∧
      (w.accepted "qreg q;".toList .usual).map (·.queue) =
        some [⟨.gate .x [] [0], none⟩, ⟨.gate .x [] [1], none⟩] ∧
      w.accepted (sequence ["qreg q[0]".toList, "qreg q[1]".toList]) .usual = none := by
  intro t
  obtain ⟨w, hw, hfound⟩ := ok_of_any (x := (empty.accept t .usual).result)
    (p := fun w => w.quantum = [⟨"q", 0, 2⟩] ∧
      (w.accepted "qreg q;".toList .usual).map (·.queue) =
        some [⟨.gate .x [] [0], none⟩, ⟨.gate .x [] [1], none⟩] ∧
      (w.accepted (sequence ["qreg q[0]".toList, "qreg q[1]".toList]) .usual).isNone)
    (by decide +kernel)
  obtain ⟨hquantum, hwhole, hinstances⟩ := of_decide_eq_true hfound
  refine ⟨w, hw, ?_, hwhole, Option.isNone_iff_eq_none.mp hinstances⟩
  rw [hquantum]
  have hcall : IsCall ("qreg ".toList ++ "q".toList) ⟨"qreg".toList, [], "q".toList⟩ :=
    ⟨by decide +kernel, by decide +kernel, by decide +kernel, by decide +kernel⟩
  have hspans : (commaParts "q".toList).mapM (resolve [⟨"q", 0, 2⟩] .quantum · .usual) =
      .ok [⟨0, 2⟩] := by
    decide +kernel
  have hturns : [0, 1].map (fun i => "qreg ".toList ++
      joined ((commaParts "q".toList).map (instanceAt [⟨"q", 0, 2⟩] i))) =
        ["qreg q[0]".toList, "qreg q[1]".toList] := by decide +kernel
  rw [← hturns]
  exact @Repeats.call _ _ _ _ ⟨"qreg".toList, [], "q".toList⟩ _ 2 hcall (List.cons_ne_nil _ _)
    hspans
    ⟨by decide, by decide⟩

end Workspace

end CircuitConsole
