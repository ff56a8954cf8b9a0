import CircuitConsole.Proofs.Console.BraceCounts
import CircuitConsole.Proofs.Console.ParsedTexts
import CircuitConsole.Proofs.Expression.FormulaTrees
import CircuitConsole.Proofs.Statement.CallTexts
import CircuitConsole.Proofs.Statement.Expansion
import CircuitConsole.Proofs.Workspace.Commitment

/-!
Signs in a row. Each sign in front of a number is one call more in its evaluation, so that the
number has a value exactly if there are fewer signs than calls that can be opened. A gate whose
parameter is such a number is therefore queued or refused, at each level of the console, by the room
that there is.
-/

namespace CircuitConsole

open Expression Statement Text

namespace Expression

def signedPi (n : Nat) : List Char := List.replicate n '-' ++ ['p', 'i']

def signs : Nat → Tree
  | 0 => .name "pi"
  | n + 1 => .sign true (signs n)

def signRow (n : Nat) : List Lexeme := List.replicate n (.mark .minus) ++ [Lexeme.word .pi]

def signedValue (n : Nat) : Float := (fun x : Float => -x)^[n] pi

variable {n : Nat}

section Reading

theorem signRow_succ (n : Nat) : signRow (n + 1) = .mark .minus :: signRow n := rfl

theorem spaced_signRow (n : Nat) : Spaced Lexeme.text (signRow n) (signedPi n) := by
  have hnone : ∀ c ∈ ([] : List Char), isSpace c = true := List.forall_mem_nil _
  induction n with
  | zero => exact @Spaced.cons _ _ [] hnone (Lexeme.word .pi) _ _ (.nil hnone)
  | succ n ih => exact @Spaced.cons _ _ [] hnone (Lexeme.mark .minus) _ _ ih

theorem row_signRow (n : Nat) : Row (signRow n) := by
  induction n with
  | zero => exact .single rfl rfl
  | succ n ih => exact ih.prepend rfl rfl

theorem openBehind?_signRow (n : Nat) : openBehind? 0 (signRow n) = some 0 := by
  induction n with
  | zero => rfl
  | succ n ih =>
    have hsign : (Lexeme.mark .minus).open? 0 = some 0 := rfl
    rw [signRow_succ, openBehind?_cons, hsign, Option.bind_some, ih]

theorem leads_signs (field : List Char → Except Refusal Tree) (n : Nat) :
    ∃ level, signLevel ≤ level ∧ Leads field (tokensOf (signRow n)) (signs n) level n := by
  induction n with
  | zero => exact ⟨atomLevel, by decide, .leaf (.name "pi")⟩
  | succ n ih =>
    obtain ⟨level, hlevel, hlead⟩ := ih
    exact ⟨signLevel, le_refl _, hlead.sign true hlevel⟩

theorem readTree_signedPi (h : n ≤ stackSize) :
    readTree (textNesting + 1) (withPowerSigns (trim (signedPi n))) = .ok (signs n) := by
  rw [readTree, tokens_of_spaced (spaced_signRow n) (row_signRow n) (openBehind?_signRow n), treeOf,
    expressions]
  obtain ⟨level, -, hlead⟩ :=
    leads_signs (fun field => readTree textNesting ('(' :: field ++ [')'])) n
  have hread := hlead.read_whole (n := 8 * (tokensOf (signRow n)).length + 7) h (.inl rfl)
    (by omega)
  rw [List.append_nil] at hread
  rw [tokensOf] at hread
  rw [hread]
  rfl

end Reading

section Values

variable {env : Environment} {room : Nat}

theorem signs_depth (n : Nat) : (signs n).depth = n + 1 := by
  induction n with
  | zero => rfl
  | succ n ih => rw [signs, Tree.depth, ih]

theorem signs_value (env : Environment) (n room : Nat) : (signs n).value env room =
    if n < room then .ok (signedValue n) else .error .tooDeep := by
  induction n generalizing room with
  | zero => cases room <;> rfl
  | succ n ih =>
    cases room with
    | zero => rfl
    | succ room =>
      rw [signs, Tree.value, ih]
      by_cases h : n < room
      · rw [if_pos h, if_pos (Nat.succ_lt_succ h), signedValue, signedValue,
          Function.iterate_succ_apply']
        rfl
      · rw [if_neg h, if_neg (mt Nat.lt_of_succ_lt_succ h)]
        rfl

/-- A number with signs in front has a value if there is more room than there are signs. -/
theorem evaluate_signedPi (hpos : 0 < n) (h : n ≤ stackSize) :
    evaluate env (signedPi n) room =
      if n < room then .ok (signedValue n) else .error .tooDeep := by
  have hnull : (trim (signedPi n)).contains '\x00' = false := by
    refine Bool.eq_false_iff.mpr fun hcontains => ?_
    have hmem : '\x00' ∈ signedPi n := mem_of_mem_trim (by simpa using hcontains)
    simp [signedPi] at hmem
  unfold evaluate
  simp only [hnull, readTree_signedPi h, signs_depth, signs_value, Bool.false_eq_true, if_false]
  by_cases hroom : n < room
  · rw [if_neg (by omega), if_pos hroom, if_pos hroom]
    rfl
  · rw [if_neg hroom, if_neg hroom]
    split <;> rfl

end Values

end Expression

namespace Statement

def signedCall (n : Nat) : List Char :=
  callText "rx".toList [signedPi n] ["q[0]".toList]

variable {n : Nat}

theorem solid_signedPi (n : Nat) : Solid (signedPi n) := by
  refine ⟨by simp [signedPi], fun c hc => ?_⟩
  simp only [signedPi, List.mem_append, List.mem_replicate, List.mem_cons, List.not_mem_nil,
    or_false] at hc
  rcases hc with ⟨-, rfl⟩ | rfl | rfl <;> decide

theorem callParts_signedPi (n : Nat) :
    CallParts "rx".toList [signedPi n] ["q[0]".toList] where
  name := by decide
  expressions := by
    refine List.forall_mem_singleton.mpr ?_
    have hsign : ∀ c ∈ List.replicate n '-', isTermCharacter c = true ∧ c ≠ '/' := fun c hc =>
      List.eq_of_mem_replicate hc ▸ by decide
    rw [signedPi, textOpenAfter?_append hsign]
    decide
  solid := by
    refine List.forall_mem_singleton.mpr ?_
    rw [(solid_signedPi n).spaced.trim_eq]
    exact (solid_signedPi n).nonempty
  references := by
    refine List.forall_mem_singleton.mpr ?_
    have hresolve : resolve [⟨"q", 0, 1⟩] .quantum "q[0]".toList .usual = .ok ⟨0, 1⟩ := by
      decide +kernel
    exact referenceText_of_resolve hresolve
  nonempty := by decide

theorem collapse_signedCall (n : Nat) : collapse (signedCall n) = signedCall n := by
  have hword : Solid ("rx(".toList ++ signedPi n ++ [')']) := by
    refine ⟨by simp, fun c hc => ?_⟩
    simp only [List.mem_append, or_assoc] at hc
    rcases hc with hc | hc | hc
    · exact (solid_of_all (w := "rx(".toList) (by decide) (by decide)).solid c hc
    · exact (solid_signedPi n).solid c hc
    · obtain rfl := List.mem_singleton.mp hc
      decide
  have hspaced : Spaced ([' '].intercalate ["rx(".toList ++ signedPi n ++ [')'], "q[0]".toList]) :=
    spaced_intercalate <| List.forall_mem_cons.mpr
      ⟨hword, List.forall_mem_singleton.mpr (solid_of_all (by decide) (by decide))⟩
  have htext : signedCall n =
      [' '].intercalate ["rx(".toList ++ signedPi n ++ [')'], "q[0]".toList] := by
    simp [signedCall, callText, joined, List.intercalate]
  rw [htext]
  exact hspaced.collapse_eq

/-- The statement is read as a call with a single parameter, on a single qubit. -/
theorem Draft.statement_signedCall {d : Draft} (hqubit : d.quantum = [⟨"q", 0, 1⟩]) (hpos : 0 < n)
    (hn : n ≤ stackSize) {room : Capacity} (hroom : 3 < room.calls) :
    d.statement (signedCall n) room =
      if n + 3 < room.calls then .ok (d.enqueue none [.gate .rx [signedValue n] [0]])
      else .error (.expression .tooDeep) := by
  have hparts := callParts_signedPi n
  have hread : ¬ Misread "rx".toList [signedPi n] ["q[0]".toList] :=
    fun h => absurd h.mem (by decide)
  have hresolve : resolve d.quantum .quantum "q[0]".toList (room.inside 1) = .ok ⟨0, 1⟩ := by
    rw [hqubit]
    rfl
  have hplaces := mapM_resolve_joined (.cons hresolve .nil)
  rw [← commaParts_trimLeft] at hplaces
  have hexpressions : commaParts (joined [signedPi n]) = [signedPi n] := by
    rw [commaParts_joined (fun e he => commaPieces_counted (hparts.expressions e he)) hparts.solid,
      List.map_singleton, (solid_signedPi n).spaced.trim_eq]
  have hvalues : d.callValues
      ⟨"rx".toList, joined [signedPi n], trimLeft (joined ["q[0]".toList])⟩ (room.inside 1) =
        if n + 3 < room.calls then .ok [signedValue n] else .error (.expression .tooDeep) := by
    have harity : checkArity d.definitions "rx" 1 1 = .ok () := rfl
    have hspare : ¬ (room.inside 1).calls - 2 = 0 := by
      change ¬ room.calls - 1 - 2 = 0
      omega
    have hless : n < (room.inside 1).calls - 2 ↔ n + 3 < room.calls := by
      change n < room.calls - 1 - 2 ↔ _
      omega
    have hqubits : (commaParts (trimLeft (joined ["q[0]".toList]))).length = 1 := by decide
    unfold callValues
    simp only [hexpressions, hqubits, List.map_singleton, List.length_singleton,
      String.ofList_toList, harity, evaluateAll, List.mapM_cons, List.mapM_nil, hspare, if_false,
      String.toList_ofList, evaluate_signedPi hpos hn, hless]
    split <;> rfl
  rw [statement_operation (hparts.form_of hread (collapse_signedCall n)),
    hparts.operation_callText d none _ hread, d.call_single none hplaces, hvalues]
  by_cases hless : n + 3 < room.calls
  · obtain ⟨left, hleft⟩ : ∃ left, (room.inside 1).calls - 1 = left + 1 :=
      ⟨room.calls - 3, by change room.calls - 1 - 1 = _; omega⟩
    have hexpand : expand (left + 1) d.definitions.reverse "rx" [signedValue n] [0] =
        .ok [.gate .rx [signedValue n] [0]] :=
      expand_builtIn (by decide) rfl (by change room.calls - 1 - 1 = _ at hleft; omega)
    rw [if_pos hless, if_pos hless]
    change (expand ((room.inside 1).calls - 1) _ _ _ _).map _ = _
    rw [hleft, String.ofList_toList, hexpand]
    rfl
  · rw [if_neg hless, if_neg hless]
    rfl

end Statement

namespace Console

def signedLine (n : Nat) : Line := signedCall n ++ [';']

variable {s : Setting} {n : Nat} {c : Console} {room : Capacity}

theorem split_signedLine (n : Nat) : split (signedLine n) = .ok [signedCall n] := by
  have hspaced : Text.Spaced (signedCall n) := collapse_signedCall n ▸ spaced_collapse _
  have hsplit := (callParts_signedPi n).split_eq (collapse_signedCall n) (.inr rfl)
  rwa [hspaced.trim_eq] at hsplit

theorem signedLine_statement (n : Nat) : StatementLine (signedLine n) where
  nonblank := Text.trim_ne_nil (List.mem_cons_self ..) (c := 'r') (by decide)
  unmarked := rfl
  complete := by
    refine goesOn_plain (fun hfeed => ?_) (callParts_signedPi n).plain
    rw [← collapse_signedCall n] at hfeed
    exact absurd (eq_space_of_mem_collapse hfeed (by decide)) (by decide)

section Accepting

variable (hqubit : c.workspace.quantum = [⟨"q", 0, 1⟩]) (hpos : 0 < n) (hn : n ≤ stackSize)

include hqubit hpos hn

theorem accept_signedLine (hless : n + 4 < room.calls) :
    ∃ c' : Console, c.accept room (signedLine n) = c'.done ∧ c'.running = c.running ∧
      c'.workspace.queue =
        c.workspace.queue ++ [⟨.gate .rx [signedValue n] [0], none⟩] := by
  have hstatement : c.workspace.draft.statement (signedCall n) (room.inside 1) =
      .ok (c.workspace.draft.enqueue none [.gate .rx [signedValue n] [0]]) := by
    rw [Draft.statement_signedCall hqubit hpos hn (by change 3 < room.calls - 1; omega), if_pos]
    change n + 3 < room.calls - 1
    omega
  have hresult : (c.workspace.accept (signedLine n) room).result = .ok (c.workspace.commit
      (c.workspace.draft.enqueue none [.gate .rx [signedValue n] [0]])) := by
    rw [Workspace.accept_single (split_signedLine n), hstatement]
    rfl
  unfold accept
  simp only [foldl_defined, hresult]
  exact ⟨_, rfl, rfl, rfl⟩

theorem accept_signedLine_refused (hroom : 4 < room.calls) (hless : room.calls ≤ n + 4) :
    c.accept room (signedLine n) = c.fail (.statement (.expression .tooDeep)) := by
  have hstatement : c.workspace.draft.statement (signedCall n) (room.inside 1) =
      .error (.expression .tooDeep) := by
    rw [Draft.statement_signedCall hqubit hpos hn (by change 3 < room.calls - 1; omega), if_neg]
    change ¬ n + 3 < room.calls - 1
    omega
  simp only [accept, Workspace.accept_first (split_signedLine n) hstatement, List.foldl_nil]

end Accepting

section Files

variable {l : Setting → Level} {below : Option (Setting → Level)} {path : List Char}
  (hl : l (s.inside 1) = levelOver (s.inside 1) below) (hrun : c.running = true)

include hl hrun

/-- A file of a single statement is loaded by accepting it three calls further in. -/
theorem load_statement {line : Line} (h : StatementLine line)
    (hlines : Files.readLines s.reading path = .ok [line]) :
    load s (some l) path c =
      ((c.note (.loading path)).accept (s.room.inside 3) line).idle.meet (reportAt path) 1 := by
  have hnoted : (c.note (.loading path)).running = true := hrun
  rw [load_of_lines hlines, readAll_cons, if_pos hnoted, hl, consume_statement h]
  have hroom : (s.inside 1).room.inside 2 = s.room.inside 3 := rfl
  rw [hroom]
  generalize
    ((c.note (.loading path)).accept (s.room.inside 3) line).idle.meet (reportAt path) 1 = e
  obtain ⟨c', failure⟩ := e
  cases failure with
  | none => exact finish_of_idle rfl _
  | some f => rfl

variable (hqubit : c.workspace.quantum = [⟨"q", 0, 1⟩]) (hpos : 0 < n) (hn : n ≤ stackSize)
  (hlines : Files.readLines s.reading path = .ok [signedLine n])

include hqubit hpos hn hlines

theorem load_signedLine (hless : n + 7 < s.room.calls) :
    ∃ c' : Console, load s (some l) path c = c'.done ∧ c'.running = true ∧
      c'.workspace.queue =
        c.workspace.queue ++ [⟨.gate .rx [signedValue n] [0], none⟩] := by
  obtain ⟨c', haccept, hrunning, hqueue⟩ :=
    @accept_signedLine n (c.note (.loading path)) (s.room.inside 3) hqubit hpos hn
      (by change n + 4 < s.room.calls - 3; omega)
  refine ⟨c', ?_, hrunning.trans hrun, hqueue⟩
  rw [load_statement hl hrun (signedLine_statement n) hlines, haccept]
  rfl

theorem load_signedLine_refused (hroom : 7 < s.room.calls) (hless : s.room.calls ≤ n + 7) :
    load s (some l) path c = ((c.note (.loading path)).emit
      (.report (some ⟨path, 1⟩) (.statement (.expression .tooDeep)))).done := by
  rw [load_statement hl hrun (signedLine_statement n) hlines,
    accept_signedLine_refused (c := c.note (.loading path)) hqubit hpos hn
      (by change 4 < s.room.calls - 3; omega) (by change s.room.calls - 3 ≤ n + 4; omega)]
  rfl

end Files

end Console

end CircuitConsole
