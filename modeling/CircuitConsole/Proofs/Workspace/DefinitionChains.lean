import CircuitConsole.Proofs.Console.JoinedTexts
import CircuitConsole.Proofs.Statement.ExpansionFaults
import CircuitConsole.Proofs.Workspace.WellFormed

/-!
Chains of definitions, each of which calls the one before it. Texts that define the links one by one
are accepted, as long as there are letters for the names. A call of the last link then brings about
calls of all others inside one another, more than there is room for if the chain is long.
-/

namespace CircuitConsole

open Statement Text

structure Letter (c : Char) : Prop where
  word : isWord c = true
  solid : isBlank c = false

namespace Letter

variable {c e f : Char}

theorem ne (h : Letter c) {sign : Char} (hsign : isWord sign = false) : c ≠ sign := by
  rintro rfl
  rw [h.word] at hsign
  cases hsign

theorem ne_slash (h : Letter c) : c ≠ '/' := h.ne (by decide)

theorem ne_opening (h : Letter c) : c ≠ '\x7b' := h.ne (by decide)

theorem ne_closing (h : Letter c) : c ≠ '\x7d' := h.ne (by decide)

theorem ne_semicolon (h : Letter c) : c ≠ ';' := h.ne (by decide)

def definitionText (c e f : Char) : List Char :=
  ['g', 'a', 't', 'e', ' ', 'g', c, ' ', 'a', '\x7b', e, f, ' ', 'a', ';', '\x7d']

theorem split_definitionText (hc : Letter c) (he : Letter e) (hf : Letter f) :
    split (definitionText c e f) = .ok [definitionText c e f] := by
  have hplain : withoutComments false (definitionText c e f) = definitionText c e f := by
    simp [definitionText, withoutComments, hc.ne_slash, he.ne_slash, hf.ne_slash]
  rw [split, hplain]
  simp [definitionText, pieces, onFirst, Except.map, hc.ne_opening, hc.ne_closing, hc.ne_semicolon,
    he.ne_opening, he.ne_closing, he.ne_semicolon, hf.ne_opening, hf.ne_closing, hf.ne_semicolon,
    trim, trimLeft, trimRight, isBlank]

theorem form_definitionText (hc : Letter c) (e f : Char) :
    Form.of (definitionText c e f) =
      .definition ⟨['g', c], [], ['a'], [e, f, ' ', 'a', ';']⟩ := by
  have htidy : tidy (definitionText c e f) = definitionText c e f := by
    simp [tidy, definitionText, trim, trimLeft, trimRight, isBlank]
  have hheader : isHeader (definitionText c e f) = false := rfl
  have hinclude : isInclude (definitionText c e f) = false := rfl
  have hdeclaration : declaration? (definitionText c e f) = none := rfl
  have hgate : (afterPrefix? "gate".toList (definitionText c e f)).bind afterBlanks? =
      some ('g' :: c :: [' ', 'a', '\x7b', e, f, ' ', 'a', ';', '\x7d']) := rfl
  have hname (rest : List Char) : identifier? ('g' :: c :: ' ' :: rest) =
      some (['g', c], ' ' :: rest) := by
    have hblank : isWord ' ' = false := by decide
    have hstart : isIdentifierStart 'g' = true := by decide
    simp only [identifier?, hstart, if_true, List.takeWhile_cons, List.dropWhile_cons, hc.word,
      hblank, Bool.false_eq_true, if_false]
  have hdefinition : definition? (definitionText c e f) =
      some ⟨['g', c], [], ['a'], [e, f, ' ', 'a', ';']⟩ := by
    simp only [definition?, hgate, hname, Option.bind_eq_bind, Option.bind_some]
    rfl
  simp only [Form.of, htidy, hheader, hinclude, hdeclaration, hdefinition, Bool.or_false,
    Bool.false_eq_true, if_false]

theorem split_body (he : Letter e) (hf : Letter f) :
    split [e, f, ' ', 'a', ';'] = .ok [[e, f, ' ', 'a']] := by
  have hplain : withoutComments false [e, f, ' ', 'a', ';'] = [e, f, ' ', 'a', ';'] := by
    simp [withoutComments, he.ne_slash, hf.ne_slash]
  have hlast : isBlank 'a' = false := by decide
  have htrim : trim [e, f, ' ', 'a'] = [e, f, ' ', 'a'] := by
    simp [trim, trimLeft, trimRight, he.solid, hlast]
  have hnone : trim [] = [] := rfl
  rw [split, hplain]
  simp [pieces, onFirst, Except.map, he.ne_opening, he.ne_closing, he.ne_semicolon, hf.ne_opening,
    hf.ne_closing, hf.ne_semicolon, htrim, hnone]

theorem bodyCall_eq {d : Draft} (gate : String) (hf : Letter f)
    (hstart : isIdentifierStart e = true) (hb : e ≠ 'b')
    (harity : checkArity d.definitions (String.ofList [e, f]) 0 1 = .ok ()) :
    d.bodyCall gate ["a"] [e, f, ' ', 'a'] = .ok (some ⟨String.ofList [e, f], [], ["a"]⟩) := by
  have hblank : isWord ' ' = false := by decide
  have hbarrier : barrier? [e, f, ' ', 'a'] = none := by
    simp [barrier?, afterPrefix?, hb.symm]
  have hcall : call? [e, f, ' ', 'a'] = some ⟨[e, f], [], ['a']⟩ := by
    simp [call?, identifier?, hstart, hf.word, hblank, trimLeft, isBlank]
  have hnone : commaParts [] = [] := by decide
  have hone : commaParts ['a'] = [['a']] := by decide
  unfold Draft.bodyCall
  rw [hbarrier, hcall]
  dsimp only
  generalize String.ofList [e, f] = name at harity ⊢
  simp [hnone, hone, harity, bind, Except.bind]

/-- Such a text adds its definition, if the name is new and the other gate is known. -/
theorem statement_definitionText {d : Draft} {room : Capacity} (hc : Letter c) (he : Letter e)
    (hf : Letter f) (hstart : isIdentifierStart e = true) (hb : e ≠ 'b')
    (hbuiltIn : Gate.ofName? (String.ofList ['g', c]) = none)
    (hnew : ∀ x ∈ d.definitions, x.name ≠ String.ofList ['g', c])
    (harity : checkArity d.definitions (String.ofList [e, f]) 0 1 = .ok ()) :
    d.statement (definitionText c e f) room = .ok { d with
      definitions := d.definitions ++
        [⟨String.ofList ['g', c], [], ["a"], [⟨String.ofList [e, f], [], ["a"]⟩]⟩] } := by
  have hnone : commaParts [] = [] := by decide
  have hone : commaParts (trim ['a']) = [['a']] := by decide
  have hidentifier : isIdentifier ['a'] = true := by decide
  have hbody (name : String) := bodyCall_eq name hf hstart hb harity
  rw [Draft.statement_definition (form_definitionText hc e f)]
  unfold Draft.define
  dsimp only
  generalize String.ofList ['g', c] = name at hbuiltIn hnew ⊢
  generalize String.ofList [e, f] = other at hbody ⊢
  have hknown : d.definitions.any (fun x => x.name = name) = false := by simpa using hnew
  simp [hnone, hone, hidentifier, hbuiltIn, hknown, split_body he hf, hbody, bind, Except.bind,
    pure, Except.pure]

end Letter

namespace Chain

/-- The letters that tell the links apart; they are ideographs, of which there are enough. -/
def letter (n : Nat) : Char := Char.ofNat (0x4E00 + n)

def mark : Nat → Char × Char
  | 0 => ('i', 'd')
  | n + 1 => ('g', letter n)

def name (n : Nat) : String := String.ofList [(mark n).1, (mark n).2]

def link (n : Nat) : Definition := ⟨name (n + 1), [], ["a"], [⟨name n, [], ["a"]⟩]⟩

def chain (n : Nat) : List Definition := (List.range n).map link

variable {n : Nat}

theorem toNat_letter (hn : n < 1000) : (letter n).toNat = 0x4E00 + n := by
  have hvalid : (0x4E00 + n).isValidChar := .inl (by omega)
  rw [letter, Char.ofNat, dif_pos hvalid]
  rfl

theorem letter_letter (hn : n < 1000) : Letter (letter n) := by
  have hnat := toNat_letter hn
  constructor
  · have hrange : (19968, 42124) ∈ wordRanges := by decide
    have hlarge : ¬ 0x4E00 + n < 128 := by omega
    rw [isWord, hnat, if_neg hlarge]
    refine List.any_eq_true.mpr ⟨_, hrange, ?_⟩
    simp
    omega
  · simp only [isBlank, hnat]
    simp
    omega

theorem mark_letters (hn : n < 1001) : Letter (mark n).1 ∧ Letter (mark n).2 ∧
    isIdentifierStart (mark n).1 = true ∧ (mark n).1 ≠ 'b' := by
  cases n with
  | zero => exact ⟨⟨by decide, by decide⟩, ⟨by decide, by decide⟩, by decide, by decide⟩
  | succ n =>
    have hg : Letter 'g' := ⟨by decide, by decide⟩
    have hstart : isIdentifierStart 'g' = true := by decide
    exact ⟨hg, letter_letter (by omega), hstart, by simp [mark]⟩

theorem name_inj {m : Nat} (hm : m < 1000) (hn : n < 1000) (h : name (m + 1) = name (n + 1)) :
    m = n := by
  have hletters : letter m = letter n := by
    simpa [mark] using String.ofList_injective h
  have hnat := congrArg Char.toNat hletters
  rw [toNat_letter hm, toNat_letter hn] at hnat
  omega

theorem ofName?_name (n : Nat) : Gate.ofName? (name (n + 1)) = none := by
  have hfirst : ∀ g ∈ Gate.all, g.name.toList.head? ≠ some 'g' := by decide
  rw [Gate.ofName?, List.find?_eq_none]
  intro g hg
  rw [decide_eq_true_eq]
  intro h
  refine hfirst g hg ?_
  rw [h, name, String.toList_ofList]
  rfl

theorem fits (hn : n < 1000) (harity : checkArity (chain n) (name n) 0 1 = .ok ()) :
    Fits (chain n) (link n) where
  notBuiltIn := ofName?_name n
  new := by
    intro e he heq
    obtain ⟨m, hm, rfl⟩ := List.mem_map.mp he
    have hm := List.mem_range.mp hm
    have hsame := name_inj (by omega) hn heq
    omega
  arity := by
    intro call hcall
    obtain rfl := List.mem_singleton.mp hcall
    exact harity
  qubits := by
    intro call hcall q hq
    obtain rfl := List.mem_singleton.mp hcall
    exact hq

theorem chain_succ (n : Nat) : chain (n + 1) = chain n ++ [link n] := by
  simp [chain, List.range_succ]

/-- Each link can be called. -/
theorem checkArity_chain (hn : n ≤ 1000) : checkArity (chain n) (name n) 0 1 = .ok () := by
  induction n with
  | zero => decide
  | succ n ih =>
    have hlatest := arity?_latest (fits (by omega) (ih (by omega)))
    rw [← chain_succ] at hlatest
    change arity? (chain (n + 1)) (name (n + 1)) = some (0, 1) at hlatest
    simp [checkArity, hlatest]

/-- Chains are made by texts that are accepted. -/
theorem reachable_chain (draws : Simulation.Draws Float) (hn : n ≤ 1000) :
    ∃ w : Workspace, w.Reachable draws ∧ w.definitions = chain n := by
  induction n with
  | zero => exact ⟨.empty, .empty, rfl⟩
  | succ n ih =>
    obtain ⟨w, hw, hchain⟩ := ih (by omega)
    obtain ⟨he, hf, hstart, hb⟩ := mark_letters (n := n) (by omega)
    have hc : Letter (letter n) := letter_letter (by omega)
    have hfits := fits (by omega) (checkArity_chain (n := n) (by omega))
    have hdraft : w.draft.definitions = chain n := hchain
    have hstatement := @Letter.statement_definitionText _ _ _ w.draft (Capacity.usual.inside 1) hc
      he hf hstart hb
      (ofName?_name n) (hdraft ▸ hfits.new) (hdraft ▸ checkArity_chain (by omega))
    have haccept := Workspace.accept_eq_ok_iff.mpr ⟨_, _, Letter.split_definitionText hc he hf,
      Draft.statements_of_ok hstatement, rfl⟩
    refine ⟨_, .accept .usual _ hw haccept, ?_⟩
    change w.definitions ++ [link n] = chain (n + 1)
    rw [hchain, chain_succ]

/-- A call of a link fails where there is no room for all that it calls. -/
theorem expand_chain {room : Nat} (hn : n < 1000) (hroom : room ≤ n) (q : Nat) :
    expand room (chain n).reverse (name n) [] [q] = .error (.overload .nesting) := by
  induction n generalizing room with
  | zero =>
    obtain rfl : room = 0 := by omega
    rfl
  | succ n ih =>
    cases room with
    | zero => exact expand_noRoom
    | succ room =>
      have hplaces : placesOf (link n) [q] ["a"] = .ok [q] := rfl
      have hpart : bodyPart room (chain n).reverse (link n) [] [q] ⟨name n, [], ["a"]⟩ =
          .error (.overload .nesting) := by
        change (evaluateAll _ [] (room - 1) >>= fun values =>
          placesOf (link n) [q] ["a"] >>= fun places => _) = _
        rw [hplaces]
        exact ih (by omega) (Nat.le_of_succ_le_succ hroom)
      rw [chain_succ, List.reverse_append]
      change expand (room + 1) (link n :: (chain n).reverse) (link n).name [] [q] = _
      rw [expand_latest (List.nodup_singleton q) (ofName?_name n)]
      change (List.mapM (bodyPart room (chain n).reverse (link n) [] [q])
        [⟨name n, [], ["a"]⟩]).map List.flatten = _
      rw [List.mapM_cons, hpart]
      rfl

end Chain

end CircuitConsole
