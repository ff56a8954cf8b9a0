import CircuitConsole.Proofs.Statement.Drafts
import CircuitConsole.Proofs.Statement.Layout
import CircuitConsole.Proofs.Statement.Pieces

/-!
Statements with a block. A statement that opens a brace ends with a closing one, where the text was
cut. So nothing can be made of it but a gate definition: every other form ends in a number, a quoted
name or a reference to bits, and none of them in a brace.
-/

namespace CircuitConsole.Statement

open Text

variable {c : Char} {s rest : List Char}

def EndsBlock (s : List Char) : Prop := s.getLast? = some '\x7d'

section Suffixes

theorem EndsBlock.mem (h : EndsBlock s) : '\x7d' ∈ s := List.mem_of_getLast? h

theorem EndsBlock.suffix (h : EndsBlock s) (hrest : rest <:+ s) (hne : rest ≠ []) :
    EndsBlock rest := by
  obtain ⟨front, rfl⟩ := hrest
  have hlast := List.getLast?_append_of_ne_nil front hne
  exact hlast.symm.trans h

theorem EndsBlock.cons (h : EndsBlock s) (c : Char) : EndsBlock (c :: s) := by
  obtain ⟨body, rfl⟩ := List.getLast?_eq_some_iff.mp h
  exact List.getLast?_concat (l := c :: body)

theorem endsBlock_condense : EndsBlock (condense s) ↔ EndsBlock s := getLast_condense (by decide)

/-- What `p` does not hold of is not dropped. -/
theorem mem_dropWhile {p : Char → Bool} (h : c ∈ s) (hp : p c = false) : c ∈ s.dropWhile p := by
  rw [← List.takeWhile_append_dropWhile (p := p) (l := s)] at h
  refine (List.mem_append.mp h).resolve_left fun htake => ?_
  rw [List.mem_takeWhile_imp htake] at hp
  cases hp

theorem mem_trim (h : c ∈ s) (hc : isBlank c = false) : c ∈ trim s :=
  List.mem_reverse.mpr (mem_dropWhile (List.mem_reverse.mpr (mem_dropWhile h hc)) hc)

theorem EndsBlock.trim (h : EndsBlock s) : EndsBlock (trim s) := by
  have hleft : EndsBlock (trimLeft s) := by
    refine h.suffix (List.dropWhile_suffix isBlank) ?_
    exact List.ne_nil_of_mem (mem_dropWhile h.mem (by decide))
  have hright : trimRight (trimLeft s) = trimLeft s := by
    obtain ⟨body, hbody⟩ := List.getLast?_eq_some_iff.mp hleft
    rw [hbody, trimRight, List.reverse_append, List.reverse_singleton, List.singleton_append,
      List.dropWhile_cons_of_neg (by decide), List.reverse_cons, List.reverse_reverse]
  unfold Text.trim
  rwa [hright]

theorem afterPrefix?_eq_some {lead : List Char} (h : afterPrefix? lead s = some rest) :
    s = lead ++ rest := by
  induction lead generalizing s with
  | nil => exact Option.some.inj h
  | cons a lead ih =>
    cases s with
    | nil => cases h
    | cons c s =>
      unfold afterPrefix? at h
      split at h
      · rename_i hc
        rw [hc, ih h, List.cons_append]
      · cases h

theorem afterPrefix?_suffix {lead : List Char} (h : afterPrefix? lead s = some rest) :
    rest <:+ s :=
  ⟨lead, (afterPrefix?_eq_some h).symm⟩

theorem mem_afterPrefix? {lead : List Char} (h : afterPrefix? lead s = some rest) (hs : c ∈ s)
    (hc : c ∉ lead) : c ∈ rest := by
  rw [afterPrefix?_eq_some h] at hs
  exact (List.mem_append.mp hs).resolve_left hc

theorem afterBlanks?_eq_some (h : afterBlanks? s = some rest) : rest = trimLeft s := by
  rw [afterBlanks?_eq] at h
  split at h
  · exact (Option.some.inj h).symm
  · cases h

theorem trimLeft_suffix (s : List Char) : trimLeft s <:+ s := List.dropWhile_suffix isBlank

theorem mem_trimLeft (h : c ∈ s) (hc : isBlank c = false) : c ∈ trimLeft s := mem_dropWhile h hc

theorem identifier?_eq_some {name : List Char} (h : identifier? s = some (name, rest)) :
    s = name ++ rest ∧ isIdentifier name = true := by
  cases s with
  | nil => cases h
  | cons c s =>
    rw [identifier?] at h
    split at h
    · rename_i hstart
      cases h
      refine ⟨by rw [List.cons_append, List.takeWhile_append_dropWhile], ?_⟩
      simp only [isIdentifier, hstart, Bool.true_and, List.all_eq_true]
      exact fun d hd => List.mem_takeWhile_imp hd
    · cases h

theorem identifier?_suffix {name : List Char} (h : identifier? s = some (name, rest)) :
    rest <:+ s :=
  ⟨name, (identifier?_eq_some h).1.symm⟩

theorem mem_identifier? {name : List Char} (h : identifier? s = some (name, rest)) (hs : c ∈ s)
    (hc : isWord c = false) (hstart : isIdentifierStart c = false) : c ∈ rest := by
  cases s with
  | nil => cases h
  | cons d s =>
    rw [identifier?] at h
    split at h
    · rename_i hd
      cases h
      refine mem_dropWhile ((List.mem_cons.mp hs).resolve_left ?_) hc
      rintro rfl
      rw [hd] at hstart
      cases hstart
    · cases h

end Suffixes

section Forms

theorem isHeader_of_mem (h : '\x7d' ∈ s) : isHeader s = false := by
  unfold isHeader
  split
  · rename_i version hversion
    obtain ⟨rest, hrest, hblanks⟩ := Option.bind_eq_some_iff.mp hversion
    have hmem : '\x7d' ∈ version := by
      rw [afterBlanks?_eq_some hblanks]
      exact mem_trimLeft (mem_afterPrefix? hrest h (by decide)) (by decide)
    have hall : version.all (fun c => isDigit c || c = '.') = false :=
      List.all_eq_false.mpr ⟨_, hmem, by decide⟩
    rw [hall, Bool.and_false]
  · rfl

theorem isInclude_of_endsBlock (h : EndsBlock s) : isInclude s = false := by
  unfold isInclude
  split
  · rename_i name hname
    obtain ⟨quoted, hquoted, hquote⟩ := Option.bind_eq_some_iff.mp hname
    obtain ⟨rest, hrest, hblanks⟩ := Option.bind_eq_some_iff.mp hquoted
    have hsuffix : name.dropWhile (· ≠ '"') <:+ s := by
      refine (List.dropWhile_suffix _).trans ((afterPrefix?_suffix hquote).trans ?_)
      rw [afterBlanks?_eq_some hblanks]
      exact (trimLeft_suffix rest).trans (afterPrefix?_suffix hrest)
    refine decide_eq_false fun heq => ?_
    rw [heq] at hsuffix
    cases h.suffix hsuffix (by simp)
  · rfl

theorem mem_enclosedDigits? {digits : List Char}
    (h : enclosedDigits? '[' ']' s = some (digits, rest)) (hs : '\x7d' ∈ s) : '\x7d' ∈ rest := by
  unfold enclosedDigits? at h
  obtain ⟨inside, hinside, h⟩ := Option.bind_eq_some_iff.mp h
  obtain ⟨behind, hbehind, h⟩ := Option.bind_eq_some_iff.mp h
  split at h
  · cases h
  · obtain ⟨rfl, rfl⟩ := Prod.mk.inj (Option.some.inj h)
    refine mem_afterPrefix? hbehind ?_ (by decide)
    have hinner := mem_trimLeft (mem_afterPrefix? hinside hs (by decide)) (by decide)
    exact mem_trimLeft (mem_dropWhile hinner (by decide)) (by decide)

theorem declaration?_of_mem (h : '\x7d' ∈ s) : declaration? s = none := by
  by_contra hsome
  obtain ⟨p, hp⟩ := Option.ne_none_iff_exists'.mp hsome
  unfold declaration? at hp
  obtain ⟨⟨kind, rest⟩, hkind, hp⟩ := Option.bind_eq_some_iff.mp hp
  obtain ⟨blank, hblank, hp⟩ := Option.bind_eq_some_iff.mp hp
  obtain ⟨⟨name, size⟩, hname, hp⟩ := Option.bind_eq_some_iff.mp hp
  obtain ⟨⟨digits, more⟩, hdigits, hp⟩ := Option.bind_eq_some_iff.mp hp
  have hrest : '\x7d' ∈ rest := by
    rcases Option.or_eq_some_iff.mp hkind with hkind | ⟨-, hkind⟩
    · obtain ⟨r, hr, heq⟩ := Option.map_eq_some_iff.mp hkind
      cases heq
      exact mem_afterPrefix? hr h (by decide)
    · obtain ⟨r, hr, heq⟩ := Option.map_eq_some_iff.mp hkind
      cases heq
      exact mem_afterPrefix? hr h (by decide)
  rw [afterBlanks?_eq_some hblank] at hname
  have hsize := mem_identifier? hname (mem_trimLeft hrest (by decide)) (by decide) (by decide)
  have hmore := mem_enclosedDigits? hdigits (mem_trimLeft hsize (by decide))
  dsimp only at hp
  split at hp
  · rename_i hnil
    rw [hnil] at hmore
    cases hmore
  · cases hp

theorem reference?_of_mem (h : '\x7d' ∈ s) : reference? s = none := by
  by_contra hsome
  obtain ⟨p, hp⟩ := Option.ne_none_iff_exists'.mp hsome
  unfold reference? at hp
  obtain ⟨⟨name, rest⟩, hname, hp⟩ := Option.bind_eq_some_iff.mp hp
  have hrest := mem_trimLeft (mem_identifier? hname h (by decide) (by decide)) (by decide)
  dsimp only at hp
  split at hp
  · rename_i hnil
    rw [hnil] at hrest
    cases hrest
  · obtain ⟨⟨digits, more⟩, hdigits, hp⟩ := Option.bind_eq_some_iff.mp hp
    have hmore := mem_enclosedDigits? hdigits hrest
    dsimp only at hp
    split at hp
    · rename_i hnil
      rw [hnil] at hmore
      cases hmore
    · cases hp

theorem resolve_of_mem (h : '\x7d' ∈ s) (table : RegisterTable) (kind : RegisterKind)
    (room : Capacity) :
    (resolve table kind s room).toOption = none := by
  unfold resolve
  dsimp only
  rw [reference?_of_mem (mem_trim h (by decide))]
  rfl

theorem mem_commaPieces (h : c ∈ s) (hc : c ≠ ',') (depth : Int) :
    ∃ p ∈ commaPieces depth s, c ∈ p := by
  have honFirst (d : Char) {ps : List (List Char)} (hps : d = c ∨ ∃ p ∈ ps, c ∈ p) :
      ∃ p ∈ onFirst d ps, c ∈ p := by
    cases ps with
    | nil => exact ⟨[d], by simp [onFirst], by simpa [eq_comm] using hps⟩
    | cons p ps =>
      rcases hps with rfl | ⟨q, hq, hmem⟩
      · exact ⟨d :: p, by simp [onFirst], by simp⟩
      · rcases List.mem_cons.mp hq with rfl | hq
        · exact ⟨d :: q, by simp [onFirst], by simp [hmem]⟩
        · exact ⟨q, by simp [onFirst, hq], hmem⟩
  induction s generalizing depth with
  | nil => cases h
  | cons d s ih =>
    rw [commaPieces_cons]
    split
    · rename_i hcomma
      have hne : c ≠ d := by
        rintro rfl
        exact hc (of_decide_eq_true (Bool.and_eq_true_iff.mp hcomma).1)
      obtain ⟨p, hp, hmem⟩ := ih ((List.mem_cons.mp h).resolve_left hne) (depthBehind depth d)
      exact ⟨p, List.mem_cons_of_mem _ hp, hmem⟩
    · refine honFirst d ?_
      rcases List.mem_cons.mp h with rfl | h
      · exact .inl rfl
      · exact .inr (ih h (depthBehind depth d))

theorem mem_commaParts (h : c ∈ s) (hc : c ≠ ',') (hsolid : isBlank c = false) :
    ∃ p ∈ commaParts s, c ∈ p := by
  obtain ⟨p, hp, hmem⟩ := mem_commaPieces h hc 0
  have htrim := mem_trim hmem hsolid
  have hpart := List.mem_map_of_mem (f := trim) hp
  unfold commaParts
  dsimp only
  split
  · rename_i hblank
    rw [hblank, List.mem_singleton] at hpart
    rw [hpart] at htrim
    cases htrim
  · exact ⟨trim p, hpart, htrim⟩

/-- A list of arguments with a brace in it is no list of references. -/
theorem resolveAll_of_mem (h : '\x7d' ∈ s) (table : RegisterTable) (kind : RegisterKind)
    (room : Capacity) : ((commaParts s).mapM (resolve table kind · room)).toOption = none := by
  obtain ⟨p, hp, hmem⟩ := mem_commaParts h (by decide) (by decide)
  cases hspans : (commaParts s).mapM (resolve table kind · room) with
  | error fault => rfl
  | ok spans =>
    obtain ⟨span, -, hspan⟩ := exists_of_forall₂ (mapM_eq_ok.mp hspans).flip hp
    have hnone := resolve_of_mem hmem table kind room
    rw [show resolve table kind p room = .ok span from hspan] at hnone
    cases hnone

end Forms

section Operations

variable {condition : Option Condition} {d : Draft} {room : Capacity}

theorem aroundArrow?_suffix {before after : List Char}
    (h : aroundArrow? s = some (before, after)) : after <:+ s := by
  induction s generalizing before with
  | nil => cases h
  | cons c s ih =>
    unfold aroundArrow? at h
    dsimp only at h
    split at h
    · cases h
      exact (List.suffix_cons _ _).trans (List.suffix_cons _ _)
    · obtain ⟨p, hp, heq⟩ := Option.map_eq_some_iff.mp h
      cases heq
      exact (ih hp).trans (List.suffix_cons c s)

/-- A measurement has an arrow in it, with the second side behind it. -/
theorem measurement?_eq_some {source target : List Char}
    (h : measurement? s = some (source, target)) :
    ∃ tail before, tail <:+ s ∧ aroundArrow? tail = some (before, target) ∧ target ≠ [] := by
  unfold measurement? at h
  obtain ⟨rest, hrest, h⟩ := Option.bind_eq_some_iff.mp h
  have hdrop : rest.dropWhile isBlank <:+ s :=
    (List.dropWhile_suffix isBlank).trans (afterPrefix?_suffix hrest)
  have hside {tail lead before after : List Char} (htail : tail <:+ s)
      (harrow : aroundArrow? tail = some (before, after))
      (h : (if after = [] then none else some (lead ++ before, after)) = some (source, target)) :
      ∃ tail before, tail <:+ s ∧ aroundArrow? tail = some (before, target) ∧ target ≠ [] := by
    split at h
    · cases h
    · rename_i hne
      cases h
      exact ⟨tail, before, htail, harrow, hne⟩
  dsimp only at h
  split at h
  · cases h
  · cases h
  · rename_i b more c tail hblanks hsides
    rcases Option.or_eq_some_iff.mp h with h | ⟨-, h⟩
    · rw [hsides] at hdrop
      split at h
      · rename_i harrow
        exact hside ((List.suffix_cons c tail).trans hdrop) harrow h
      · cases h
    · split at h
      · cases h
      · split at h
        · rename_i harrow
          exact hside hdrop harrow h
        · cases h

/-- The second side of a measurement is the end of the statement. -/
theorem measurement?_suffix {source target : List Char}
    (h : measurement? s = some (source, target)) : target <:+ s ∧ target ≠ [] := by
  obtain ⟨tail, before, htail, harrow, hne⟩ := measurement?_eq_some h
  exact ⟨(aroundArrow?_suffix harrow).trans htail, hne⟩

theorem mem_resetTarget? {target : List Char} (h : resetTarget? s = some target) (hs : '\x7d' ∈ s) :
    '\x7d' ∈ target := by
  unfold resetTarget? at h
  obtain ⟨rest, hrest, h⟩ := Option.bind_eq_some_iff.mp h
  obtain ⟨blanks, hblanks, hrest⟩ := Option.bind_eq_some_iff.mp hrest
  rw [afterBlanks?_eq_some hrest] at h
  split at h
  · cases h
  · cases h
    exact mem_trimLeft (mem_afterPrefix? hblanks hs (by decide)) (by decide)

theorem mem_barrier? {arguments : List Char} (h : barrier? s = some arguments) (hs : '\x7d' ∈ s) :
    '\x7d' ∈ arguments := by
  rw [barrier?_eq] at h
  obtain ⟨rest, hrest, h⟩ := Option.bind_eq_some_iff.mp h
  split at h
  · cases h
  · cases h
    exact mem_afterPrefix? hrest hs (by decide)

theorem mem_callBehind (h : EndsBlock s) (gate : List Char) :
    '\x7d' ∈ (callBehind gate s).qubits := by
  unfold callBehind
  cases hopen : afterPrefix? ['('] s with
  | none => exact h.mem
  | some inside =>
    rw [Option.bind_some]
    cases hclose : aroundLast? ')' inside with
    | none => exact h.mem
    | some p =>
      obtain ⟨parameters, qubits⟩ := p
      have hsuffix : ')' :: qubits <:+ s := by
        refine List.IsSuffix.trans ?_ (afterPrefix?_suffix hopen)
        exact ⟨parameters, (aroundLast?_eq_some hclose).1.symm⟩
      have hmem := (h.suffix hsuffix (by simp)).mem
      exact mem_trimLeft ((List.mem_cons.mp hmem).resolve_left (by decide)) (by decide)

theorem mem_call? {form : CallForm} (h : EndsBlock s) (hform : call? s = some form) :
    '\x7d' ∈ form.qubits := by
  rw [call?_eq] at hform
  obtain ⟨⟨gate, rest⟩, hname, rfl⟩ := Option.map_eq_some_iff.mp hform
  have hmem := mem_trimLeft (mem_identifier? hname h.mem (by decide) (by decide)) (by decide)
  have hsuffix : trimLeft rest <:+ s := (trimLeft_suffix rest).trans (identifier?_suffix hname)
  exact mem_callBehind (h.suffix hsuffix (List.ne_nil_of_mem hmem)) gate

/-- No operation ends with a block. -/
theorem operation_of_endsBlock (h : EndsBlock s) :
    (d.operation condition s room).toOption = none := by
  cases operation_reading s with
  | measurement source target hmeasurement =>
    obtain ⟨hsuffix, hne⟩ := measurement?_suffix hmeasurement
    rw [operation_measurement hmeasurement]
    simp [toOption_bind, resolve_of_mem (h.suffix hsuffix hne).mem]
  | reset target hmeasurement hreset =>
    rw [operation_reset hmeasurement hreset]
    simp [toOption_map, resolve_of_mem (mem_resetTarget? hreset h.mem)]
  | barrier arguments hmeasurement hreset hbarrier =>
    rw [operation_barrier hmeasurement hreset hbarrier]
    simp [toOption_map, resolveAll_of_mem (mem_barrier? hbarrier h.mem)]
  | call form hcall hqubits =>
    rw [hcall.operation_eq hqubits]
    unfold Draft.call
    simp [toOption_bind, resolveAll_of_mem (mem_call? h hcall.call)]
  | nothing hnothing =>
    rw [hnothing]
    rfl

end Operations

section Statements

theorem infix_of_block? {qubits body : List Char} (h : block? s = some (qubits, body)) :
    body <:+: s := by
  rw [block?_eq] at h
  obtain ⟨⟨before, rest⟩, hrest, h⟩ := Option.bind_eq_some_iff.mp h
  dsimp only at h
  split at h
  · cases h
    have hsuffix : rest <:+ s :=
      ⟨qubits ++ ['\x7b'], by rw [around?_eq_some hrest, List.append_assoc, List.singleton_append]⟩
    exact (List.dropLast_prefix rest).isInfix.trans hsuffix.isInfix
  · cases h

theorem infix_of_definitionOf {name parameters : List Char} {form : DefinitionForm}
    (h : definitionOf name parameters s = some form) : form.body <:+: s := by
  obtain ⟨⟨qubits, body⟩, hblock, rfl⟩ := Option.map_eq_some_iff.mp h
  exact infix_of_block? hblock

/-- A definition is read off what stands behind its name. -/
theorem definition?_eq_some {form : DefinitionForm} (h : definition? s = some form) :
    ∃ name rest, isIdentifier name = true ∧ rest <:+ s ∧
      definitionBehind name rest = some form := by
  rw [definition?_eq] at h
  obtain ⟨⟨name, rest⟩, hname, h⟩ := Option.bind_eq_some_iff.mp h
  obtain ⟨word, hword, hname⟩ := Option.bind_eq_some_iff.mp hname
  obtain ⟨blanks, hblanks, hword⟩ := Option.bind_eq_some_iff.mp hword
  refine ⟨name, trimLeft rest, (identifier?_eq_some hname).2, ?_, h⟩
  refine (trimLeft_suffix rest).trans ((identifier?_suffix hname).trans ?_)
  rw [afterBlanks?_eq_some hword]
  exact (trimLeft_suffix blanks).trans (afterPrefix?_suffix hblanks)

/-- The body of a definition stands in it. -/
theorem infix_of_definition? {form : DefinitionForm} (h : definition? s = some form) :
    form.body <:+: s := by
  obtain ⟨name, rest, -, hrest, h⟩ := definition?_eq_some h
  rcases Option.or_eq_some_iff.mp h with h | ⟨-, h⟩
  · obtain ⟨⟨parameters, behind⟩, hparameters, h⟩ := Option.bind_eq_some_iff.mp h
    obtain ⟨inside, hopen, hclose⟩ := Option.bind_eq_some_iff.mp hparameters
    have hbehind : behind <:+: inside := by
      refine ⟨parameters ++ [')'], [], ?_⟩
      rw [around?_eq_some hclose]
      simp
    have hinside : inside <:+: s := ((afterPrefix?_suffix hopen).trans hrest).isInfix
    exact (infix_of_definitionOf h).trans (hbehind.trans hinside)
  · exact (infix_of_definitionOf h).trans hrest.isInfix

/-- The operation under a condition is the end of the statement, but for blanks. -/
theorem endsBlock_conditional? {register value operation : List Char} (h : EndsBlock s)
    (hform : conditional? s = some (register, value, operation)) : EndsBlock operation := by
  unfold conditional? at hform
  obtain ⟨rest, hif, hform⟩ := Option.bind_eq_some_iff.mp hform
  obtain ⟨inside, hopen, hform⟩ := Option.bind_eq_some_iff.mp hform
  obtain ⟨⟨name, sign⟩, hname, hform⟩ := Option.bind_eq_some_iff.mp hform
  obtain ⟨number, hsign, hform⟩ := Option.bind_eq_some_iff.mp hform
  obtain ⟨behind, hclose, hform⟩ := Option.bind_eq_some_iff.mp hform
  have hinside : inside <:+ s :=
    (afterPrefix?_suffix hopen).trans ((trimLeft_suffix rest).trans (afterPrefix?_suffix hif))
  have hsignSuffix : sign <:+ s :=
    (identifier?_suffix hname).trans ((trimLeft_suffix inside).trans hinside)
  have hnumber : number <:+ s :=
    (afterPrefix?_suffix hsign).trans ((trimLeft_suffix sign).trans hsignSuffix)
  have hdigits : (trimLeft number).dropWhile isDigit <:+ s :=
    (List.dropWhile_suffix isDigit).trans ((trimLeft_suffix number).trans hnumber)
  have hbehind : behind <:+ s :=
    (afterPrefix?_suffix hclose).trans ((trimLeft_suffix _).trans hdigits)
  dsimp only at hform
  split at hform
  · cases hform
  · rename_i hne
    cases hform
    refine (h.suffix hbehind ?_).trim
    rintro rfl
    simp at hne

/-- A piece that opens a brace, or begins inside one, ends with the brace that closes it. -/
theorem Piece.endsBlock {depth : Nat} {p : List Char} (h : Piece depth p)
    (hopen : 0 < depth ∨ '\x7b' ∈ p) : EndsBlock p := by
  induction h with
  | nil => simp at hopen
  | last => rfl
  | opening _ ih => exact (ih (.inl (by omega))).cons _
  | closing _ ih => exact (ih (.inl (by omega))).cons _
  | letter hne _ _ _ ih =>
    have hmem := hopen.imp_right fun hmem => (List.mem_cons.mp hmem).resolve_left hne.symm
    exact (ih hmem).cons _

theorem split_endsBlock {statements : List (List Char)} (h : split s = .ok statements) :
    ∀ x ∈ statements, '\x7b' ∈ x → EndsBlock x := by
  obtain ⟨ps, hps, rfl⟩ := map_eq_ok.mp h
  intro x hx hopen
  obtain ⟨p, hp, rfl⟩ := List.mem_map.mp (List.mem_filter.mp hx).1
  have hmem := (trimLeft_suffix p).subset ((prefix_trimRight _).subset hopen)
  exact ((piece_of_mem hps hp).endsBlock (.inr hmem)).trim

theorem form_of_endsBlock (h : EndsBlock s) (hopen : '\x7b' ∈ s) :
    Form.of s = ((definition? (trim s)).map Form.definition).getD
      (((conditional? (trim s)).map fun p => .conditional p.1 p.2.1 p.2.2).getD
        (.operation (trim s))) := by
  have htidy : tidy s = trim s := if_pos (by simpa using hopen)
  unfold Form.of
  simp only [htidy, isHeader_of_mem h.trim.mem, isInclude_of_endsBlock h.trim,
    declaration?_of_mem h.trim.mem, Bool.or_self, Bool.false_eq_true, if_false]
  cases definition? (trim s) with
  | some form => rfl
  | none => cases conditional? (trim s) <;> rfl

/-- Of a statement that ends with a block only a gate definition can be made. -/
theorem statement_of_endsBlock {d : Draft} {room : Capacity} (h : EndsBlock s)
    (hopen : '\x7b' ∈ s) : (d.statement s room).toOption =
      (definition? (trim s)).bind fun form => (d.define form).toOption := by
  have hform := form_of_endsBlock h hopen
  cases hdefinition : definition? (trim s) with
  | some form =>
    rw [hdefinition] at hform
    rw [Draft.statement_definition hform]
    rfl
  | none =>
    rw [hdefinition, Option.map_none, Option.getD_none] at hform
    cases hcondition : conditional? (trim s) with
    | none =>
      rw [hcondition] at hform
      rw [Draft.statement_operation hform]
      exact operation_of_endsBlock h.trim
    | some p =>
      obtain ⟨register, value, text⟩ := p
      rw [hcondition] at hform
      rw [Draft.statement_conditional hform]
      simp [toOption_bind, operation_of_endsBlock (endsBlock_conditional? h.trim hcondition)]

end Statements

end CircuitConsole.Statement
