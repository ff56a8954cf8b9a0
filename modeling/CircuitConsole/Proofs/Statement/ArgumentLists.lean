import CircuitConsole.Proofs.Expression.Names
import CircuitConsole.Proofs.Expression.ReadCharacters
import CircuitConsole.Proofs.Statement.Blocks

/-!
Lists of expressions and of references to bits, written with commas between them. A list is cut at
these commas into what it was put together from, since an expression with a value has commas only
inside of parentheses, and a reference to bits has none.
-/

namespace CircuitConsole.Statement

open Expression Text

section Lists

variable {p : List Char} {parts : List (List Char)}

def joined (parts : List (List Char)) : List Char := [','].intercalate parts

theorem joined_cons_cons (p q : List Char) (parts : List (List Char)) :
    joined (p :: q :: parts) = p ++ ',' :: joined (q :: parts) := by
  rw [joined, joined, List.intercalate_cons_cons, List.append_assoc, List.singleton_append]

theorem joined_cons (c : Char) (p : List Char) (parts : List (List Char)) :
    joined ((c :: p) :: parts) = c :: joined (p :: parts) := by
  cases parts with
  | nil => rfl
  | cons q parts => rw [joined_cons_cons, joined_cons_cons, List.cons_append]

theorem not_mem_joined {c : Char} (hcomma : c ≠ ',') (h : ∀ p ∈ parts, c ∉ p) :
    c ∉ joined parts := by
  intro hmem
  rcases mem_intercalate hmem with hmem | ⟨p, hp, hmem⟩
  · exact hcomma (List.mem_singleton.mp hmem)
  · exact h p hp hmem

/-- What a list is cut into makes the list. -/
theorem joined_commaPieces (depth : Int) (s : List Char) : joined (commaPieces depth s) = s := by
  induction s generalizing depth with
  | nil => rfl
  | cons c s ih =>
    obtain ⟨p, ps, hpieces⟩ :=
      List.exists_cons_of_ne_nil (commaPieces_ne_nil (depthBehind depth c) s)
    have hs := ih (depthBehind depth c)
    rw [commaPieces_cons]
    rw [hpieces] at hs ⊢
    split
    · rename_i hcut
      obtain rfl : c = ',' := of_decide_eq_true (Bool.and_eq_true_iff.mp hcut).1
      rw [joined_cons_cons, hs, List.nil_append]
    · rw [onFirst, joined_cons, hs]

theorem foldr_onFirst (p q : List Char) (ps : List (List Char)) :
    p.foldr onFirst (q :: ps) = (p ++ q) :: ps := by
  induction p with
  | nil => rfl
  | cons c p ih => rw [List.foldr_cons, ih, onFirst, List.cons_append]

def Uncut (p : List Char) : Prop :=
  ∀ rest, commaPieces 0 (p ++ rest) = p.foldr onFirst (commaPieces 0 rest)

theorem uncut_of_not_mem (hopen : '(' ∉ p) (hclose : ')' ∉ p) (hcomma : ',' ∉ p) : Uncut p := by
  intro rest
  induction p with
  | nil => rfl
  | cons c p ih =>
    simp only [List.mem_cons, not_or] at hopen hclose hcomma
    have hdepth : depthBehind 0 c = 0 := by
      simp [depthBehind, Ne.symm hopen.1, Ne.symm hclose.1]
    rw [List.cons_append, commaPieces_cons, hdepth, if_neg (by simp [Ne.symm hcomma.1]),
      ih hopen.2 hclose.2 hcomma.2, List.foldr_cons]

/-- Where parentheses are counted and commas stand inside of them, nothing is cut. -/
theorem commaPieces_counted {depth depth' : Nat} (h : textOpenAfter? depth p = some depth')
    (rest : List Char) : commaPieces depth (p ++ rest) =
      p.foldr onFirst (commaPieces depth' rest) := by
  induction p generalizing depth with
  | nil =>
    obtain rfl := Option.some.inj h
    rfl
  | cons c p ih =>
    obtain ⟨between, hc, h⟩ := counted_of_cons h
    have hstep (hdepth : depthBehind depth c = between) (hcomma : c = ',' → 0 < depth) :
        commaPieces depth (c :: p ++ rest) =
          (c :: p).foldr onFirst (commaPieces depth' rest) := by
      have huncut : (c = ',' && depthBehind depth c == 0) = false := by
        by_cases hc : c = ','
        · have hpos := hcomma hc
          subst hc
          simp only [depthBehind, decide_true, Bool.true_and, beq_eq_false_iff_ne]
          rw [if_neg (by decide), if_neg (by decide)]
          omega
        · simp [hc]
      rw [List.cons_append, commaPieces_cons, huncut, hdepth, ih h]
      rfl
    cases hc with
    | opening hc =>
      subst hc
      exact hstep rfl (by simp)
    | closing hc hdepth =>
      subst hc hdepth
      exact hstep (by simp [depthBehind]) (by simp)
    | comma hc hdepth =>
      subst hc
      exact hstep rfl fun _ => hdepth
    | term hc hslash =>
      have hne (d : Char) (hd : isTermCharacter d = false) : c ≠ d := by
        rintro rfl
        rw [hd] at hc
        cases hc
      exact hstep (by simp [depthBehind, hne '(' (by decide), hne ')' (by decide)])
        fun h => absurd h (hne ',' (by decide))

theorem commaPieces_joined (h : ∀ p ∈ parts, Uncut p) (hne : parts ≠ []) :
    commaPieces 0 (joined parts) = parts := by
  induction parts with
  | nil => exact absurd rfl hne
  | cons p parts ih =>
    obtain ⟨hp, hparts⟩ := List.forall_mem_cons.mp h
    cases parts with
    | nil =>
      have hread := hp []
      rw [List.append_nil] at hread
      rw [joined, List.intercalate_singleton, hread]
      change p.foldr onFirst [[]] = [p]
      rw [foldr_onFirst, List.append_nil]
    | cons q parts =>
      have hcomma (s : List Char) : commaPieces 0 (',' :: s) = [] :: commaPieces 0 s := rfl
      rw [joined_cons_cons, hp, hcomma, foldr_onFirst, List.append_nil,
        ih hparts (List.cons_ne_nil q parts)]

/-- A list is cut into its parts. -/
theorem commaParts_joined (h : ∀ p ∈ parts, Uncut p) (hsolid : ∀ p ∈ parts, trim p ≠ []) :
    commaParts (joined parts) = parts.map trim := by
  cases parts with
  | nil => rfl
  | cons p parts =>
    have hp : trim p ≠ [] := hsolid p (List.mem_cons_self ..)
    unfold commaParts
    rw [commaPieces_joined h (List.cons_ne_nil p parts)]
    dsimp only
    rw [if_neg]
    intro hblank
    exact hp (List.cons.inj hblank).1

/-- Blanks in front of a list make no difference. -/
theorem commaParts_trimLeft (s : List Char) : commaParts (trimLeft s) = commaParts s := by
  have hblank {c : Char} (hc : isBlank c = true) (s : List Char) :
      (commaPieces 0 (c :: s)).map trim = (commaPieces 0 s).map trim := by
    have hne (d : Char) (hd : isBlank d = false) : c ≠ d := by
      rintro rfl
      rw [hc] at hd
      cases hd
    have hdepth : depthBehind 0 c = 0 := by
      simp [depthBehind, hne '(' (by decide), hne ')' (by decide)]
    rw [commaPieces_cons, hdepth, if_neg (by simp [hne ',' (by decide)])]
    cases hpieces : commaPieces 0 s with
    | nil => exact absurd hpieces (commaPieces_ne_nil 0 s)
    | cons p ps =>
      have htrim : trim (c :: p) = trim p :=
        trim_append_left (b := [c]) (List.forall_mem_singleton.mpr hc) p
      rw [onFirst, List.map_cons, List.map_cons, htrim]
  have hpieces : (commaPieces 0 (trimLeft s)).map trim = (commaPieces 0 s).map trim := by
    induction s with
    | nil => rfl
    | cons c s ih =>
      cases hc : isBlank c with
      | false => rw [trimLeft, List.dropWhile_cons_of_neg (by simp [hc])]
      | true => rw [hblank hc, ← ih, trimLeft, List.dropWhile_cons_of_pos hc, trimLeft]
  rw [commaParts, commaParts, hpieces]

end Lists

section References

variable {s rest a : List Char}

def isReferenceCharacter (c : Char) : Bool :=
  isWord c || isDigit c || isBlank c || c = '[' || c = ']'

theorem isReferenceCharacter_of_isWord {c : Char} (h : isWord c = true) :
    isReferenceCharacter c = true := by
  simp [isReferenceCharacter, h]

theorem isReferenceCharacter_of_isBlank {c : Char} (h : isBlank c = true) :
    isReferenceCharacter c = true := by
  simp [isReferenceCharacter, h]

/-- No identifier begins with a digit, of whatever script. -/
theorem not_isDigit_of_isIdentifierStart {c : Char} (h : isIdentifierStart c = true) :
    isDigit c = false := by
  have hzeros : ∀ z ∈ digitZeros, z = 48 ∨ 128 ≤ z := by decide
  have hle {a b : Char} (h : a ≤ b) : a.toNat ≤ b.toNat := h
  have hletter : 65 ≤ c.toNat ∧ c.toNat < 128 := by
    simp only [isIdentifierStart, isAsciiLetter, Bool.or_eq_true, Bool.and_eq_true,
      decide_eq_true_eq, beq_iff_eq] at h
    rcases h with (⟨hlow, hhigh⟩ | ⟨hlow, hhigh⟩) | rfl
    · exact ⟨le_trans (by decide) (hle hlow), lt_of_le_of_lt (hle hhigh) (by decide)⟩
    · exact ⟨le_trans (by decide) (hle hlow), lt_of_le_of_lt (hle hhigh) (by decide)⟩
    · decide
  by_contra hdigit
  rw [Bool.not_eq_false, isDigit, digitValue?, Option.isSome_map, List.find?_isSome] at hdigit
  obtain ⟨z, hz, hrange⟩ := hdigit
  simp only [Bool.and_eq_true, decide_eq_true_eq] at hrange
  rcases hzeros z hz with rfl | hz
  · omega
  · omega

theorem identifier?_append {name : List Char} {c : Char} (hname : isIdentifier name = true)
    (hc : isWord c = false) (t : List Char) :
    identifier? (name ++ c :: t) = some (name, c :: t) := by
  cases name with
  | nil => cases hname
  | cons d name =>
    obtain ⟨hd, hword⟩ := Bool.and_eq_true_iff.mp hname
    have hword : ∀ e ∈ name, isWord e = true := List.all_eq_true.mp hword
    rw [List.cons_append, identifier?, if_pos hd, List.takeWhile_append_of_pos hword,
      List.dropWhile_append_of_pos hword, List.takeWhile_cons_of_neg (by simp [hc]),
      List.dropWhile_cons_of_neg (by simp [hc]), List.append_nil]

/-- The characters in front of what is trimmed off on the left. -/
theorem forall_mem_of_trimLeft {p : Char → Prop} (hblank : ∀ c, isBlank c = true → p c)
    (h : ∀ c ∈ trimLeft s, p c) : ∀ c ∈ s, p c := by
  intro c hc
  rw [← List.takeWhile_append_dropWhile (p := isBlank) (l := s)] at hc
  rcases List.mem_append.mp hc with hc | hc
  · exact hblank c (List.mem_takeWhile_imp hc)
  · exact h c hc

theorem mem_enclosed {digits : List Char} (h : enclosedDigits? '[' ']' s = some (digits, [])) :
    '[' ∈ s ∧ ∀ c ∈ s, isReferenceCharacter c = true := by
  unfold enclosedDigits? at h
  obtain ⟨inside, hinside, h⟩ := Option.bind_eq_some_iff.mp h
  obtain ⟨behind, hbehind, h⟩ := Option.bind_eq_some_iff.mp h
  split at h
  · cases h
  · cases h
    have hclose := afterPrefix?_eq_some hbehind
    have hs : s = '[' :: inside := afterPrefix?_eq_some hinside
    rw [hs]
    refine ⟨List.mem_cons_self .., List.forall_mem_cons.mpr ⟨by decide, ?_⟩⟩
    refine forall_mem_of_trimLeft (fun c => isReferenceCharacter_of_isBlank) fun c hc => ?_
    rw [← List.takeWhile_append_dropWhile (p := isDigit) (l := trimLeft inside)] at hc
    rcases List.mem_append.mp hc with hc | hc
    · simp [isReferenceCharacter, List.mem_takeWhile_imp hc]
    · refine forall_mem_of_trimLeft (fun c => isReferenceCharacter_of_isBlank) ?_ c hc
      rw [hclose]
      exact List.forall_mem_singleton.mpr (by decide)

theorem mem_indexed {name digits : List Char} (hname : identifier? s = some (name, rest))
    (h : enclosedDigits? '[' ']' (trimLeft rest) = some (digits, [])) :
    '[' ∈ s ∧ ∀ c ∈ s, isReferenceCharacter c = true := by
  obtain ⟨rfl, hidentifier⟩ := identifier?_eq_some hname
  obtain ⟨hopen, hinside⟩ := mem_enclosed h
  refine ⟨List.mem_append_right name ((trimLeft_suffix rest).subset hopen), ?_⟩
  refine List.forall_mem_append.mpr ⟨fun c hc => ?_, ?_⟩
  · exact isReferenceCharacter_of_isWord (isWord_of_isIdentifier hidentifier c hc)
  · exact forall_mem_of_trimLeft (fun c => isReferenceCharacter_of_isBlank) hinside

structure ReferenceText (a : List Char) : Prop where
  starts : ∃ c rest, trimLeft a = c :: rest ∧ isIdentifierStart c = true
  characters : ∀ c ∈ a, isReferenceCharacter c = true

theorem mem_of_reference? {p : List Char × Option (List Char)} (h : reference? s = some p) :
    (∃ c rest, s = c :: rest ∧ isIdentifierStart c = true) ∧
      ∀ c ∈ s, isReferenceCharacter c = true := by
  unfold reference? at h
  obtain ⟨⟨name, rest⟩, hname, h⟩ := Option.bind_eq_some_iff.mp h
  obtain ⟨hs, hidentifier⟩ := identifier?_eq_some hname
  refine ⟨?_, ?_⟩
  · cases name with
    | nil => cases hidentifier
    | cons c name => exact ⟨c, name ++ rest, hs, (Bool.and_eq_true_iff.mp hidentifier).1⟩
  · dsimp only at h
    split at h
    · rename_i hnil
      rw [hs]
      refine List.forall_mem_append.mpr ⟨fun c hc => ?_, ?_⟩
      · exact isReferenceCharacter_of_isWord (isWord_of_isIdentifier hidentifier c hc)
      · refine forall_mem_of_trimLeft (fun c => isReferenceCharacter_of_isBlank) ?_
        rw [hnil]
        exact List.forall_mem_nil _
    · obtain ⟨⟨digits, behind⟩, hdigits, h⟩ := Option.bind_eq_some_iff.mp h
      dsimp only at h
      split at h
      · rename_i hend
        subst hend
        exact (mem_indexed hname hdigits).2
      · cases h

theorem referenceText_of_resolve {table : RegisterTable} {kind : RegisterKind} {span : Span}
    {room : Capacity} (h : resolve table kind a room = .ok span) : ReferenceText a := by
  unfold resolve at h
  dsimp only at h
  split at h
  · cases h
  · rename_i name place hreference
    obtain ⟨⟨c, rest, htrim, hstart⟩, hcharacters⟩ := mem_of_reference? hreference
    obtain ⟨b, b', hb, hb', ha⟩ := exists_blanks_trim a
    constructor
    · have hleft : trim a <+: trimLeft a := prefix_trimRight (trimLeft a)
      obtain ⟨more, hmore⟩ := hleft
      rw [htrim] at hmore
      exact ⟨c, rest ++ more, hmore.symm, hstart⟩
    · rw [ha]
      refine List.forall_mem_append.mpr ⟨fun c hc => ?_, List.forall_mem_append.mpr
        ⟨hcharacters, fun c hc => ?_⟩⟩
      · exact isReferenceCharacter_of_isBlank (hb c hc)
      · exact isReferenceCharacter_of_isBlank (hb' c hc)

theorem ReferenceText.not_mem (h : ReferenceText a) {c : Char}
    (hc : isReferenceCharacter c = false) : c ∉ a := by
  intro hmem
  rw [h.characters c hmem] at hc
  cases hc

theorem ReferenceText.solid (h : ReferenceText a) : trim a ≠ [] := by
  obtain ⟨c, rest, ha, hc⟩ := h.starts
  have hmem : c ∈ a := (trimLeft_suffix a).subset (ha ▸ List.mem_cons_self ..)
  have hsolid : isBlank c = false := isBlank_of_isWord (isWord_of_isIdentifierStart hc)
  obtain ⟨b, b', hb, hb', hs⟩ := exists_blanks_trim a
  intro hnil
  rw [hs, hnil, List.nil_append] at hmem
  have hblank : isBlank c = true := (List.mem_append.mp hmem).elim (hb c) (hb' c)
  rw [hsolid] at hblank
  cases hblank

theorem ReferenceText.uncut (h : ReferenceText a) : Uncut a :=
  uncut_of_not_mem (h.not_mem (by decide)) (h.not_mem (by decide)) (h.not_mem (by decide))

end References

end CircuitConsole.Statement
