import CircuitConsole.Expression.Evaluation
import CircuitConsole.Proofs.Expression.Numerals
import CircuitConsole.Proofs.Success

/-!
Expressions and their layout. A line end counts as a blank inside brackets, and elsewhere it ends
the expression, or a comment, or joins two lines behind a backslash. An expression is unbroken when
its line ends are all blanks and nothing in it is quoted. It then has the same tokens condensed, and
so the same value, or none.
-/

namespace CircuitConsole.Expression

open Text

variable {c : Char} {s w : List Char}

def isOpening (c : Char) : Bool := c = '(' || c = '[' || c = '\x7b'

def isClosing (c : Char) : Bool := c = ')' || c = ']' || c = '\x7d'

/-- Whether, at a depth of open brackets, every line end stands inside brackets, and none in or
behind a comment or right behind a backslash; and whether no text is quoted. -/
def isUnbroken : Nat → List Char → Bool
  | _, [] => true
  | depth, c :: rest =>
    if isLineEnd c then 0 < depth && isUnbroken depth rest
    else if c = '#' then !rest.any isLineEnd
    else if c = '\\' then !rest.head?.any isLineEnd && isUnbroken depth rest
    else if c = '\'' || c = '"' then false
    else if isOpening c then isUnbroken (depth + 1) rest
    else if isClosing c then isUnbroken (depth - 1) rest
    else isUnbroken depth rest

def Unbroken (s : List Char) : Prop := isUnbroken 0 (trim s) = true

instance (s : List Char) : Decidable (Unbroken s) :=
  inferInstanceAs (Decidable (isUnbroken 0 (trim s) = true))

section Unbroken

variable {depth : Nat}

theorem isUnbroken_cons (hc : isInner c = true) (s : List Char) :
    isUnbroken depth (c :: s) = isUnbroken depth s := by
  have hmem : c ∉ outerSigns := by simpa [isInner] using hc
  simp only [outerSigns, List.mem_cons, List.not_mem_nil, or_false, not_or] at hmem
  simp [isUnbroken, isLineEnd, isOpening, isClosing, hmem]

theorem isUnbroken_append (hw : ∀ c ∈ w, isInner c = true) (s : List Char) :
    isUnbroken depth (w ++ s) = isUnbroken depth s := by
  induction w with
  | nil => rfl
  | cons c w ih =>
    rw [List.cons_append, isUnbroken_cons (hw c (List.mem_cons_self ..)),
      ih fun x hx => hw x (List.mem_cons_of_mem _ hx)]

theorem isUnbroken_lineEnd (hc : isLineEnd c = true) :
    isUnbroken depth (c :: s) = true ↔ 0 < depth ∧ isUnbroken depth s = true := by
  rw [isUnbroken, if_pos hc, Bool.and_eq_true, decide_eq_true_eq]

theorem isUnbroken_layout (hc : isLayout c = true) (h : isUnbroken depth (c :: s) = true) :
    isUnbroken depth s = true ∧ (isLineEnd c = true → 0 < depth) := by
  cases hend : isLineEnd c with
  | true =>
    obtain ⟨hdepth, hs⟩ := (isUnbroken_lineEnd hend).mp h
    exact ⟨hs, fun _ => hdepth⟩
  | false =>
    have hcases : c = ' ' ∨ c = '\t' := by
      simpa [isLayout, not_or.mp (by simpa [isLineEnd] using hend)] using hc
    rcases hcases with rfl | rfl <;> exact ⟨h, by simp⟩

theorem isUnbroken_comment : isUnbroken depth ('#' :: s) = !s.any isLineEnd := rfl

theorem isUnbroken_backslash :
    isUnbroken depth ('\\' :: s) = (!s.head?.any isLineEnd && isUnbroken depth s) := rfl

theorem isUnbroken_opening (hc : isOpening c = true) :
    isUnbroken depth (c :: s) = isUnbroken (depth + 1) s := by
  have hcases : c = '(' ∨ c = '[' ∨ c = '\x7b' := by simpa [isOpening, or_assoc] using hc
  rcases hcases with rfl | rfl | rfl <;> rfl

theorem isUnbroken_closing (hc : isClosing c = true) :
    isUnbroken depth (c :: s) = isUnbroken (depth - 1) s := by
  have hcases : c = ')' ∨ c = ']' ∨ c = '\x7d' := by simpa [isClosing, or_assoc] using hc
  rcases hcases with rfl | rfl | rfl <;> rfl

theorem head_of_isUnbroken (h : isUnbroken depth s = true) :
    s.head? ≠ some '\'' ∧ s.head? ≠ some '"' := by
  constructor <;> intro hhead <;> obtain ⟨s, rfl⟩ := List.head?_eq_some_iff.mp hhead <;> cases h

theorem isUnbroken_unifyLineEnds (h : isUnbroken depth s = true) :
    isUnbroken depth (unifyLineEnds s) = true := by
  have hany := any_unifyLineEnds (p := isLineEnd) rfl
  have hhead := any_head_unifyLineEnds (p := isLineEnd) rfl
  fun_induction unifyLineEnds s generalizing depth with
  | case1 => rfl
  | case2 rest ih =>
    obtain ⟨hdepth, h⟩ := (isUnbroken_lineEnd rfl).mp h
    exact (isUnbroken_lineEnd rfl).mpr ⟨hdepth, ih ((isUnbroken_lineEnd rfl).mp h).2⟩
  | case3 rest _ ih =>
    obtain ⟨hdepth, h⟩ := (isUnbroken_lineEnd rfl).mp h
    exact (isUnbroken_lineEnd rfl).mpr ⟨hdepth, ih h⟩
  | case4 c rest _ _ ih =>
    simp only [isUnbroken, hany, hhead] at h ⊢
    split_ifs at h ⊢ <;> simp_all

end Unbroken

section Tokens

theorem noBracket_symbol {x : String} (h : ∀ c ∈ x.toList, isInner c = true) :
    NoBracket (.symbol x) := by
  have hne (b : String) (hb : b.toList.all isInner = false) : x ≠ b := by
    rintro rfl
    simp [List.all_eq_true.mpr h] at hb
  intro brackets
  simp [bracketsAfter?, hne "(" (by decide), hne "[" (by decide), hne "\x7b" (by decide),
    hne ")" (by decide), hne "]" (by decide), hne "\x7d" (by decide)]

def symbolOf? (n : Nat) (symbols : List String) (s : List Char) : Option (Token × List Char) :=
  let lead := String.ofList (s.take n)
  if symbols.contains lead then some (.symbol lead, s.drop n) else none

section Symbols

variable {n : Nat} {symbols : List String} {x : String}

theorem symbolOf?_append (hx : x ∈ symbols) (hlength : x.toList.length = n) (rest : List Char) :
    symbolOf? n symbols (x.toList ++ rest) = some (.symbol x, rest) := by
  subst hlength
  simp [symbolOf?, hx]

theorem symbolOf?_eq_none (h : ∀ x ∈ symbols, ¬ x.toList <+: s) : symbolOf? n symbols s = none := by
  unfold symbolOf?
  rw [if_neg]
  intro hcontains
  refine h _ (by simpa using hcontains) ?_
  rw [String.toList_ofList]
  exact List.take_prefix n s

theorem symbolOf?_alike (hlength : ∀ x ∈ symbols, x.toList.length = n)
    (htight : ∀ x ∈ symbols, Tight x.toList)
    (hinner : ∀ x ∈ symbols, x.toList <+: s → ∀ c ∈ x.toList, isInner c = true) :
    ReadsAlike NoBracket s (symbolOf? n symbols s) (symbolOf? n symbols (condense s)) := by
  by_cases h : ∃ x ∈ symbols, x.toList <+: s
  · obtain ⟨x, hx, rest, rfl⟩ := h
    have hin := hinner x hx (List.prefix_append _ _)
    rw [condense_tight_append (htight x hx), symbolOf?_append hx (hlength x hx),
      symbolOf?_append hx (hlength x hx)]
    exact .some hin (noBracket_symbol hin) rest
  · rw [symbolOf?_eq_none fun x hx hlead => h ⟨x, hx, hlead⟩, symbolOf?_eq_none fun x hx hlead =>
      h ⟨x, hx, (prefix_condense (htight x hx)).mp hlead⟩]
    exact .none s

end Symbols

theorem symbol?_eq (s : List Char) : symbol? s =
    (symbolOf? 3 symbols3 s).or ((symbolOf? 2 symbols2 s).or (symbolOf? 1 symbols1 s)) := rfl

theorem length_of_symbolOf? {n : Nat} {symbols : List String} {token : Token} {rest : List Char}
    (h : symbolOf? (n + 1) symbols (c :: s) = some (token, rest)) : rest.length ≤ s.length := by
  unfold symbolOf? at h
  dsimp only at h
  split at h
  · cases h
    simp
  · cases h

theorem length_of_symbol? {token : Token} {rest : List Char}
    (h : symbol? (c :: s) = some (token, rest)) : rest.length ≤ s.length := by
  rw [symbol?_eq, Option.or_eq_some_iff, Option.or_eq_some_iff] at h
  rcases h with h | ⟨-, h | ⟨-, h⟩⟩ <;> exact length_of_symbolOf? h

theorem symbol?_alike (hc : isInner c = true) (rest : List Char) :
    ReadsAlike NoBracket rest (symbol? (c :: rest)) (symbol? (c :: condense rest)) := by
  rw [← condense_cons (not_isLayout_of_inner hc)]
  refine ReadsAlike.tail (c := c) ?_ fun token s h => length_of_symbol? h
  rw [symbol?_eq, symbol?_eq]
  have hall3 : ∀ x ∈ symbols3, x.toList.all isInner = true := by decide
  have hall2 : ∀ x ∈ symbols2, x.toList.all isInner = true := by decide
  have hall1 : ∀ x ∈ symbols1, x.toList <+: c :: rest → ∀ c ∈ x.toList, isInner c = true := by
    intro x hx hlead d hd
    obtain ⟨e, he⟩ := List.length_eq_one_iff.mp
      ((by decide : ∀ x ∈ symbols1, x.toList.length = 1) x hx)
    rw [he] at hlead hd
    obtain ⟨rfl, -⟩ := List.cons_prefix_cons.mp hlead
    obtain rfl := List.mem_singleton.mp hd
    exact hc
  exact (symbolOf?_alike (by decide) (by decide) fun x hx _ => List.all_eq_true.mp (hall3 x hx)).or
    ((symbolOf?_alike (by decide) (by decide) fun x hx _ => List.all_eq_true.mp (hall2 x hx)).or
      (symbolOf?_alike (by decide) (by decide) hall1))

def isName : List Char → Bool
  | [] => false
  | c :: cs => isNameStart c && cs.all isNameContinue

def plainWord? (letters rest : List Char) : Option (Token × List Char) :=
  if !isName letters then none
  else if reservedWords.contains (String.ofList letters) then
    some (.word (String.ofList letters), rest)
  else some (.name (String.ofList (normalForm letters)), rest)

theorem wordToken?_of_unquoted (h : (s.dropWhile continuesName).head? ≠ some '\'')
    (h' : (s.dropWhile continuesName).head? ≠ some '"') :
    wordToken? s = plainWord? (s.takeWhile continuesName) (s.dropWhile continuesName) := by
  have hunquoted : ((s.dropWhile continuesName).head? = some '\'' ||
      (s.dropWhile continuesName).head? = some '"') = false := by
    simp [h, h']
  unfold wordToken?
  simp only [hunquoted]
  rfl

theorem wordToken?_alike {depth : Nat} (hc : continuesName c = true)
    (h : isUnbroken depth s = true) :
    ReadsAlike NoBracket s (wordToken? (c :: s)) (wordToken? (c :: condense s)) := by
  have hletters := takeWhile_condense (fun _ => continuesName_of_isLayout) s
  have hrest := dropWhile_condense (fun _ => continuesName_of_isLayout) s
  have hinner : ∀ x ∈ s.takeWhile continuesName, isInner x = true := fun x hx =>
    isInner_of (by decide) (List.mem_takeWhile_imp hx)
  obtain ⟨hsingle, hdouble⟩ : (s.dropWhile continuesName).head? ≠ some '\'' ∧
      (s.dropWhile continuesName).head? ≠ some '"' := by
    rw [← List.takeWhile_append_dropWhile (p := continuesName) (l := s),
      isUnbroken_append hinner] at h
    exact head_of_isUnbroken h
  have hdrop (t : List Char) : (c :: t).dropWhile continuesName = t.dropWhile continuesName :=
    List.dropWhile_cons_of_pos hc
  have htake (t : List Char) : (c :: t).takeWhile continuesName = c :: t.takeWhile continuesName :=
    List.takeWhile_cons_of_pos hc
  rw [wordToken?_of_unquoted, wordToken?_of_unquoted, hdrop, hdrop, htake, htake, hletters, hrest]
  · have hstart (rest : List Char) : ReadsAlike NoBracket (s.takeWhile continuesName ++ rest)
        (plainWord? (c :: s.takeWhile continuesName) rest)
        (plainWord? (c :: s.takeWhile continuesName) (condense rest)) := by
      have hword (x : String) : NoBracket (.word x) := fun _ => rfl
      have hname (x : String) : NoBracket (.name x) := fun _ => rfl
      unfold plainWord?
      split
      · exact .none _
      · split
        · exact .some hinner (hword _) _
        · exact .some hinner (hname _) _
    have h := hstart (s.dropWhile continuesName)
    rwa [List.takeWhile_append_dropWhile] at h
  · rwa [hdrop, hrest, Ne, condense_head_eq (by decide)]
  · rwa [hdrop, hrest, Ne, condense_head_eq (by decide)]
  · rwa [hdrop]
  · rwa [hdrop]

/-- Behind its first character, a token is read alike in a text and in the text condensed. -/
theorem token?_alike {depth : Nat} (hc : isInner c = true) (h : isUnbroken depth s = true) :
    ReadsAlike NoBracket s (token? (c :: s)) (token? (c :: condense s)) := by
  have hdigits : (condense s).head?.any isAsciiDigit = s.head?.any isAsciiDigit :=
    any_head_condense (fun c hc => (isAsciiDigit_of_isLayout hc).trans (by decide)) s
  have hsplit (t : List Char) : token? (c :: t) =
      if isAsciiDigit c || (c = '.' && t.head?.any isAsciiDigit) then numeral? (c :: t)
      else if continuesName c || c = '\'' || c = '"' then wordToken? (c :: t)
      else symbol? (c :: t) := rfl
  rw [hsplit, hsplit, hdigits]
  split
  · rename_i hnumeral
    have hstart : isAsciiDigit c = true ∨ c = '.' := by
      simp only [Bool.or_eq_true, Bool.and_eq_true, decide_eq_true_eq] at hnumeral
      exact hnumeral.imp_right And.left
    exact numeral?_alike hstart s
  · split
    · rename_i hword
      have hquote : c ≠ '\'' ∧ c ≠ '"' := by constructor <;> rintro rfl <;> cases hc
      have hletter : continuesName c = true := by simpa [hquote] using hword
      exact wordToken?_alike hletter h
    · exact symbol?_alike hc s

/-- No longer sign begins with a bracket. -/
theorem symbolOf?_bracket {n : Nat} {symbols : List String}
    (h : ∀ x ∈ symbols, x.toList.head?.any (fun d => !isOpening d && !isClosing d) = true)
    (hc : isOpening c = true ∨ isClosing c = true) (rest : List Char) :
    symbolOf? n symbols (c :: rest) = none := by
  refine symbolOf?_eq_none fun x hx hlead => ?_
  have hhead := h x hx
  cases hlist : x.toList with
  | nil => simp [hlist] at hhead
  | cons d ds =>
    rw [hlist] at hlead hhead
    obtain ⟨rfl, -⟩ := List.cons_prefix_cons.mp hlead
    rcases hc with hc | hc <;> simp [hc] at hhead

/-- There are six brackets. -/
theorem of_bracket {p : Char → Prop}
    (hp : p '(' ∧ p '[' ∧ p '\x7b' ∧ p ')' ∧ p ']' ∧ p '\x7d')
    (hc : isOpening c = true ∨ isClosing c = true) : p c := by
  simp only [isOpening, isClosing, Bool.or_eq_true, decide_eq_true_eq] at hc
  obtain ⟨hround, hsquare, hcurly, hround', hsquare', hcurly'⟩ := hp
  rcases hc with ((rfl | rfl) | rfl) | ((rfl | rfl) | rfl) <;> assumption

/-- A bracket is a token of its own. -/
theorem token?_bracket (hc : isOpening c = true ∨ isClosing c = true) (rest : List Char) :
    token? (c :: rest) = some (.symbol (String.ofList [c]), rest) := by
  obtain ⟨hdigit, hpoint⟩ : isAsciiDigit c = false ∧ c ≠ '.' :=
    of_bracket (p := fun c => isAsciiDigit c = false ∧ c ≠ '.') (by decide) hc
  have hnumeral : (isAsciiDigit c || (c = '.' && rest.head?.any isAsciiDigit)) = false := by
    simp [hdigit, hpoint]
  have hword : (continuesName c || c = '\'' || c = '"') = false :=
    of_bracket (p := fun c => (continuesName c || c = '\'' || c = '"') = false) (by decide) hc
  have hsymbol : String.ofList [c] ∈ symbols1 :=
    of_bracket (p := fun c => String.ofList [c] ∈ symbols1) (by decide) hc
  unfold token?
  simp only [hnumeral, hword]
  rw [symbol?_eq, symbolOf?_bracket (by decide) hc, symbolOf?_bracket (by decide) hc]
  have happend := symbolOf?_append (n := 1) hsymbol (by simp) rest
  rw [String.toList_ofList] at happend
  exact happend

theorem bracketsAfter?_opening (hc : isOpening c = true) (brackets : List String) :
    bracketsAfter? brackets (.symbol (String.ofList [c])) = none ∨
      ∃ opened, bracketsAfter? brackets (.symbol (String.ofList [c])) = some opened ∧
        opened.length = brackets.length + 1 := by
  have hcases : c = '(' ∨ c = '[' ∨ c = '\x7b' := by simpa [isOpening, or_assoc] using hc
  by_cases hroom : brackets.length < bracketLimit
  · refine .inr ?_
    rcases hcases with rfl | rfl | rfl <;> exact ⟨_, if_pos hroom, rfl⟩
  · refine .inl ?_
    rcases hcases with rfl | rfl | rfl <;> exact if_neg hroom

theorem bracketsAfter?_closing (hc : isClosing c = true) (brackets : List String) :
    bracketsAfter? brackets (.symbol (String.ofList [c])) = none ∨
      ∃ outer, bracketsAfter? brackets (.symbol (String.ofList [c])) = some outer ∧
        outer.length = brackets.length - 1 := by
  have hcases : c = ')' ∨ c = ']' ∨ c = '\x7d' := by simpa [isClosing, or_assoc] using hc
  cases brackets with
  | nil => exact .inl (by rcases hcases with rfl | rfl | rfl <;> rfl)
  | cons closer outer =>
    by_cases hfits : String.ofList [c] = closer
    · refine .inr ⟨outer, ?_, rfl⟩
      rcases hcases with rfl | rfl | rfl <;> exact if_pos hfits
    · refine .inl ?_
      rcases hcases with rfl | rfl | rfl <;> exact if_neg hfits

section Steps

variable {steps : Nat} {brackets : List String}

theorem tokensFrom_space (hc : isSpace c = true) :
    tokensFrom (steps + 1) brackets (c :: s) = tokensFrom steps brackets s := by
  rw [tokensFrom.eq_def]
  simp only [hc, if_true]

/-- A reader goes over layout, over line ends inside brackets only. -/
theorem tokensFrom_layout (hc : isLayout c = true)
    (hreturn : c ≠ '\r') (hfeed : c = '\n' → brackets ≠ []) :
    tokensFrom (steps + 1) brackets (c :: s) = tokensFrom steps brackets s := by
  have hcases : c = ' ' ∨ c = '\t' ∨ c = '\n' := by
    simpa [isLayout, hreturn, or_assoc] using hc
  rcases hcases with rfl | rfl | rfl
  · exact tokensFrom_space rfl
  · exact tokensFrom_space rfl
  · have hopen : brackets.isEmpty = false := by simpa using hfeed rfl
    simp [tokensFrom, isSpace, hopen]

theorem tokensFrom_cons (hspace : isSpace c = false) (hsign : c ≠ '#' ∧ c ≠ '\n' ∧ c ≠ '\\') :
    tokensFrom (steps + 1) brackets (c :: s) =
      (token? (c :: s)).elim [.unreadable] fun read =>
        (bracketsAfter? brackets read.1).elim [.unreadable] fun brackets =>
          read.1 :: tokensFrom steps brackets read.2 := by
  rw [tokensFrom.eq_def]
  simp only [hspace, hsign, Bool.false_eq_true, if_false]
  cases token? (c :: s) with
  | none => rfl
  | some read =>
    dsimp only [Option.elim_some]
    cases bracketsAfter? brackets read.1 <;> rfl

/-- A comment that no line end closes runs to the end. -/
theorem tokensFrom_comment (h : '\n' ∉ s) :
    tokensFrom (steps + 2) brackets ('#' :: s) =
      if brackets.isEmpty then [] else [.unreadable] := by
  have hrest : s.dropWhile (· ≠ '\n') = [] := by
    refine List.dropWhile_eq_nil_iff.mpr fun c hc => decide_eq_true ?_
    rintro rfl
    exact h hc
  rw [tokensFrom.eq_def]
  simp only [isSpace, Char.reduceEq, decide_false, Bool.or_self, Bool.false_eq_true, if_false,
    if_true, hrest]
  rfl

theorem tokensFrom_backslash (h : s.head? ≠ some '\n') :
    tokensFrom (steps + 1) brackets ('\\' :: s) = [.unreadable] := by
  cases s with
  | nil => rfl
  | cons d s =>
    have hd : d ≠ '\n' := by simpa using h
    rw [tokensFrom]
    · rfl
    · rintro d' rest ⟨⟩
      exact hd rfl

end Steps

/-- Where one token is read, the same is read from the condensed text, and the rest is to be
compared behind it. -/
theorem tokensFrom_token {n m : Nat} {brackets : List String} (hc : isLayout c = false)
    (hspace : isSpace c = false) (hsign : c ≠ '#' ∧ c ≠ '\\')
    (h : isUnbroken brackets.length (c :: s) = true)
    (hrest : ∀ (brackets : List String) (w rest : List Char), Tight w → s = w ++ rest →
      isUnbroken brackets.length rest = true →
      tokensFrom n brackets rest = tokensFrom m brackets (condense rest)) :
    tokensFrom (n + 1) brackets (c :: s) = tokensFrom (m + 1) brackets (c :: condense s) := by
  simp only [isLayout, Bool.or_eq_false_iff, decide_eq_false_iff_not] at hc
  have hsigns : c ≠ '#' ∧ c ≠ '\n' ∧ c ≠ '\\' := ⟨hsign.1, hc.1.2, hsign.2⟩
  rw [tokensFrom_cons hspace hsigns, tokensFrom_cons hspace hsigns]
  by_cases hbracket : isOpening c = true ∨ isClosing c = true
  · rw [token?_bracket hbracket, token?_bracket hbracket, Option.elim_some, Option.elim_some]
    dsimp only
    rcases hbracket with hopening | hclosing
    · rw [isUnbroken_opening hopening] at h
      obtain hnone | ⟨opened, hopened, hlength⟩ := bracketsAfter?_opening hopening brackets
      · rw [hnone, Option.elim_none, Option.elim_none]
      · rw [hopened, Option.elim_some, Option.elim_some]
        exact congrArg _ (hrest opened [] s tight_nil rfl (hlength ▸ h))
    · rw [isUnbroken_closing hclosing] at h
      obtain hnone | ⟨outer, houter, hlength⟩ := bracketsAfter?_closing hclosing brackets
      · rw [hnone, Option.elim_none, Option.elim_none]
      · rw [houter, Option.elim_some, Option.elim_some]
        exact congrArg _ (hrest outer [] s tight_nil rfl (hlength ▸ h))
  · have hinner : isInner c = true := by
      have hquote := head_of_isUnbroken h
      simp only [List.head?_cons, ne_eq, Option.some.injEq] at hquote
      simp only [isOpening, isClosing, Bool.or_eq_true, decide_eq_true_eq, not_or] at hbracket
      simp [isInner, outerSigns, hc, hsign, hquote, hbracket]
    rw [isUnbroken_cons hinner] at h
    have hread := token?_alike hinner h
    generalize token? (c :: s) = o, token? (c :: condense s) = o' at hread ⊢
    cases hread with
    | none => rfl
    | @some w hw token htoken s =>
      rw [isUnbroken_append hw] at h
      simp only [Option.elim_some, htoken brackets]
      exact congrArg _ (hrest brackets w s (fun x hx => not_isLayout_of_inner (hw x hx)) rfl h)

/-- An unbroken text has the same tokens condensed. The induction is on the steps; every character
that is gone over leaves an unbroken text at the depth of the brackets then open. -/
theorem tokensFrom_condense {n m : Nat} {brackets : List String}
    (h : isUnbroken brackets.length s = true) (hreturn : '\r' ∉ s) (hn : s.length < n)
    (hm : (condense s).length < m) :
    tokensFrom n brackets s = tokensFrom m brackets (condense s) := by
  induction n generalizing m brackets s with
  | zero => omega
  | succ n ih =>
    obtain ⟨m, rfl⟩ : ∃ k, m = k + 1 := ⟨m - 1, by omega⟩
    obtain _ | ⟨c, s⟩ := s
    · rfl
    rw [List.length_cons] at hn
    obtain ⟨hne, hrest⟩ : '\r' ≠ c ∧ '\r' ∉ s := by simpa using hreturn
    cases hc : isLayout c with
    | true =>
      obtain ⟨hs, hdepth⟩ := isUnbroken_layout hc h
      have hopen : c = '\n' → brackets ≠ [] := fun hfeed =>
        List.length_pos_iff.mp (hdepth (by rw [hfeed]; rfl))
      rw [tokensFrom_layout hc hne.symm hopen]
      rw [condense_layout hc] at hm ⊢
      split at hm
      · rename_i hblank
        rw [if_pos hblank]
        exact ih hs hrest (by omega) hm
      · rename_i hblank
        rw [if_neg hblank, tokensFrom_layout isLayout_space (by decide) (by simp)]
        exact ih hs hrest (by omega) (by simpa using hm)
    | false =>
      have hcondensed : '\n' ∉ condense s := fun hmem =>
        absurd (eq_space_of_mem_condense hmem (by decide)) (by decide)
      rw [condense_cons hc] at hm ⊢
      rw [List.length_cons] at hm
      cases hspace : isSpace c with
      | true =>
        obtain rfl : c = '\x0c' := by
          simp only [isLayout, Bool.or_eq_false_iff, decide_eq_false_iff_not] at hc
          simpa [isSpace, hc] using hspace
        rw [tokensFrom_space hspace, tokensFrom_space hspace]
        exact ih h hrest (by omega) (by omega)
      | false =>
        by_cases hcomment : c = '#'
        · subst hcomment
          have hends : ∀ x ∈ s, isLineEnd x = false := by simpa [isUnbroken_comment] using h
          have hfeed : '\n' ∉ s := fun hmem => absurd (hends _ hmem) (by decide)
          obtain ⟨n, rfl⟩ : ∃ k, n = k + 1 := ⟨n - 1, by omega⟩
          obtain ⟨m, rfl⟩ : ∃ k, m = k + 1 := ⟨m - 1, by omega⟩
          rw [tokensFrom_comment hfeed, tokensFrom_comment hcondensed]
        by_cases hjoin : c = '\\'
        · subst hjoin
          rw [isUnbroken_backslash, Bool.and_eq_true] at h
          have hhead : s.head? ≠ some '\n' := fun hhead => by simp [hhead, isLineEnd] at h
          rw [tokensFrom_backslash hhead,
            tokensFrom_backslash fun hhead => hcondensed (List.mem_of_head? hhead)]
        refine tokensFrom_token hc hspace ⟨hcomment, hjoin⟩ h fun brackets w rest hw hs hrest' => ?_
        subst hs
        rw [condense_tight_append hw, List.length_append] at hm
        rw [List.length_append] at hn
        exact ih hrest' (fun hmem => hrest (List.mem_append_right _ hmem)) (by omega) (by omega)

end Tokens

section Values

theorem fromMargin_comment {margin : Bool} (h : '\n' ∉ s) : fromMargin margin true s = some [] := by
  induction s with
  | nil => rfl
  | cons c s ih =>
    obtain ⟨hc, hs⟩ : '\n' ≠ c ∧ '\n' ∉ s := by simpa using h
    rw [fromMargin]
    · exact ih hs
    · exact fun hfeed => hc hfeed.symm

/-- Nothing is left out in front of an expression that does not begin with a blank, unless it is a
comment. -/
theorem fromMargin_solid (hc : isBlank c = false) (hcomment : c = '#' → '\n' ∉ s)
    (hjoin : c = '\\' → s.head? ≠ some '\n') :
    fromMargin true false (c :: s) = some (if c = '#' then [] else c :: s) := by
  by_cases hsharp : c = '#'
  · subst hsharp
    exact fromMargin_comment (hcomment rfl)
  · have hspace : isSpace c = false := by
      have hblank (d : Char) (hd : isBlank d = true) : c ≠ d := by
        rintro rfl
        rw [hc] at hd
        cases hd
      simp [isSpace, hblank ' ' (by decide), hblank '\t' (by decide), hblank '\x0c' (by decide)]
    rw [fromMargin, hspace, if_neg hsharp]
    · rfl
    · rintro rfl
      cases hc
    · exact hsharp
    · rintro d rest rfl rfl
      exact hjoin rfl rfl

/-- An unbroken expression that begins with no blank has the same tokens condensed. -/
theorem tokens_condense (h : isUnbroken 0 s = true) (hs : s.head?.any isBlank = false) :
    tokens (condense s) = tokens s := by
  have hunified := isUnbroken_unifyLineEnds h
  have hhead := any_head_unifyLineEnds (p := isBlank) (by decide) s
  have hreturn := not_mem_unifyLineEnds s
  unfold tokens
  rw [unifyLineEnds_condense, ← condense_unifyLineEnds]
  rw [hs] at hhead
  generalize unifyLineEnds s = u at hunified hhead hreturn ⊢
  cases u with
  | nil => rfl
  | cons c u =>
    have hc : isBlank c = false := hhead
    have hcondensed : '\n' ∉ condense u := fun hmem =>
      absurd (eq_space_of_mem_condense hmem (by decide)) (by decide)
    rw [condense_cons (isLayout_of_solid hc), fromMargin_solid hc (fun _ => hcondensed)
      fun _ hhead => hcondensed (List.mem_of_head? hhead), fromMargin_solid hc]
    · dsimp only
      split
      · rfl
      · have hsame := @tokensFrom_condense _ _ _ [] hunified hreturn (Nat.lt_succ_self _)
          (Nat.lt_succ_self _)
        rw [condense_cons (isLayout_of_solid hc)] at hsame
        exact hsame.symm
    · rintro rfl hmem
      rw [isUnbroken_comment] at hunified
      exact absurd (List.any_eq_true.mpr ⟨_, hmem, rfl⟩) (by simpa using hunified)
    · rintro rfl hhead
      rw [isUnbroken_backslash, hhead] at hunified
      cases hunified

theorem withPowerSigns_cons (c : Char) (s : List Char) :
    withPowerSigns (c :: s) = (if c = '^' then ['*', '*'] else [c]) ++ withPowerSigns s := rfl

theorem any_head_withPowerSigns {p : Char → Bool} (hp : p '*' = p '^') (s : List Char) :
    (withPowerSigns s).head?.any p = s.head?.any p := by
  cases s with
  | nil => rfl
  | cons c s =>
    rw [withPowerSigns_cons]
    split
    · rename_i hc
      simp [hc, hp]
    · rfl

theorem withPowerSigns_condense (s : List Char) :
    withPowerSigns (condense s) = condense (withPowerSigns s) := by
  induction s with
  | nil => rfl
  | cons c s ih =>
    cases hc : isLayout c with
    | false =>
      have htight : Tight (if c = '^' then ['*', '*'] else [c]) := by
        split
        · decide
        · exact List.forall_mem_singleton.mpr hc
      rw [condense_cons hc, withPowerSigns_cons, withPowerSigns_cons, condense_tight_append htight,
        ih]
    | true =>
      have hne : c ≠ '^' := by
        rintro rfl
        cases hc
      have hbegins : beginsBlank (withPowerSigns s) = beginsBlank s :=
        any_head_withPowerSigns (by decide) s
      rw [withPowerSigns_cons, if_neg hne, List.singleton_append, condense_layout hc,
        condense_layout hc, hbegins, ← ih]
      split <;> rfl

theorem isUnbroken_withPowerSigns (depth : Nat) (s : List Char) :
    isUnbroken depth (withPowerSigns s) = isUnbroken depth s := by
  have hends : isLineEnd '*' = isLineEnd '^' := rfl
  have hany (s : List Char) : (withPowerSigns s).any isLineEnd = s.any isLineEnd := by
    induction s with
    | nil => rfl
    | cons c s ih =>
      rw [withPowerSigns_cons]
      split
      · rename_i hc
        simp [hc, ih, isLineEnd]
      · simp [ih]
  induction s generalizing depth with
  | nil => rfl
  | cons c s ih =>
    rw [withPowerSigns_cons]
    split
    · rename_i hc
      subst hc
      rw [isUnbroken_append (List.all_eq_true.mp rfl), isUnbroken_cons (by decide), ih]
    · rw [List.singleton_append]
      simp only [isUnbroken, hany, any_head_withPowerSigns hends, ih]

/-- An unbroken expression has the same value condensed, or none. -/
theorem evaluate_condense (env : Environment) (h : Unbroken s) (room : Nat) :
    (evaluate env (condense s) room).toOption = (evaluate env s room).toOption := by
  have htokens : tokens (withPowerSigns (condense (trim s))) = tokens (withPowerSigns (trim s)) := by
    rw [withPowerSigns_condense]
    refine tokens_condense ((isUnbroken_withPowerSigns 0 _).trans h) ?_
    exact (any_head_withPowerSigns (by decide) _).trans (head_trim s)
  have hnull : (condense (trim s)).contains '\x00' = (trim s).contains '\x00' := by
    rw [Bool.eq_iff_iff]
    simpa using mem_condense (by decide)
  unfold evaluate
  simp only [trim_condense, hnull, readTree, htokens]
  split
  · rfl
  · split
    · rfl
    · rfl
    · split
      · rfl
      · rw [toOption_mapError, toOption_mapError]

end Values

end CircuitConsole.Expression
