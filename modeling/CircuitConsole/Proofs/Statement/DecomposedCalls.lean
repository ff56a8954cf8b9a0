import CircuitConsole.Proofs.Statement.OperationTexts
import Mathlib.Data.List.Infix

/-!
Calls taken apart. A list is cut at the commas outside of parentheses, and at no others; the pieces
lose nothing but the blanks around them. A call that is written from its parts, with whatever nested
parentheses and commas in the parameters, is therefore taken apart into the same parts.
-/

namespace CircuitConsole.Statement

open Text

variable {s p e a name front back : List Char} {es as ps qs : List (List Char)} {c : Char}

section Balances

def parenBalance (s : List Char) : Int := (s.count '(' : Int) - s.count ')'

theorem depthBehind_add (depth : Int) (c : Char) (s : List Char) :
    depthBehind depth c + parenBalance s = depth + parenBalance (c :: s) := by
  unfold depthBehind parenBalance
  rw [List.count_cons, List.count_cons]
  by_cases hopen : c = '('
  · subst hopen
    simp
    omega
  · by_cases hclose : c = ')'
    · subst hclose
      simp
      omega
    · simp [hopen, hclose]

end Balances

section Cuts

/-- A comma is cut at where as many parentheses have been closed as opened. -/
theorem commaPieces_append_comma {depth : Int} (h : depth + parenBalance front = 0) :
    commaPieces depth (front ++ ',' :: back) = commaPieces depth front ++ commaPieces 0 back := by
  induction front generalizing depth with
  | nil =>
    obtain rfl : depth = 0 := by simpa [parenBalance] using h
    rfl
  | cons c front ih =>
    rw [← depthBehind_add] at h
    rw [List.cons_append, commaPieces_cons, commaPieces_cons, ih h]
    split
    · rfl
    · obtain ⟨p, ps, hpieces⟩ :=
        List.exists_cons_of_ne_nil (commaPieces_ne_nil (depthBehind depth c) front)
      rw [hpieces]
      rfl

/-- Between two pieces as many parentheses have been closed as opened. -/
theorem parenBalance_of_commaPieces {depth : Int} (hps : ps ≠ []) (hqs : qs ≠ [])
    (h : commaPieces depth s = ps ++ qs) : depth + parenBalance (joined ps) = 0 := by
  induction s generalizing depth ps with
  | nil =>
    have hlength := congrArg List.length h
    rw [List.length_append] at hlength
    have hp := List.length_pos_of_ne_nil hps
    have hq := List.length_pos_of_ne_nil hqs
    change 1 = _ at hlength
    omega
  | cons c s ih =>
    obtain ⟨p, ps, rfl⟩ := List.exists_cons_of_ne_nil hps
    rw [commaPieces_cons] at h
    split at h
    · rename_i hcut
      obtain ⟨hcomma, hzero⟩ := Bool.and_eq_true_iff.mp hcut
      obtain rfl : c = ',' := of_decide_eq_true hcomma
      obtain rfl : depth = 0 := eq_of_beq hzero
      obtain ⟨rfl, hrest⟩ := List.cons.inj h
      cases ps with
      | nil => rfl
      | cons q ps =>
        have hlater := ih (List.cons_ne_nil q ps) hrest
        rw [joined_cons_cons, List.nil_append, ← depthBehind_add]
        exact hlater
    · obtain ⟨q, rest, hpieces⟩ :=
        List.exists_cons_of_ne_nil (commaPieces_ne_nil (depthBehind depth c) s)
      rw [hpieces] at h
      obtain ⟨rfl, rfl⟩ := List.cons.inj h
      have hlater := ih (List.cons_ne_nil q ps) hpieces
      rw [joined_cons, ← depthBehind_add]
      exact hlater

/-- Pieces of a text, cut at the commas outside of parentheses and at no others. -/
structure CutAtCommas (s : List Char) (pieces : List (List Char)) : Prop where
  whole : joined pieces = s
  cut : ∀ front back, s = front ++ ',' :: back → (parenBalance front = 0 ↔
    ∃ ps qs, pieces = ps ++ qs ∧ joined ps = front ∧ joined qs = back ∧ ps ≠ [] ∧ qs ≠ [])

theorem cutAtCommas_commaPieces (s : List Char) : CutAtCommas s (commaPieces 0 s) where
  whole := joined_commaPieces 0 s
  cut := by
    intro front back hs
    constructor
    · intro hbalance
      refine ⟨commaPieces 0 front, commaPieces 0 back, ?_, joined_commaPieces 0 front,
        joined_commaPieces 0 back, commaPieces_ne_nil 0 front, commaPieces_ne_nil 0 back⟩
      rw [hs, commaPieces_append_comma (by rw [Int.zero_add, hbalance])]
    · rintro ⟨ps, qs, hpieces, rfl, -, hps, hqs⟩
      have hbalance := parenBalance_of_commaPieces hps hqs hpieces
      rwa [Int.zero_add] at hbalance

def Around (part piece : List Char) : Prop :=
  ∃ b b', (∀ c ∈ b, isBlank c = true) ∧ (∀ c ∈ b', isBlank c = true) ∧ piece = b ++ (part ++ b')

theorem around_trim (pieces : List (List Char)) : List.Forall₂ Around (pieces.map trim) pieces := by
  rw [List.forall₂_map_left_iff]
  exact List.forall₂_same.mpr fun p _ => exists_blanks_trim p

/-- A list loses nothing but the commas at which it is cut and the blanks around its parts. A blank
text has no parts. -/
theorem commaParts_lose (s : List Char) :
    (commaParts s = [] ∧ ∀ c ∈ s, isBlank c = true) ∨
      ∃ pieces, CutAtCommas s pieces ∧ List.Forall₂ Around (commaParts s) pieces := by
  by_cases hblank : (commaPieces 0 s).map trim = [[]]
  · left
    obtain ⟨p, hpieces, hp⟩ := List.map_eq_singleton_iff.mp hblank
    have hs := joined_commaPieces 0 s
    rw [hpieces, joined, List.intercalate_singleton] at hs
    subst hs
    refine ⟨?_, ?_⟩
    · unfold commaParts
      exact if_pos hblank
    · obtain ⟨b, b', hb, hb', hs⟩ := exists_blanks_trim p
      rw [hs, hp]
      exact List.forall_mem_append.mpr ⟨hb, hb'⟩
  · right
    refine ⟨commaPieces 0 s, cutAtCommas_commaPieces s, ?_⟩
    have hparts : commaParts s = (commaPieces 0 s).map trim := by
      unfold commaParts
      exact if_neg hblank
    rw [hparts]
    exact around_trim _

end Cuts

section Parts

/-- A parameter as it may be written in a call: balanced, and with commas only inside of
parentheses. -/
structure ParameterText (e : List Char) : Prop where
  nonempty : e ≠ []
  trimmed : trim e = e
  closed : ∀ front, front <+: e → front.count ')' ≤ front.count '('
  balanced : e.count ')' = e.count '('
  commas : ∀ front, front ++ [','] <+: e → front.count ')' < front.count '('

theorem parameterText_iff : ParameterText e ↔ e ≠ [] ∧ trim e = e ∧
    (∀ front ∈ e.inits, front.count ')' ≤ front.count '(') ∧ e.count ')' = e.count '(' ∧
    ∀ front ∈ e.inits, front ++ [','] ∈ e.inits → front.count ')' < front.count '(' := by
  simp only [List.mem_inits]
  constructor
  · intro h
    exact ⟨h.nonempty, h.trimmed, h.closed, h.balanced, fun front _ => h.commas front⟩
  · rintro ⟨hne, htrimmed, hclosed, hbalanced, hcommas⟩
    refine ⟨hne, htrimmed, hclosed, hbalanced, fun front hfront => ?_⟩
    exact hcommas front ((List.prefix_append front [',']).trans hfront) hfront

instance (e : List Char) : Decidable (ParameterText e) := decidable_of_iff _ parameterText_iff.symm

structure PlaceText (a : List Char) : Prop where
  nonempty : a ≠ []
  trimmed : trim a = a
  opening : '(' ∉ a
  closing : ')' ∉ a
  comma : ',' ∉ a

theorem commaPieces_of_commas {depth : Int}
    (h : ∀ front, front ++ [','] <+: p → depth + parenBalance front ≠ 0) (rest : List Char) :
    commaPieces depth (p ++ rest) =
      p.foldr onFirst (commaPieces (depth + parenBalance p) rest) := by
  induction p generalizing depth with
  | nil =>
    change commaPieces depth rest = commaPieces (depth + 0) rest
    rw [Int.add_zero]
  | cons c p ih =>
    have hlater : ∀ front, front ++ [','] <+: p →
        depthBehind depth c + parenBalance front ≠ 0 := by
      intro front hfront
      rw [depthBehind_add]
      exact h (c :: front) (List.cons_prefix_cons.mpr ⟨rfl, hfront⟩)
    have huncut : (c = ',' && depthBehind depth c == 0) = false := by
      by_cases hc : c = ','
      · subst hc
        have hfirst : depth ≠ 0 := by
          have hdepth := h [] (List.cons_prefix_cons.mpr ⟨rfl, List.nil_prefix⟩)
          simpa [parenBalance] using hdepth
        simpa [depthBehind] using hfirst
      · simp [hc]
    rw [List.cons_append, commaPieces_cons, huncut, ih hlater, depthBehind_add]
    rfl

theorem ParameterText.uncut (h : ParameterText e) : Uncut e := by
  intro rest
  have hcommas : ∀ front, front ++ [','] <+: e → 0 + parenBalance front ≠ 0 := by
    intro front hfront
    have hopen := h.commas front hfront
    unfold parenBalance
    omega
  have hbalance : 0 + parenBalance e = 0 := by
    have hcounts := h.balanced
    unfold parenBalance
    omega
  rw [commaPieces_of_commas hcommas, hbalance]

theorem PlaceText.uncut (h : PlaceText a) : Uncut a :=
  uncut_of_not_mem h.opening h.closing h.comma

/-- A space in front of a text is not cut at. -/
theorem Uncut.behind_space (h : Uncut p) : Uncut (' ' :: p) := by
  intro rest
  rw [List.cons_append, commaPieces_cons]
  change onFirst ' ' (commaPieces 0 (p ++ rest)) = _
  rw [h rest]
  rfl

/-- Trimmed parts with a space behind every comma are got back. -/
theorem commaParts_spacedOut (huncut : ∀ p ∈ ps, Uncut p)
    (htrimmed : ∀ p ∈ ps, p ≠ [] ∧ trim p = p) : commaParts (joined (spacedOut ps)) = ps := by
  cases ps with
  | nil => rfl
  | cons p ps =>
    have hspace (q : List Char) : trim (' ' :: q) = trim q :=
      trim_append_left (List.forall_mem_singleton.mpr (by decide)) q
    obtain ⟨hp, hps⟩ := List.forall_mem_cons.mp huncut
    obtain ⟨⟨hpne, hptrim⟩, hpstrim⟩ := List.forall_mem_cons.mp htrimmed
    rw [commaParts_joined, spacedOut, List.map_cons, List.map_map, hptrim]
    · congr 1
      refine (List.map_congr_left fun q hq => ?_).trans (List.map_id ps)
      exact (hspace q).trans (hpstrim q hq).2
    · refine List.forall_mem_cons.mpr ⟨hp, List.forall_mem_map.mpr fun q hq => ?_⟩
      exact (hps q hq).behind_space
    · refine List.forall_mem_cons.mpr ⟨by rwa [hptrim], List.forall_mem_map.mpr fun q hq => ?_⟩
      rw [hspace, (hpstrim q hq).2]
      exact (hpstrim q hq).1

end Parts

section Calls

def writtenCall (gate : List Char) (es as : List (List Char)) : List Char :=
  gate ++ ((if es = [] then [] else '(' :: (", ".toList.intercalate es ++ [')'])) ++
    ' ' :: ", ".toList.intercalate as)

theorem writtenCall_eq (gate : List Char) (es as : List (List Char)) :
    writtenCall gate es as = callText gate (spacedOut es) (spacedOut as) := by
  have hnil : spacedOut es = [] ↔ es = [] := by
    cases es with
    | nil => exact Iff.rfl
    | cons e es => exact ⟨nofun, nofun⟩
  simp only [writtenCall, callText, joined_spacedOut, hnil]

theorem not_mem_spacedOut (hc : c ∉ ", ".toList) (h : ∀ a ∈ as, c ∉ a) :
    c ∉ joined (spacedOut as) := by
  rw [joined_spacedOut]
  intro hmem
  obtain hmem | ⟨a, ha, hmem⟩ := mem_intercalate hmem
  · exact hc hmem
  · exact h a ha hmem

/-- A call that is written from a name, parameters and arguments is taken apart into these: the match
for the closing parenthesis goes to the last one, and the arguments have none. Whatever the text, what
a list loses when it is cut are the commas outside of parentheses and the blanks around the parts. -/
theorem call_text_decomposes :
    (∀ gate es as, isIdentifier gate = true → (∀ e ∈ es, ParameterText e) →
      (∀ a ∈ as, PlaceText a) → ∃ form, call? (writtenCall gate es as) = some form ∧
        form.gate = gate ∧ commaParts form.parameters = es ∧ commaParts form.qubits = as) ∧
    ∀ s, (commaParts s = [] ∧ ∀ c ∈ s, isBlank c = true) ∨
      ∃ pieces, CutAtCommas s pieces ∧ List.Forall₂ Around (commaParts s) pieces := by
  refine ⟨?_, commaParts_lose⟩
  intro gate es as hgate hes has
  have hopen : '(' ∉ joined (spacedOut as) :=
    not_mem_spacedOut (by decide) fun a ha => (has a ha).opening
  have hclose : ')' ∉ joined (spacedOut as) :=
    not_mem_spacedOut (by decide) fun a ha => (has a ha).closing
  refine ⟨⟨gate, joined (spacedOut es), trimLeft (joined (spacedOut as))⟩, ?_, rfl, ?_, ?_⟩
  · rw [writtenCall_eq, call?_of_callText hgate hopen hclose]
  · exact commaParts_spacedOut (fun e he => (hes e he).uncut)
      fun e he => ⟨(hes e he).nonempty, (hes e he).trimmed⟩
  · rw [commaParts_trimLeft]
    exact commaParts_spacedOut (fun a ha => (has a ha).uncut)
      fun a ha => ⟨(has a ha).nonempty, (has a ha).trimmed⟩

/-- Parameters with parentheses in each other, and with commas inside of them. -/
theorem nested_parameters_decompose :
    ∃ form, call? "cu3(max((1,2), (3)), -(pi/2), 0) q[0], r".toList = some form ∧
      form.gate = "cu3".toList ∧
      commaParts form.parameters = ["max((1,2), (3))", "-(pi/2)", "0"].map String.toList ∧
      commaParts form.qubits = ["q[0]", "r"].map String.toList :=
  call_text_decomposes.1 "cu3".toList (["max((1,2), (3))", "-(pi/2)", "0"].map String.toList)
    (["q[0]", "r"].map String.toList) (by decide) (by decide +kernel) (by
      intro a ha
      obtain rfl | rfl := List.mem_pair.mp ha
      all_goals exact ⟨by decide, by decide, by decide, by decide, by decide⟩)

end Calls

end CircuitConsole.Statement
