import CircuitConsole.Proofs.Statement.JoinedTexts
import CircuitConsole.Proofs.Text.Collapsing

/-!
The pieces a text is cut into. Read from the depth at which it begins, a piece never closes more
braces than are open, and it ends with the brace that closes its block. A text is cut into pieces
exactly when its braces are matched, and the pieces hold all of it but the semicolons between them.
-/

namespace CircuitConsole.Statement

open Text

section Balance

@[simp]
theorem braceBalance_nil : braceBalance [] = 0 := rfl

theorem braceBalance_append (s t : List Char) :
    braceBalance (s ++ t) = braceBalance s + braceBalance t := by
  simp only [braceBalance, List.count_append]
  omega

theorem braceBalance_cons (c : Char) (s : List Char) :
    braceBalance (c :: s) = braceBalance [c] + braceBalance s :=
  braceBalance_append [c] s

@[simp]
theorem braceBalance_opening : braceBalance ['\x7b'] = 1 := rfl

@[simp]
theorem braceBalance_closing : braceBalance ['\x7d'] = -1 := rfl

theorem braceBalance_of_not_mem {s : List Char} (hopen : '\x7b' ∉ s) (hclose : '\x7d' ∉ s) :
    braceBalance s = 0 := by
  rw [braceBalance, List.count_eq_zero_of_not_mem hopen, List.count_eq_zero_of_not_mem hclose]
  rfl

theorem braceBalance_blanks {b : List Char} (hb : ∀ c ∈ b, isBlank c = true) :
    braceBalance b = 0 :=
  braceBalance_of_not_mem (fun h => absurd (hb _ h) (by decide))
    (fun h => absurd (hb _ h) (by decide))

/-- Read from a depth of open braces, a text never closes one that is not open. -/
def StaysOpen (depth : Int) (s : List Char) : Prop :=
  ∀ front, front <+: s → 0 ≤ depth + braceBalance front

theorem staysOpen_nil {depth : Int} : StaysOpen depth [] ↔ 0 ≤ depth := by
  simp [StaysOpen]

theorem staysOpen_cons {depth : Int} {c : Char} {s : List Char} :
    StaysOpen depth (c :: s) ↔ 0 ≤ depth ∧ StaysOpen (depth + braceBalance [c]) s := by
  constructor
  · refine fun h => ⟨by simpa using h [] List.nil_prefix, fun front hfront => ?_⟩
    have hdepth := h (c :: front) (List.cons_prefix_cons.mpr ⟨rfl, hfront⟩)
    rw [braceBalance_cons] at hdepth
    omega
  · rintro ⟨hdepth, h⟩ front hfront
    cases front with
    | nil => simpa using hdepth
    | cons d front =>
      obtain ⟨rfl, hprefix⟩ := List.cons_prefix_cons.mp hfront
      have hrest := h front hprefix
      rw [braceBalance_cons]
      omega

end Balance

section Cutting

def withoutEnds (depth : Int) : List Char → List Char
  | [] => []
  | c :: rest =>
    if c = ';' ∧ depth = 0 then withoutEnds depth rest
    else c :: withoutEnds (depth + braceBalance [c]) rest

inductive Piece : Nat → List Char → Prop
  | nil : Piece 0 []
  | last : Piece 1 ['\x7d']
  | opening {depth : Nat} {p : List Char} : Piece (depth + 1) p → Piece depth ('\x7b' :: p)
  | closing {depth : Nat} {p : List Char} : Piece (depth + 1) p → Piece (depth + 2) ('\x7d' :: p)
  | letter {depth : Nat} {c : Char} {p : List Char} : c ≠ '\x7b' → c ≠ '\x7d' →
      (c = ';' → depth ≠ 0) → Piece depth p → Piece depth (c :: p)

theorem pieces_of_cutAt {depth depth' : Nat} {c : Char}
    {f : List (List Char) → List (List Char)} (h : cutAt depth c = .ok (depth', f))
    (s : List Char) : pieces depth (c :: s) = (pieces depth' s).map f := by
  rw [pieces_cons, h]
  rfl

theorem withoutEnds_cons {depth : Int} {c : Char} (h : c = ';' → depth ≠ 0) (s : List Char) :
    withoutEnds depth (c :: s) = c :: withoutEnds (depth + braceBalance [c]) s :=
  if_neg fun hc => h hc.1 hc.2

theorem braceBalance_letter {c : Char} (hopen : c ≠ '{') (hclose : c ≠ '}') :
    braceBalance [c] = 0 :=
  braceBalance_of_not_mem (by simpa using hopen.symm) (by simpa using hclose.symm)

/-- What a text is cut into: a first piece from its depth on, and pieces that begin outside braces.
Together they hold all but the semicolons outside braces. -/
theorem pieces_eq_ok {depth : Nat} {s : List Char} {ps : List (List Char)}
    (h : pieces depth s = .ok ps) :
    ∃ p rest, ps = p :: rest ∧ Piece depth p ∧ (∀ q ∈ rest, Piece 0 q) ∧
      p ++ rest.flatten = withoutEnds depth s := by
  fun_induction pieces depth s generalizing ps with
  | case1 =>
    obtain rfl := Except.ok.inj h
    exact ⟨[], [], rfl, .nil, by simp, rfl⟩
  | case2 => cases h
  | case3 depth s ih =>
    obtain ⟨ps, hps, rfl⟩ := map_eq_ok.mp h
    obtain ⟨p, rest, rfl, hp, hrest, hflat⟩ := ih hps
    refine ⟨_, rest, rfl, hp.opening, hrest, ?_⟩
    rw [withoutEnds_cons (by simp), List.cons_append, hflat]
    rfl
  | case4 => cases h
  | case5 s hne ih =>
    obtain ⟨ps, hps, rfl⟩ := map_eq_ok.mp h
    obtain ⟨p, rest, rfl, hp, hrest, hflat⟩ := ih hps
    refine ⟨_, _, rfl, .last, List.forall_mem_cons.mpr ⟨hp, hrest⟩, ?_⟩
    rw [withoutEnds_cons (by simp), List.flatten_cons, hflat]
    rfl
  | case6 s depth hne ih =>
    obtain ⟨ps, hps, rfl⟩ := map_eq_ok.mp h
    obtain ⟨p, rest, rfl, hp, hrest, hflat⟩ := ih hps
    refine ⟨_, rest, rfl, hp.closing, hrest, ?_⟩
    have hdepth : ((depth + 2 : Nat) : Int) + braceBalance ['}'] = (depth + 1 : Nat) := by
      rw [braceBalance_closing]
      omega
    rw [withoutEnds_cons (by simp), List.cons_append, hflat, hdepth]
  | case7 depth c s hopen hclose hend ih =>
    obtain ⟨rfl, rfl⟩ : c = ';' ∧ depth = 0 := by simpa using hend
    obtain ⟨ps, hps, rfl⟩ := map_eq_ok.mp h
    obtain ⟨p, rest, rfl, hp, hrest, hflat⟩ := ih hps
    exact ⟨_, _, rfl, .nil, List.forall_mem_cons.mpr ⟨hp, hrest⟩, hflat⟩
  | case8 depth c s hopen hclose hend ih =>
    have hinside : c = ';' → depth ≠ 0 := by simpa using hend
    obtain ⟨ps, hps, rfl⟩ := map_eq_ok.mp h
    obtain ⟨p, rest, rfl, hp, hrest, hflat⟩ := ih hps
    refine ⟨_, rest, rfl, .letter hopen hclose hinside hp, hrest, ?_⟩
    rw [withoutEnds_cons (by simpa using hinside), braceBalance_letter hopen hclose, Int.add_zero,
      List.cons_append, hflat]

theorem piece_of_mem {s p : List Char} {ps : List (List Char)} (h : pieces 0 s = .ok ps)
    (hp : p ∈ ps) : Piece 0 p := by
  obtain ⟨q, rest, rfl, hq, hrest, -⟩ := pieces_eq_ok h
  exact List.forall_mem_cons.mpr ⟨hq, hrest⟩ p hp

theorem cutAt_balance {depth depth' : Nat} {c : Char} {f : List (List Char) → List (List Char)}
    (h : cutAt depth c = .ok (depth', f)) : (depth' : Int) = depth + braceBalance [c] := by
  unfold cutAt at h
  split at h
  · rename_i hc
    cases h
    rw [hc, braceBalance_opening]
    omega
  · rename_i hopen
    split at h
    · rename_i hc
      rw [hc, braceBalance_closing]
      split at h <;> cases h <;> omega
    · rename_i hclose
      rw [braceBalance_letter hopen hclose, Int.add_zero]
      split at h
      · rename_i hend
        obtain ⟨-, rfl⟩ : c = ';' ∧ depth = 0 := by simpa using hend
        cases h
        rfl
      · cases h
        rfl

theorem cutAt_letter {depth : Nat} {c : Char} (hopen : c ≠ '\x7b') (hclose : c ≠ '\x7d')
    (hend : c = ';' → depth ≠ 0) : cutAt depth c = .ok (depth, onFirst c) := by
  unfold cutAt
  rw [if_neg hopen, if_neg hclose, if_neg (by simpa using hend)]

theorem cutAt_eq_error {depth : Nat} {c : Char} {fault : Fault}
    (h : cutAt depth c = .error fault) :
    fault = .unbalancedBrace ∧ (depth : Int) + braceBalance [c] < 0 := by
  unfold cutAt at h
  split at h
  · cases h
  · split at h
    · rename_i hc
      split at h <;> cases h
      rw [hc]
      exact ⟨rfl, by decide⟩
    · split at h <;> cases h

/-- A text is cut exactly when its braces are matched; how it fails tells how they are not. -/
theorem pieces_outcome (depth : Nat) (s : List Char) :
    (∃ ps, pieces depth s = .ok ps ∧ StaysOpen depth s ∧ depth + braceBalance s = 0) ∨
    (pieces depth s = .error .unbalancedBrace ∧ ¬ StaysOpen depth s) ∨
    (pieces depth s = .error .unterminatedBlock ∧ StaysOpen depth s ∧
      0 < depth + braceBalance s) := by
  induction s generalizing depth with
  | nil =>
    by_cases hdepth : depth = 0
    · subst hdepth
      exact .inl ⟨[[]], rfl, staysOpen_nil.mpr (Int.le_refl 0), rfl⟩
    · refine .inr (.inr ⟨by rw [pieces, if_neg hdepth], staysOpen_nil.mpr (by omega), ?_⟩)
      rw [braceBalance_nil]
      omega
  | cons c s ih =>
    rw [staysOpen_cons, braceBalance_cons c s, ← Int.add_assoc]
    cases hcut : cutAt depth c with
    | error fault =>
      obtain ⟨rfl, hdepth⟩ := cutAt_eq_error hcut
      refine .inr (.inl ⟨by rw [pieces_cons, hcut]; rfl, fun h => ?_⟩)
      have hfirst := h.2 [] List.nil_prefix
      rw [braceBalance_nil] at hfirst
      omega
    | ok cut =>
      obtain ⟨depth', f⟩ := cut
      rw [← cutAt_balance hcut, pieces_of_cutAt hcut]
      rcases ih depth' with ⟨ps, hps, hopen, hbalance⟩ | ⟨hps, hopen⟩ | ⟨hps, hopen, hbalance⟩
      · rw [hps]
        exact .inl ⟨f ps, rfl, ⟨by omega, hopen⟩, hbalance⟩
      · rw [hps]
        exact .inr (.inl ⟨rfl, fun h => hopen h.2⟩)
      · rw [hps]
        exact .inr (.inr ⟨rfl, ⟨by omega, hopen⟩, hbalance⟩)

theorem pieces_eq_error {depth : Nat} {s : List Char} {fault : Fault} :
    pieces depth s = .error fault ↔
      (fault = .unbalancedBrace ∧ ¬ StaysOpen depth s) ∨
        (fault = .unterminatedBlock ∧ StaysOpen depth s ∧ 0 < depth + braceBalance s) := by
  rcases pieces_outcome depth s with ⟨ps, hps, hopen, hbalance⟩ | ⟨hps, hopen⟩ |
    ⟨hps, hopen, hbalance⟩
  · have hnot : ¬ 0 < depth + braceBalance s := by omega
    simp [hps, hopen, hnot]
  · simp [hps, hopen, eq_comm]
  · simp [hps, hopen, hbalance, eq_comm]

end Cutting

namespace Piece

variable {depth : Nat} {p front back b : List Char}

theorem eq_zero (h : Piece depth []) : depth = 0 := by
  cases h
  rfl

/-- What stands behind the front of a piece is one from the depth that is reached there. -/
theorem behind (h : Piece depth (front ++ back)) :
    ∃ inner : Nat, (inner : Int) = depth + braceBalance front ∧ Piece inner back := by
  induction front generalizing depth with
  | nil => exact ⟨depth, by simp, h⟩
  | cons c front ih =>
    have hstep {next : Nat} (hrest : Piece next (front ++ back))
        (hnext : (next : Int) = depth + braceBalance [c]) :
        ∃ inner : Nat, (inner : Int) = depth + braceBalance (c :: front) ∧ Piece inner back := by
      obtain ⟨inner, hinner, hback⟩ := ih hrest
      refine ⟨inner, ?_, hback⟩
      rw [braceBalance_cons]
      omega
    generalize hwhole : c :: front ++ back = whole at h
    cases h with
    | nil => cases hwhole
    | last =>
      obtain ⟨rfl, hnil⟩ := List.cons.inj hwhole
      obtain ⟨rfl, rfl⟩ := List.append_eq_nil_iff.mp hnil
      exact hstep .nil rfl
    | opening hrest =>
      obtain ⟨rfl, rfl⟩ := List.cons.inj hwhole
      exact hstep hrest (by simp)
    | closing hrest =>
      obtain ⟨rfl, rfl⟩ := List.cons.inj hwhole
      exact hstep hrest (by rw [braceBalance_closing]; omega)
    | letter hopen hclose _ hrest =>
      obtain ⟨rfl, rfl⟩ := List.cons.inj hwhole
      exact hstep hrest (by rw [braceBalance_letter hopen hclose, Int.add_zero])

theorem staysOpen (h : Piece depth p) : StaysOpen depth p := by
  rintro front ⟨back, rfl⟩
  obtain ⟨inner, hinner, -⟩ := h.behind
  omega

theorem balance (h : Piece depth p) : (depth : Int) + braceBalance p = 0 := by
  rw [← List.append_nil p] at h
  obtain ⟨inner, hinner, hnil⟩ := h.behind
  rw [← hinner, hnil.eq_zero]
  rfl

/-- A semicolon stands inside braces. -/
theorem inside (h : Piece depth (front ++ ';' :: back)) :
    0 < (depth : Int) + braceBalance front := by
  obtain ⟨inner, hinner, hback⟩ := h.behind
  have hne : inner ≠ 0 := by
    cases hback with
    | letter _ _ hend _ => exact hend rfl
  omega

/-- The brace that closes the block ends the piece. -/
theorem block (h : Piece depth (front ++ '\x7d' :: back))
    (hlast : (depth : Int) + braceBalance front = 1) : back = [] := by
  obtain ⟨inner, hinner, hback⟩ := h.behind
  obtain rfl : inner = 1 := by omega
  cases hback with
  | last => rfl
  | letter _ hclose _ _ => exact absurd rfl hclose

/-- Blanks behind a piece can be left out. -/
theorem withoutBlanks (h : Piece depth (p ++ b)) (hb : ∀ c ∈ b, isBlank c = true) :
    Piece depth p := by
  induction p generalizing depth with
  | nil =>
    have hbalance := h.balance
    rw [List.nil_append, braceBalance_blanks hb] at hbalance
    obtain rfl : depth = 0 := by omega
    exact .nil
  | cons c p ih =>
    generalize hwhole : c :: p ++ b = whole at h
    cases h with
    | nil => cases hwhole
    | last =>
      obtain ⟨rfl, hnil⟩ := List.cons.inj hwhole
      obtain ⟨rfl, -⟩ := List.append_eq_nil_iff.mp hnil
      exact .last
    | opening hrest =>
      obtain ⟨rfl, rfl⟩ := List.cons.inj hwhole
      exact (ih hrest).opening
    | closing hrest =>
      obtain ⟨rfl, rfl⟩ := List.cons.inj hwhole
      exact (ih hrest).closing
    | letter hopen hclose hend hrest =>
      obtain ⟨rfl, rfl⟩ := List.cons.inj hwhole
      exact .letter hopen hclose hend (ih hrest)

theorem trim (h : Piece 0 p) : Piece 0 (trim p) := by
  obtain ⟨b, b', hb, hb', hp⟩ := exists_blanks_trim p
  rw [hp] at h
  obtain ⟨inner, hinner, hrest⟩ := h.behind
  rw [braceBalance_blanks hb] at hinner
  obtain rfl : inner = 0 := by omega
  exact hrest.withoutBlanks hb'

/-- In front of another text a piece is read as it is, either as a piece of its own or as the
beginning of the first one. -/
theorem pieces_append (h : Piece depth p) :
    (∀ s, pieces depth (p ++ s) = (pieces 0 s).map (p.foldr onFirst ·)) ∨
      ∀ s, pieces depth (p ++ s) = (pieces 0 s).map (p :: ·) := by
  have hstep {depth next : Nat} {c : Char} {p : List Char}
      (hcut : cutAt depth c = .ok (next, onFirst c))
      (h : (∀ s, pieces next (p ++ s) = (pieces 0 s).map (p.foldr onFirst ·)) ∨
        ∀ s, pieces next (p ++ s) = (pieces 0 s).map (p :: ·)) :
      (∀ s, pieces depth (c :: p ++ s) = (pieces 0 s).map ((c :: p).foldr onFirst ·)) ∨
        ∀ s, pieces depth (c :: p ++ s) = (pieces 0 s).map ((c :: p) :: ·) := by
    refine h.imp (fun h s => ?_) (fun h s => ?_) <;>
    · rw [List.cons_append, pieces_of_cutAt hcut, h]
      cases pieces 0 s <;> rfl
  induction h with
  | nil =>
    refine .inl fun s => ?_
    rw [List.nil_append]
    cases pieces 0 s <;> rfl
  | last => exact .inr fun s => rfl
  | opening _ ih => exact hstep rfl ih
  | closing _ ih => exact hstep rfl ih
  | letter hopen hclose hend _ ih => exact hstep (cutAt_letter hopen hclose hend) ih

end Piece

end CircuitConsole.Statement
