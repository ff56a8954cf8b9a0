import CircuitConsole.Proofs.Circuit.Tiling
import CircuitConsole.Proofs.Statement.OperationTexts
import CircuitConsole.Proofs.Statement.Repetition
import CircuitConsole.Proofs.Statement.ReplacedArguments
import Mathlib.Data.List.DropRight

/-!
Instances of an operation on whole registers: in each a whole register is replaced by one of its
places. The instances of a call are calls of the same gate with the same parameters, under the same
condition, and each does what the call does in one round.
-/

namespace CircuitConsole.Statement

open Expression Text

section Arguments

variable {s a q : List Char} {as : List (List Char)} {table : RegisterTable} {kind : RegisterKind}
  {span : Span} {i : Nat}

theorem spaced_joined_comma (h : ∀ a ∈ as, Spaced a) (hne : ∀ a ∈ as, a ≠ []) :
    Spaced (joined as) := by
  induction as with
  | nil => exact ⟨List.isChain_nil, by simp [joined], by simp [joined], by simp [joined]⟩
  | cons a as ih =>
    obtain ⟨ha, has⟩ := List.forall_mem_cons.mp h
    obtain ⟨hane, hasne⟩ := List.forall_mem_cons.mp hne
    cases as with
    | nil =>
      rw [joined, List.intercalate_singleton]
      exact ha
    | cons b as =>
      have hbehind : joined (b :: as) ≠ [] := by
        obtain ⟨c, rest, hb⟩ := List.exists_cons_of_ne_nil (hasne b (List.mem_cons_self ..))
        have hmem : c ∈ joined (b :: as) :=
          (infix_intercalate (List.mem_cons_self ..)).subset (hb ▸ List.mem_cons_self ..)
        exact List.ne_nil_of_mem hmem
      have hcomma : Spaced (',' :: joined (b :: as)) := (ih has hasne).cons (by decide) hbehind
      rw [joined_cons_cons]
      rw [← List.append_nil a] at ha
      exact ha.replace hcomma (List.cons_ne_nil _ _)

/-- References with commas between them are the arguments of a call if there is no blank in front
of them. -/
theorem argumentText_joined (hne : as ≠ []) (h : ∀ a ∈ as, ReferenceText a)
    (hspaced : Spaced (joined as)) : ArgumentText (joined as) where
  starts := by
    obtain ⟨a, more, rfl⟩ := List.exists_cons_of_ne_nil hne
    obtain ⟨c, rest, hleft, hc⟩ := (h a (List.mem_cons_self ..)).starts
    obtain ⟨behind, hbehind⟩ : ∃ behind, joined (a :: more) = a ++ behind := by
      cases more with
      | nil => exact ⟨[], by simp [joined]⟩
      | cons b more => exact ⟨_, joined_cons_cons a b more⟩
    have ha : trimLeft a = a := by
      cases a with
      | nil => rfl
      | cons d a =>
        have hd : isBlank d = false := hspaced.first d (by rw [hbehind]; rfl)
        rw [trimLeft, List.dropWhile_cons_of_neg (by simp [hd])]
    rw [ha] at hleft
    exact ⟨c, rest ++ behind, by rw [hbehind, hleft]; rfl, hc⟩
  characters c hc := by
    rcases mem_intercalate hc with hc | ⟨a, ha, hc⟩
    · exact .inr (List.mem_singleton.mp hc)
    · exact .inl ((h a ha).characters c hc)

theorem ArgumentText.plain (h : ArgumentText q) : Plain q where
  opening := h.not_mem (by decide) (by decide)
  closing := h.not_mem (by decide) (by decide)
  ending := h.not_mem (by decide) (by decide)
  uncommented := uncommented_of_not_mem (h.not_mem (by decide) (by decide))

theorem reference?_eq_some {name : List Char} {place : Option (List Char)}
    (h : reference? s = some (name, place)) : ∃ rest, identifier? s = some (name, rest) ∧
      ((place = none ∧ trimLeft rest = []) ∨
        ∃ digits, place = some digits ∧
          enclosedDigits? '[' ']' (trimLeft rest) = some (digits, [])) := by
  unfold reference? at h
  obtain ⟨⟨name', rest⟩, hname, h⟩ := Option.bind_eq_some_iff.mp h
  dsimp only at h
  split at h
  · rename_i hrest
    cases h
    exact ⟨rest, hname, .inl ⟨rfl, hrest⟩⟩
  · obtain ⟨⟨digits, behind⟩, hdigits, h⟩ := Option.bind_eq_some_iff.mp h
    dsimp only at h
    split at h
    · rename_i hbehind
      subst hbehind
      cases h
      exact ⟨rest, hname, .inr ⟨digits, rfl, hdigits⟩⟩
    · cases h

inductive Refers (table : RegisterTable) (a : List Char) : Span → Prop
  | whole {name : List Char} {r : Register} (hreference : reference? (trim a) = some (name, none))
      (hname : isIdentifier name = true) (hr : table.find? (String.ofList name) = some r)
      (hcount : r.size ≤ countLimit) : Refers table a ⟨r.offset, r.size⟩
  | place {name digits : List Char} (offset : Nat)
      (hreference : reference? (trim a) = some (name, some digits)) : Refers table a ⟨offset, 1⟩

theorem refers_of_resolve {room : Capacity} (h : resolve table kind a room = .ok span) :
    Refers table a span := by
  unfold resolve at h
  dsimp only at h
  split at h
  · cases h
  · rename_i name place hreference
    split at h
    · cases h
    · rename_i r hr
      cases place with
      | none =>
        obtain ⟨rest, hidentifier, -⟩ := reference?_eq_some hreference
        have hname := (identifier?_eq_some hidentifier).2
        unfold wholeSpan at h
        dsimp only at h
        split at h
        · cases h
        · rename_i hcount
          split at h
          · cases h
          · obtain rfl := Except.ok.inj h
            exact .whole hreference hname hr (not_lt.mp hcount)
      | some digits =>
        obtain ⟨index, -, h⟩ := bind_eq_ok.mp h
        split at h
        · cases h
        · obtain rfl := Except.ok.inj h
          exact .place _ hreference

/-- An argument in one instance: a whole register is replaced by the place whose turn it is, or by
its only one. -/
def instanceAt (table : RegisterTable) (i : Nat) (a : List Char) : List Char :=
  match reference? a with
  | some (name, none) =>
    match table.find? (String.ofList name) with
    | some r => indexed name (if 1 < r.size then i else 0)
    | none => a
  | _ => a

/-- In an instance an argument stands for the bit that it provides in that round. -/
theorem resolve_instanceAt {room : Capacity} (htable : table.Tiled)
    (h : resolve table kind a room = .ok span)
    (hi : 1 < span.size → i < span.size) :
    resolve table kind (instanceAt table i (trim a)) room = .ok ⟨span.at i, 1⟩ := by
  unfold instanceAt
  cases refers_of_resolve h with
  | @whole name r hreference hname hr hcount =>
    have hsize := (htable.bounds (List.mem_of_find?_eq_some hr)).1
    have hlimit : countLimit < 10 ^ digitLimit :=
      calc countLimit < 10 ^ 19 := by decide
        _ ≤ 10 ^ digitLimit := Nat.pow_le_pow_right (by decide) (by decide)
    simp only [hreference, hr]
    dsimp only at hi
    rw [resolve_indexed hname hr (by split <;> omega) (by split <;> omega), Span.at]
    split <;> rfl
  | @place name digits offset hreference =>
    rw [hreference]
    dsimp only
    rw [resolve_trim, h, Span.at, if_neg (lt_irrefl 1)]

theorem spaced_instanceAt {room : Capacity} (ha : Spaced (trim a))
    (h : resolve table kind a room = .ok span) :
    Spaced (instanceAt table i (trim a)) := by
  unfold instanceAt
  cases refers_of_resolve h with
  | @whole name r hreference hname hr hcount =>
    simp only [hreference, hr]
    exact (solid_indexed hname _).spaced
  | @place name digits offset hreference =>
    rw [hreference]
    exact ha

theorem commaParts_of_spaced (hq : Spaced q) (hne : q ≠ []) :
    commaParts q = (commaPieces 0 q).map trim := by
  unfold commaParts
  dsimp only
  rw [if_neg]
  intro hblank
  obtain ⟨p, hpieces, hp⟩ := List.map_eq_singleton_iff.mp hblank
  have hjoined := joined_commaPieces 0 q
  rw [hpieces, joined, List.intercalate_singleton] at hjoined
  rw [hjoined, hq.trim_eq] at hp
  exact hne hp

variable {spans : List Span} {room : Capacity} (hq : Spaced q) (hne : q ≠ [])
  (hspans : (commaParts q).mapM (resolve table kind · room) = .ok spans)

include hq hne hspans

theorem argumentText_of_spans : ArgumentText q := by
  have hjoined := joined_commaPieces 0 q
  rw [← hjoined]
  refine argumentText_joined (commaPieces_ne_nil 0 q) (fun p hp => ?_) (hjoined.symm ▸ hq)
  have hpart : trim p ∈ commaParts q := by
    rw [commaParts_of_spaced hq hne]
    exact List.mem_map_of_mem hp
  obtain ⟨span, -, hspan⟩ := exists_of_forall₂ (mapM_eq_ok.mp hspans).flip hpart
  rw [resolve_trim] at hspan
  exact referenceText_of_resolve hspan

omit hne hspans in
theorem spaced_part (ha : a ∈ commaParts q) : Spaced a ∧ trim a = a := by
  by_cases hne : q = []
  · subst hne
    cases ha
  rw [commaParts_of_spaced hq hne] at ha
  obtain ⟨p, hp, rfl⟩ := List.mem_map.mp ha
  have hinfix : p <:+: q := by
    rw [← joined_commaPieces 0 q]
    exact infix_intercalate hp
  exact ⟨hq.trim_part hinfix, trim_trim p⟩

omit hne in
/-- In an instance the arguments stand for the bits of one round. -/
theorem resolve_instances (htable : table.Tiled)
    (hi : ∀ s ∈ spans, 1 < s.size → i < s.size) :
    List.Forall₂ (fun a k => resolve table kind a room = .ok ⟨k, 1⟩)
      ((commaParts q).map (instanceAt table i)) (spans.map (·.at i)) := by
  refine List.forall₂_map_left_iff.mpr (List.forall₂_map_right_iff.mpr ?_)
  have hparts := (List.forall₂_and_left _ _).mpr
    ⟨fun a ha => (spaced_part hq ha).2, mapM_eq_ok.mp hspans⟩
  have hturns := (List.forall₂_and_left _ _).mpr ⟨hi, hparts.flip⟩
  refine hturns.flip.imp fun a span ⟨hsize, ha, hspan⟩ => ?_
  rw [← ha]
  exact resolve_instanceAt htable hspan hsize

theorem instances_written (htable : table.Tiled)
    (hi : ∀ s ∈ spans, 1 < s.size → i < s.size) :
    ArgumentText (joined ((commaParts q).map (instanceAt table i))) ∧
      Spaced (joined ((commaParts q).map (instanceAt table i))) := by
  have hreference : ∀ a ∈ (commaParts q).map (instanceAt table i), ReferenceText a := by
    intro a ha
    obtain ⟨k, -, hk⟩ := exists_of_forall₂ (resolve_instances hq hspans htable hi).flip ha
    exact referenceText_of_resolve hk
  have hspaced : Spaced (joined ((commaParts q).map (instanceAt table i))) := by
    refine spaced_joined_comma (fun a ha => ?_) fun a ha hnil => ?_
    · obtain ⟨b, hb, rfl⟩ := List.mem_map.mp ha
      obtain ⟨hspaced, htrim⟩ := spaced_part hq hb
      obtain ⟨span, -, hspan⟩ := exists_of_forall₂ (mapM_eq_ok.mp hspans).flip hb
      rw [← htrim] at hspaced ⊢
      exact spaced_instanceAt hspaced hspan
    · obtain ⟨c, rest, hstart, -⟩ := (hreference a ha).starts
      rw [hnil] at hstart
      cases hstart
  refine ⟨argumentText_joined ?_ hreference hspaced, hspaced⟩
  intro hnil
  rw [List.map_eq_nil_iff, commaParts_of_spaced hq hne, List.map_eq_nil_iff] at hnil
  exact commaPieces_ne_nil 0 q hnil

end Arguments

section Turns

variable {quantum classical : RegisterTable} {t x front : List Char} {turns : List (List Char)}
  {guard : Option (List Char × List Char)} {room : Capacity}

structure Written (t : List Char) : Prop where
  starts : ∃ c rest, t = c :: rest ∧ isIdentifierStart c = true
  plain : Plain t
  spaced : Spaced t

theorem Written.nonempty (h : Written t) : t ≠ [] := by
  obtain ⟨c, rest, rfl, -⟩ := h.starts
  exact List.cons_ne_nil c rest

/-- An operation put in the place of another one is a statement under the same condition. -/
theorem Written.statement_eq (hx : Written x) (hfront : Front guard front)
    (hplain : Plain (front ++ t)) (hspaced : Spaced (front ++ t))
    (hbare : guard = none → Form.of x = .operation x) :
    Plain (front ++ x) ∧ Spaced (front ++ x) ∧ ∀ d : Draft, d.statement (front ++ x) room =
      d.guard guard >>= fun condition => d.operation condition x (room.inside 1) := by
  have hfirst : x.head? ≠ some '/' := by
    obtain ⟨c, rest, rfl, hc⟩ := hx.starts
    rintro ⟨⟩
    cases hc
  have hplainx := hplain.replace hx.plain hfirst
  have hspacedx := hspaced.replace hx.spaced hx.nonempty
  exact ⟨hplainx, hspacedx, fun d => d.statement_of_form
    (hfront.form_of hplainx hspacedx hx.spaced hx.nonempty hbare)⟩

/-- An operation on whole registers and single bits, and its instances. All registers of more than
one bit have the same size, and there are as many instances; if there are none, there is one. -/
inductive Repeats (quantum classical : RegisterTable) (room : Capacity) :
    List Char → List (List Char) → Prop
  | call {head : List Char} {form : CallForm} {spans : List Span} {width : Nat}
      (hcall : IsCall (head ++ form.qubits) form) (hne : form.qubits ≠ [])
      (hspans : (commaParts form.qubits).mapM (resolve quantum .quantum · room) = .ok spans)
      (hwidth : CommonWidth spans width) :
      Repeats quantum classical room (head ++ form.qubits) ((List.range width).map fun i =>
        head ++ joined ((commaParts form.qubits).map (instanceAt quantum i)))
  | measurement {t source target : List Char} {qubits bits : Span}
      (ht : measurement? t = some (source, target))
      (hsource : resolve quantum .quantum source room = .ok qubits)
      (htarget : resolve classical .classical target room = .ok bits)
      (hsizes : qubits.size = bits.size) :
      Repeats quantum classical room t ((List.range qubits.size).map fun i =>
        measureText (instanceAt quantum i (trim source)) (instanceAt classical i (trim target)))
  | reset {t target : List Char} {qubits : Span} (hmeasurement : measurement? t = none)
      (ht : resetTarget? t = some target)
      (htarget : resolve quantum .quantum target room = .ok qubits) :
      Repeats quantum classical room t ((List.range qubits.size).map fun i =>
        resetText (instanceAt quantum i (trim target)))

/-- What finds a whole register or a place in it finds some bit. -/
theorem size_pos_of_resolve {table : RegisterTable} {kind : RegisterKind} {a : List Char}
    {span : Span} (htable : table.Tiled) (h : resolve table kind a room = .ok span) :
    0 < span.size := by
  cases refers_of_resolve h with
  | whole hreference hname hr hcount => exact (htable.bounds (List.mem_of_find?_eq_some hr)).1
  | place offset hreference => exact Nat.one_pos

theorem at_eq_add {s : Span} {i : Nat} (hi : i < s.size) : s.at i = s.offset + i := by
  unfold Span.at
  split
  · rfl
  · omega

/-- The bits of an argument in the order of the rounds. -/
theorem toList_eq_map (s : Span) : s.toList = (List.range s.size).map s.at := by
  rw [Span.toList, List.range'_eq_map_range]
  exact List.map_congr_left fun i hi => (at_eq_add (List.mem_range.mp hi)).symm

/-- Instances of one instruction each queue what the operation queues. -/
theorem worked_instructions {d : Draft} {n : Nat} {text : Nat → List Char}
    (instruction : Nat → Instruction Float) (hn : 0 < n)
    (hoperation : ∀ condition, d.operation condition t (room.inside 2) =
      .ok (d.enqueue condition ((List.range n).map instruction)))
    (hturn : ∀ i < n, ∀ queue condition,
      { d with queue }.operation condition (text i) (room.inside 2) =
        .ok ({ d with queue }.enqueue condition [instruction i]))
    (hstatement : ∀ i < n, ∀ d : Draft, d.statement (front ++ text i) (room.inside 1) =
      d.guard guard >>= fun condition => d.operation condition (text i) (room.inside 2)) :
    d.worked ((List.range n).map fun i => front ++ text i) room =
      (d.guard guard >>= fun condition => d.operation condition t (room.inside 2)).toOption := by
  have hone : ∀ i ∈ List.range n, ∀ queue,
      { d with queue }.statement (front ++ text i) (room.inside 1) =
      d.guard guard >>= fun condition =>
        (Except.ok [instruction i]).map ({ d with queue }.enqueue condition) := by
    intro i hi queue
    rw [hstatement i (List.mem_range.mp hi)]
    exact bind_congr fun condition => hturn i (List.mem_range.mp hi) queue condition
  have hne : List.range n ≠ [] := by simpa using hn.ne'
  refine (Draft.worked_repeated hne hone).trans (congrArg Except.toOption ?_)
  refine bind_congr fun condition => ?_
  rw [mapM_of_forall (g := fun i => [instruction i]) fun i _ => rfl, hoperation]
  exact congrArg (fun part => Except.ok (d.enqueue condition part))
    List.map_eq_flatMap.symm

theorem resetTarget?_suffix {target : List Char} (h : resetTarget? t = some target) :
    target <:+ t := by
  unfold resetTarget? at h
  obtain ⟨rest, hrest, h⟩ := Option.bind_eq_some_iff.mp h
  obtain ⟨blanks, hblanks, hrest⟩ := Option.bind_eq_some_iff.mp hrest
  split at h
  · cases h
  · cases h
    rw [afterBlanks?_eq_some hrest]
    exact (trimLeft_suffix blanks).trans (afterPrefix?_suffix hblanks)

theorem trimLeft_qubits {form : CallForm} (h : call? t = some form) :
    trimLeft form.qubits = form.qubits := by
  have hleft (s : List Char) : trimLeft (trimLeft s) = trimLeft s := List.dropWhile_idempotent ..
  rw [call?_eq] at h
  obtain ⟨⟨name, rest⟩, -, rfl⟩ := Option.map_eq_some_iff.mp h
  dsimp only
  unfold callBehind
  cases (afterPrefix? ['('] (trimLeft rest)).bind (aroundLast? ')') with
  | none => exact hleft rest
  | some p => exact hleft p.2

/-- A call by the word of a declaration on one whole register. Its instances are read as
declarations. -/
def Redeclares (t : List Char) : Prop :=
  ∃ word ∈ registerWords, ∃ name, isIdentifier name = true ∧ t = word ++ ' ' :: name

/-- The word of a declaration with a reference to a place behind it is a declaration. -/
theorem declaration?_of_reference {word name digits q : List Char} (hword : word ∈ registerWords)
    (hq : reference? q = some (name, some digits)) :
    ∃ kind, declaration? (word ++ ' ' :: q) = some (kind, name, digits) := by
  obtain ⟨rest, hname, ⟨hnone, -⟩ | ⟨digits', hdigits', hdigits⟩⟩ := reference?_eq_some hq
  · cases hnone
  cases hdigits'
  have hleft : trimLeft q = q := by
    cases q with
    | nil => rfl
    | cons c q =>
      have hstart : isIdentifierStart c = true := by
        rw [identifier?] at hname
        split at hname
        · assumption
        · cases hname
      rw [trimLeft, List.dropWhile_cons_of_neg
        (by simp [isBlank_of_isWord (isWord_of_isIdentifierStart hstart)])]
  have hbehind : afterBlanks? (' ' :: q) = some q := by
    change some (trimLeft q) = some q
    rw [hleft]
  simp only [registerWords, List.mem_cons, List.not_mem_nil, or_false] at hword
  rcases hword with rfl | rfl
  · refine ⟨.quantum, ?_⟩
    unfold declaration?
    rw [afterPrefix?_append]
    simp [hbehind, hname, hdigits]
  · refine ⟨.classical, ?_⟩
    have hquantum : afterPrefix? "qreg".toList ("creg".toList ++ ' ' :: q) = none := rfl
    unfold declaration?
    rw [hquantum, afterPrefix?_append]
    simp [hbehind, hname, hdigits]

section Calls

variable {head : List Char} {form : CallForm} {spans : List Span} {i : Nat}
  (hspaced : Spaced (head ++ form.qubits)) (hcall : IsCall (head ++ form.qubits) form)
  (hne : form.qubits ≠ [])
  (hspans : (commaParts form.qubits).mapM (resolve quantum .quantum · room) = .ok spans)

include hspaced hcall hne hspans

theorem call_arguments : ArgumentText form.qubits ∧ Spaced form.qubits ∧
    isIdentifier form.gate = true ∧ CallHead form.gate form.parameters head := by
  have hqubits : Spaced form.qubits := hspaced.end (trimLeft_qubits hcall.call)
  have harguments := argumentText_of_spans hqubits hne hspans
  obtain ⟨hgate, hhead⟩ := callHead_of_call hcall.call harguments rfl
  exact ⟨harguments, hqubits, hgate, hhead⟩

/-- The instance of a call is a call of the same gate with the same parameters. -/
theorem call_instance (htable : quantum.Tiled) (hi : ∀ s ∈ spans, 1 < s.size → i < s.size) :
    IsCall (head ++ joined ((commaParts form.qubits).map (instanceAt quantum i)))
      { form with qubits := joined ((commaParts form.qubits).map (instanceAt quantum i)) } := by
  obtain ⟨harguments, hqubits, hgate, hhead⟩ := call_arguments hspaced hcall hne hspans
  obtain ⟨hwritten, -⟩ := instances_written hqubits hne hspans htable hi
  exact hhead.isCall hgate harguments hwritten hcall

/-- The instance of a call is one round of it. -/
theorem operation_instance {d : Draft} {condition : Option Condition} (hd : d.quantum = quantum)
    (htable : quantum.Tiled) (hi : ∀ s ∈ spans, 1 < s.size → i < s.size) :
    d.operation condition
        (head ++ joined ((commaParts form.qubits).map (instanceAt quantum i))) room =
      d.callValues form room >>= fun parameters =>
        d.round condition (String.ofList form.gate) parameters (spans.map (·.at i)) room := by
  subst hd
  obtain ⟨harguments, hqubits, -⟩ := call_arguments hspaced hcall hne hspans
  obtain ⟨hwritten, -⟩ := instances_written hqubits hne hspans htable hi
  have hplaces := mapM_resolve_joined (resolve_instances hqubits hspans htable hi)
  have hcount : (commaParts (joined
      ((commaParts form.qubits).map (instanceAt d.quantum i)))).length =
        (commaParts form.qubits).length := by
    rw [← length_of_mapM hplaces, List.length_map, List.length_map, length_of_mapM hspans]
  rw [(call_instance hspaced hcall hne hspans htable hi).operation_eq hwritten.nonempty,
    d.call_single condition hplaces]
  unfold Draft.callValues
  rw [hcount]

omit hcall in
/-- By the word of a declaration a call has several arguments, or one whole register. -/
theorem comma_or_redeclares {b : List Char} (f : List Char → List Char)
    (hqubits : Spaced form.qubits) (hdeclaration : declaration? (head ++ form.qubits) = none)
    (hb : ∀ c ∈ b, isBlank c = true) (hbne : b ≠ []) (hhead : head = form.gate ++ b)
    (hword : form.gate ∈ registerWords) :
    ',' ∈ joined ((commaParts form.qubits).map f) ∨ Redeclares (head ++ form.qubits) := by
  have hjoined := joined_commaPieces 0 form.qubits
  rw [commaParts_of_spaced hqubits hne] at hspans ⊢
  cases hpieces : commaPieces 0 form.qubits with
  | nil => exact absurd hpieces (commaPieces_ne_nil 0 form.qubits)
  | cons p more =>
    cases more with
    | cons p' more =>
      left
      rw [List.map_cons, List.map_cons, List.map_cons, List.map_cons, joined_cons_cons]
      exact List.mem_append_right _ (List.mem_cons_self ..)
    | nil =>
      right
      rw [hpieces, joined, List.intercalate_singleton] at hjoined
      subst hjoined
      rw [hpieces] at hspans
      obtain ⟨span, -, hspan⟩ := exists_of_forall₂ (mapM_eq_ok.mp hspans).flip
        (List.mem_map_of_mem (List.mem_singleton_self _))
      rw [hhead, List.append_assoc] at hspaced hdeclaration ⊢
      obtain rfl := hspaced.blanks_eq hb hbne
      cases refers_of_resolve hspan with
      | @whole name r hreference hname hr hcount =>
        rw [trim_trim, hqubits.trim_eq] at hreference
        obtain ⟨rest, hidentifier, ⟨-, hrest⟩ | ⟨digits, hnone, -⟩⟩ := reference?_eq_some hreference
        · have hq := (identifier?_eq_some hidentifier).1
          rw [hq] at hqubits ⊢
          obtain rfl := hqubits.blanks_end (trimLeft_eq_nil.mp hrest)
          exact ⟨_, hword, name, hname, by rw [List.append_nil]; rfl⟩
        · cases hnone
      | @place name digits offset hreference =>
        rw [trim_trim, hqubits.trim_eq] at hreference
        obtain ⟨kind, hkind⟩ := declaration?_of_reference hword hreference
        have hnone : declaration? (form.gate ++ ' ' :: form.qubits) = none := hdeclaration
        rw [hkind] at hnone
        cases hnone

end Calls

section Instances

variable {d : Draft} {source target : List Char} {qubits bits : Span} {i : Nat}

theorem measurement_instance (hquantum : d.quantum.Tiled) (hclassical : d.classical.Tiled)
    (hspaced : Spaced t) (ht : measurement? t = some (source, target))
    (hsource : resolve d.quantum .quantum source room = .ok qubits)
    (htarget : resolve d.classical .classical target room = .ok bits) (hi : i < qubits.size)
    (hi' : i < bits.size) : OperationText d room (.measure (qubits.at i) (bits.at i))
      (measureText (instanceAt d.quantum i (trim source))
        (instanceAt d.classical i (trim target))) := by
  have hsourceSpaced := hspaced.trim_part (infix_source ht)
  rw [trim_trim] at hsourceSpaced
  have htargetSpaced := hspaced.trim_part (measurement?_suffix ht).1.isInfix
  exact operationText_measure (spaced_instanceAt hsourceSpaced hsource)
    (spaced_instanceAt htargetSpaced htarget) (resolve_instanceAt hquantum hsource fun _ => hi)
    (resolve_instanceAt hclassical htarget fun _ => hi')

theorem reset_instance (hquantum : d.quantum.Tiled) (hspaced : Spaced t)
    (ht : resetTarget? t = some target)
    (htarget : resolve d.quantum .quantum target room = .ok qubits) (hi : i < qubits.size) :
    OperationText d room (.reset (qubits.at i))
      (resetText (instanceAt d.quantum i (trim target))) :=
  operationText_reset
    (spaced_instanceAt (hspaced.trim_part (resetTarget?_suffix ht).isInfix) htarget)
    (resolve_instanceAt hquantum htarget fun _ => hi)

end Instances

/-- Instances of a call each queue what one round of it queues. -/
theorem worked_calls {d : Draft} {head : List Char} {form : CallForm} {spans : List Span}
    {width : Nat} (hquantum : d.quantum.Tiled) (hspaced : Spaced (head ++ form.qubits))
    (hcall : IsCall (head ++ form.qubits) form) (hne : form.qubits ≠ [])
    (hspans : (commaParts form.qubits).mapM (resolve d.quantum .quantum · (room.inside 2)) =
      .ok spans) (hwidth : CommonWidth spans width)
    (hstatement : ∀ i < width, ∀ e : Draft, e.statement (front ++ (head ++
      joined ((commaParts form.qubits).map (instanceAt d.quantum i)))) (room.inside 1) =
        e.guard guard >>= fun condition => e.operation condition (head ++
          joined ((commaParts form.qubits).map (instanceAt d.quantum i))) (room.inside 2)) :
    d.worked ((List.range width).map fun i => front ++ (head ++
        joined ((commaParts form.qubits).map (instanceAt d.quantum i)))) room =
      (d.guard guard >>= fun condition =>
        d.operation condition (head ++ form.qubits) (room.inside 2)).toOption := by
  have hturn : ∀ i ∈ List.range width, ∀ queue, { d with queue }.statement (front ++ (head ++
      joined ((commaParts form.qubits).map (instanceAt d.quantum i)))) (room.inside 1) =
        (d.guard guard >>= fun condition =>
          (d.callValues form (room.inside 2)).map (condition, ·)) >>=
          fun found => (expand (room.calls - 2 - 1) d.definitions.reverse (String.ofList form.gate)
            found.2 (spans.map (·.at i))).map ({ d with queue }.enqueue found.1) := by
    intro i hi queue
    have hturns : ∀ s ∈ spans, 1 < s.size → i < s.size := fun s hs hsize =>
      hwidth.lt hs hsize (List.mem_range.mp hi)
    rw [hstatement i (List.mem_range.mp hi), bind_assoc]
    refine bind_congr fun condition => ?_
    have hvalues : Draft.callValues { d with queue } form (room.inside 2) =
        d.callValues form (room.inside 2) := rfl
    rw [operation_instance (d := { d with queue }) hspaced hcall hne hspans rfl hquantum hturns,
      hvalues]
    cases d.callValues form (room.inside 2) <;> rfl
  have hrange : List.range width ≠ [] := by simpa using hwidth.pos.ne'
  refine (Draft.worked_repeated hrange hturn).trans (congrArg Except.toOption ?_)
  rw [bind_assoc]
  refine bind_congr fun condition => ?_
  rw [hcall.operation_eq hne, d.call_of_spans condition hspans hwidth.broadcast_eq]
  simp only [List.mapM_map]
  cases d.callValues form (room.inside 2) <;> rfl

/-- Statements of the instances do what the statement does. -/
theorem Repeats.worked_eq {d : Draft} (h : Repeats d.quantum d.classical room t turns)
    (hquantum : d.quantum.Tiled) (hclassical : d.classical.Tiled) (hspaced : Spaced t)
    (hstatement : ∀ x ∈ turns, ∀ d : Draft, d.statement (front ++ x) (room.inside 1) =
      d.guard guard >>= fun condition => d.operation condition x (room.inside 2)) :
    d.worked (turns.map (front ++ ·)) room =
      (d.guard guard >>= fun condition => d.operation condition t (room.inside 2)).toOption := by
  cases h with
  | @call head form spans width hcall hne hspans hwidth =>
    rw [List.map_map]
    exact worked_calls hquantum hspaced hcall hne hspans hwidth fun i hi =>
      hstatement _ (List.mem_map_of_mem (List.mem_range.mpr hi))
  | @measurement _ source target qubits bits ht hsource htarget hsizes =>
    rw [← resolve_inside 2] at hsource htarget
    rw [List.map_map]
    refine worked_instructions (fun i => .measure (qubits.at i) (bits.at i))
      (size_pos_of_resolve hquantum hsource) ?_ ?_
      fun i hi => hstatement _ (List.mem_map_of_mem (List.mem_range.mpr hi))
    · intro condition
      rw [operation_measurement ht]
      simp only [hsource, htarget, hsizes, bind, Except.bind]
      rw [if_neg (not_not.mpr rfl), toList_eq_map, toList_eq_map, hsizes, List.zipWith_map,
        List.zipWith_self]
    · intro i hi queue condition
      exact (measurement_instance (d := { d with queue }) hquantum hclassical hspaced ht hsource
        htarget hi (hsizes ▸ hi)).reads condition
  | @reset _ target qubits hmeasurement ht htarget =>
    rw [← resolve_inside 2] at htarget
    rw [List.map_map]
    refine worked_instructions (fun i => .reset (qubits.at i))
      (size_pos_of_resolve hquantum htarget) ?_ ?_
      fun i hi => hstatement _ (List.mem_map_of_mem (List.mem_range.mpr hi))
    · intro condition
      rw [operation_reset hmeasurement ht, htarget, Except.map, toList_eq_map, List.map_map]
      rfl
    · intro i hi queue condition
      exact (reset_instance (d := { d with queue }) hquantum hspaced ht htarget hi).reads condition

theorem OperationText.written {d : Draft} {instruction : Instruction Float}
    (h : OperationText d room instruction x)
    (hstarts : ∃ c rest, x = c :: rest ∧ isIdentifierStart c = true) : Written x :=
  ⟨hstarts, h.plain, h.spaced⟩

/-- The instances are operations as they are written. -/
theorem Repeats.written (h : Repeats quantum classical room t turns) (hquantum : quantum.Tiled)
    (hclassical : classical.Tiled) (hplain : Plain t) (hspaced : Spaced t) :
    ∀ x ∈ turns, Written x := by
  cases h with
  | @call head form spans width hcall hne hspans hwidth =>
    obtain ⟨harguments, hqubits, hgate, hhead⟩ := call_arguments hspaced hcall hne hspans
    refine List.forall_mem_map.mpr fun i hi => ?_
    have hi := List.mem_range.mp hi
    obtain ⟨hwritten, hjoined⟩ := instances_written hqubits hne hspans hquantum
      fun s hs hsize => hwidth.lt hs hsize hi
    have hfirst : (joined ((commaParts form.qubits).map (instanceAt quantum i))).head? ≠
        some '/' := fun hfirst =>
      hwritten.not_mem (by decide) (by decide) (List.mem_of_head? hfirst)
    refine ⟨?_, hplain.replace hwritten.plain hfirst, hspaced.replace hjoined hwritten.nonempty⟩
    obtain ⟨c, u, -, hgatehead⟩ := hhead.exists_cons
    cases hname : form.gate with
    | nil =>
      rw [hname] at hgate
      cases hgate
    | cons d gate =>
      rw [hname] at hgate
      rw [hgatehead, hname]
      exact ⟨d, _, rfl, (Bool.and_eq_true_iff.mp hgate).1⟩
  | @measurement _ source target qubits bits ht hsource htarget hsizes =>
    refine List.forall_mem_map.mpr fun i hi => ?_
    have hi := List.mem_range.mp hi
    exact (measurement_instance (d := ⟨quantum, classical, [], [], false⟩) hquantum hclassical
      hspaced ht hsource htarget hi (hsizes ▸ hi)).written ⟨'m', _, rfl, by decide⟩
  | @reset _ target qubits hmeasurement ht htarget =>
    refine List.forall_mem_map.mpr fun i hi => ?_
    exact (reset_instance (d := ⟨quantum, classical, [], [], false⟩) hquantum hspaced ht htarget
      (List.mem_range.mp hi)).written ⟨'r', _, rfl, by decide⟩

/-- The instances of a statement by itself are statements by themselves. -/
theorem Repeats.form_of (h : Repeats quantum classical room t turns) (hquantum : quantum.Tiled)
    (hclassical : classical.Tiled) (hplain : Plain t) (hspaced : Spaced t)
    (hdeclaration : declaration? t = none) (hconditional : conditional? t = none)
    (hread : ¬ Redeclares t) : ∀ x ∈ turns, Form.of x = .operation x := by
  have hwritten := h.written hquantum hclassical hplain hspaced
  cases h with
  | @call head form spans width hcall hne hspans hwidth =>
    obtain ⟨harguments, hqubits, hgate, hhead⟩ := call_arguments hspaced hcall hne hspans
    refine List.forall_mem_map.mpr fun i hi => ?_
    obtain ⟨-, hplain', hspaced'⟩ := hwritten _ (List.mem_map_of_mem hi)
    have hi := List.mem_range.mp hi
    obtain ⟨hinstance, -⟩ := instances_written hqubits hne hspans hquantum
      fun s hs hsize => hwidth.lt hs hsize hi
    refine hhead.form_of hgate harguments hinstance (fun b hb hgatehead hword => ?_) hconditional
      hplain' hspaced'
    have hbne : b ≠ [] := by
      obtain ⟨c, u, -, hcons⟩ := hhead.exists_cons
      rw [List.append_cancel_left (hgatehead.symm.trans hcons)]
      exact List.cons_ne_nil c u
    exact (comma_or_redeclares hspaced hne hspans _ hqubits hdeclaration hb hbne hgatehead
      hword).resolve_right hread
  | @measurement _ source target qubits bits ht hsource htarget hsizes =>
    refine List.forall_mem_map.mpr fun i hi => ?_
    have hi := List.mem_range.mp hi
    exact (measurement_instance (d := ⟨quantum, classical, [], [], false⟩) hquantum hclassical
      hspaced ht hsource htarget hi (hsizes ▸ hi)).form
  | @reset _ target qubits hmeasurement ht htarget =>
    refine List.forall_mem_map.mpr fun i hi => ?_
    exact (reset_instance (d := ⟨quantum, classical, [], [], false⟩) hquantum hspaced ht htarget
      (List.mem_range.mp hi)).form

end Turns

end CircuitConsole.Statement
