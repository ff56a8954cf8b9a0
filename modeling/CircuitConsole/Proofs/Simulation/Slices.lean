import CircuitConsole.Proofs.Simulation.PlainKernel

/-!
Parts of a tensor where some axes are held. Which axes are held is known from the list of their
values, and the open ones are those left over. Replacing digits of the part's index replaces the
digits on the corresponding axes of the whole tensor. When distinct axes are held, the count of
those before another axis tells where that axis went.
-/

namespace CircuitConsole.Simulation

theorem ext_digitAt {x y : List Bool} (hlength : x.length = y.length)
    (h : ∀ a, a < x.length → digitAt x a = digitAt y a) : x = y := by
  refine List.ext_getElem hlength fun a hx hy => ?_
  simpa [digitAt, hx, hy] using h a hx

/-- A place among the numbers that pass a test is the count of those before it. -/
theorem getElem?_filter_range {p : Nat → Bool} {n t : Nat} (ht : t < n) (hp : p t = true) :
    ((List.range n).filter p)[((List.range t).filter p).length]? = some t := by
  obtain ⟨k, rfl⟩ : ∃ k, n = t + (k + 1) := ⟨n - t - 1, by omega⟩
  rw [List.range_add, List.filter_append, List.range_succ_eq_map]
  simp [hp]

/-- Among pairs with distinct keys, a key is looked up with the value it is paired with. -/
theorem lookup_of_mem {α β : Type} [BEq α] [LawfulBEq α] {pairs : List (α × β)}
    (hdistinct : (pairs.map (·.1)).Nodup) {a : α} {b : β} (h : (a, b) ∈ pairs) :
    pairs.lookup a = some b := by
  induction pairs with
  | nil => simp at h
  | cons pair pairs ih =>
    obtain ⟨hkey, hdistinct⟩ := List.nodup_cons.mp hdistinct
    rcases List.mem_cons.mp h with rfl | h
    · exact List.lookup_cons_self
    · have hmem : a ∈ pairs.map (·.1) := List.mem_map.mpr ⟨(a, b), h, rfl⟩
      have hne : (a == pair.1) = false := beq_eq_false_iff_ne.mpr (ne_of_mem_of_not_mem hmem hkey)
      rw [List.lookup_cons, hne]
      exact ih hdistinct h

theorem mem_of_lookup {α β : Type} [BEq α] [LawfulBEq α] {pairs : List (α × β)} {a : α} {b : β}
    (h : pairs.lookup a = some b) : (a, b) ∈ pairs := by
  obtain ⟨before, after, rfl, _⟩ := List.lookup_eq_some_iff.mp h
  simp

namespace Slice

variable {s : Slice}

theorem mem_openAxes {a : Nat} : a ∈ s.openAxes ↔ s[a]? = some none := by
  simp only [openAxes, List.mem_filter, List.mem_range, decide_eq_true_eq, and_iff_right_iff_imp]
  exact fun h => (List.getElem?_eq_some_iff.mp h).1

theorem nodup_openAxes (s : Slice) : s.openAxes.Nodup :=
  List.nodup_range.filter _

theorem lt_of_mem_openAxes {a : Nat} (h : a ∈ s.openAxes) : a < s.length :=
  (List.getElem?_eq_some_iff.mp (mem_openAxes.mp h)).1

@[simp] theorem length_fill (s : Slice) (digits : List Bool) :
    (s.fill digits).length = s.length := by
  simp [fill]

theorem digitAt_fill_held {a : Nat} {b : Bool} (h : s[a]? = some (some b)) (digits : List Bool) :
    digitAt (s.fill digits) a = b := by
  simp [digitAt, fill, h]

theorem digitAt_fill_open {a : Nat} (h : s[a]? = some none) (digits : List Bool) :
    digitAt (s.fill digits) a = digitFor s.openAxes digits a := by
  simp [digitAt, fill, h]

/-- An index of a tensor has the digits that are held. -/
theorem holds_iff {x : List Bool} (hx : x.length = s.length) :
    s.holds x = true ↔ ∀ a b, s[a]? = some (some b) → digitAt x a = b := by
  rw [holds, List.all_eq_true]
  constructor
  · intro h a b hheld
    obtain ⟨ha, hget⟩ := List.getElem?_eq_some_iff.mp hheld
    have hmem : (s[a], x[a]) ∈ s.zip x := List.mem_iff_getElem.mpr ⟨a, by simp [hx, ha], by simp⟩
    have hdigit := h _ hmem
    simp only [hget, Option.all_some, decide_eq_true_eq] at hdigit
    simp [digitAt, hx, ha, hdigit]
  · rintro h ⟨held, digit⟩ hmem
    obtain ⟨a, ha, hpair⟩ := List.mem_iff_getElem.mp hmem
    rw [List.getElem_zip] at hpair
    obtain ⟨hheld, hdigit⟩ := Prod.mk.inj hpair
    cases held with
    | none => rfl
    | some b =>
      have hget : s[a]? = some (some b) := by
        rw [List.getElem?_eq_some_iff]
        exact ⟨_, hheld⟩
      have hlt : a < x.length := by
        rw [List.length_zip] at ha
        omega
      have hx : digitAt x a = digit := by
        rw [← hdigit]
        simp [digitAt, hlt]
      simp only [Option.all_some, decide_eq_true_eq]
      rw [← hx, h a b hget]

def openAxis (s : Slice) (place : Nat) : Nat := s.openAxes[place]?.getD 0

theorem openAxis_eq {place : Nat} (h : place < s.openAxes.length) :
    s.openAxis place = s.openAxes[place] := by
  simp [openAxis, h]

theorem openAxis_mem {place : Nat} (h : place < s.openAxes.length) :
    s.openAxis place ∈ s.openAxes :=
  openAxis_eq h ▸ List.getElem_mem h

theorem openAxis_inj {p q : Nat} (hp : p < s.openAxes.length) (hq : q < s.openAxes.length)
    (h : s.openAxis p = s.openAxis q) : p = q := by
  rw [openAxis_eq hp, openAxis_eq hq] at h
  exact (List.Nodup.getElem_inj_iff s.nodup_openAxes).mp h

theorem nodup_map_openAxis {source : List Nat} (hdistinct : source.Nodup)
    (hrange : ∀ p ∈ source, p < s.openAxes.length) : (source.map s.openAxis).Nodup :=
  hdistinct.map_on fun p hp q hq h => openAxis_inj (hrange p hp) (hrange q hq) h

theorem openAxis_mem_map {source : List Nat} (hrange : ∀ p ∈ source, p < s.openAxes.length)
    {p : Nat} (hp : p < s.openAxes.length) :
    s.openAxis p ∈ source.map s.openAxis ↔ p ∈ source := by
  constructor
  · intro h
    obtain ⟨q, hq, heq⟩ := List.mem_map.mp h
    exact openAxis_inj (hrange q hq) hp heq ▸ hq
  · exact List.mem_map_of_mem

/-- The digits on axes of the part are those on the axes of the whole tensor. -/
theorem digitsAt_openAxes {source : List Nat} (hrange : ∀ p ∈ source, p < s.openAxes.length)
    (x : List Bool) :
    digitsAt source (digitsAt s.openAxes x) = digitsAt (source.map s.openAxis) x := by
  refine (List.map_congr_left fun p hp => ?_).trans List.map_map.symm
  rw [digitAt_digitsAt (hrange p hp), Function.comp_apply, openAxis_eq (hrange p hp)]

/-- Digits given to axes of the part go to the axes of the whole tensor. -/
theorem digitFor_map_openAxis {source : List Nat} (hdistinct : source.Nodup)
    (hrange : ∀ p ∈ source, p < s.openAxes.length) {p : Nat} (hp : p ∈ source)
    (digits : List Bool) :
    digitFor (source.map s.openAxis) digits (s.openAxis p) = digitFor source digits p := by
  obtain ⟨j, hj, rfl⟩ := List.getElem_of_mem hp
  have hj' : j < (source.map s.openAxis).length := by simpa using hj
  have hplace := digitFor_getElem (nodup_map_openAxis hdistinct hrange) hj' digits
  rw [List.getElem_map] at hplace
  rw [hplace, digitFor_getElem hdistinct hj]

/-- Replacing digits of the part's index replaces digits of an index of the whole tensor that has
the digits held. -/
theorem fill_replaceDigits {source : List Nat} (hdistinct : source.Nodup)
    (hrange : ∀ p ∈ source, p < s.openAxes.length) {x : List Bool} (hx : x.length = s.length)
    (hholds : s.holds x = true) (digits : List Bool) :
    s.fill (replaceDigits s.openAxes.length source digits (digitsAt s.openAxes x)) =
      replaceDigits s.length (source.map s.openAxis) digits x := by
  refine ext_digitAt (by simp) fun a ha => ?_
  rw [length_fill] at ha
  rw [digitAt_replaceDigits ha]
  cases hheld : s[a] with
  | some b =>
    have hget : s[a]? = some (some b) := List.getElem?_eq_some_iff.mpr ⟨ha, hheld⟩
    have hmem : a ∉ source.map s.openAxis := by
      intro h
      obtain ⟨p, hp, rfl⟩ := List.mem_map.mp h
      have hopen := mem_openAxes.mp (openAxis_mem (hrange p hp))
      rw [hget] at hopen
      cases hopen
    rw [digitAt_fill_held hget, if_neg hmem, (holds_iff hx).mp hholds a b hget]
  | none =>
    have hget : s[a]? = some none := List.getElem?_eq_some_iff.mpr ⟨ha, hheld⟩
    obtain ⟨p, hp, hplace⟩ := List.getElem_of_mem (mem_openAxes.mpr hget)
    have hopen : s.openAxis p = a := (openAxis_eq hp).trans hplace
    rw [digitAt_fill_open hget, ← hopen, openAxis_eq hp, digitFor_getElem s.nodup_openAxes hp,
      digitAt_replaceDigits hp, ← openAxis_eq hp]
    by_cases hmem : p ∈ source
    · rw [if_pos hmem, if_pos ((openAxis_mem_map hrange hp).mpr hmem),
        digitFor_map_openAxis hdistinct hrange hmem]
    · rw [if_neg hmem, if_neg fun h => hmem ((openAxis_mem_map hrange hp).mp h),
        digitAt_digitsAt hp, openAxis_eq hp]

end Slice

/-! ### Which axes are held -/

/-- An axis is held if it is given a value, and at the digit which the last such value means. -/
theorem getElem?_holdAxes {d : Nat} {held : List (Nat × Int)} {s : Slice}
    (h : holdAxes d held = .ok s) {a : Nat} (ha : a < d) :
    match held.reverse.lookup a with
    | some value => ∃ b, heldValue a value = .ok b ∧ s[a]? = some (some b)
    | none => s[a]? = some none := by
  have hlength := length_of_mapM h
  rw [List.length_range] at hlength
  have hentry := (List.forall₂_iff_get.mp (mapM_eq_ok.mp h)).2 a (by simpa using ha) (hlength ▸ ha)
  simp only [List.get_eq_getElem, List.getElem_range] at hentry
  cases hvalue : held.reverse.lookup a with
  | some value =>
    simp only [hvalue] at hentry
    obtain ⟨b, hb, hget⟩ := map_eq_ok.mp hentry
    exact ⟨b, hb, List.getElem?_eq_some_iff.mpr ⟨hlength ▸ ha, hget.symm⟩⟩
  | none =>
    simp only [hvalue] at hentry
    exact List.getElem?_eq_some_iff.mpr ⟨hlength ▸ ha, (Except.ok.inj hentry).symm⟩

theorem length_of_holdAxes {d : Nat} {held : List (Nat × Int)} {s : Slice}
    (h : holdAxes d held = .ok s) : s.length = d := by
  rw [length_of_mapM h, List.length_range]

theorem lookup_reverse_eq_none {held : List (Nat × Int)} {a : Nat} :
    held.reverse.lookup a = none ↔ a ∉ held.map (·.1) := by
  rw [List.lookup_eq_none_iff]
  simp only [List.mem_reverse, bne_iff_ne, List.mem_map, not_exists, not_and]
  exact forall₂_congr fun pair _ => ne_comm

/-- The open axes are those that are given no value. -/
theorem openAxes_of_holdAxes {d : Nat} {held : List (Nat × Int)} {s : Slice}
    (h : holdAxes d held = .ok s) : s.openAxes = otherAxes d (held.map (·.1)) := by
  rw [Slice.openAxes, otherAxes, length_of_holdAxes h]
  refine List.filter_congr fun a ha => ?_
  have hget := getElem?_holdAxes h (List.mem_range.mp ha)
  have hnone : held.reverse.lookup a = none ↔ a ∉ held.map (·.1) := lookup_reverse_eq_none
  split at hget
  · rename_i value hvalue
    obtain ⟨b, _, hget⟩ := hget
    rw [hvalue] at hnone
    have hmem : a ∈ held.map (·.1) := by simpa using hnone
    simp [hget, hmem]
  · rename_i hvalue
    simp [hget, hnone.mp hvalue]

/-- When distinct axes are held, the shifted axis of another one leads to it. -/
theorem openAxis_shiftedAxis {d a : Nat} {held : List Nat} {s : Slice}
    (hopen : s.openAxes = otherAxes d held) (hdistinct : held.Nodup) (ha : a < d)
    (hfree : a ∉ held) :
    ∃ p, normalizeAxis s.openAxes.length (shiftedAxis held a) = .ok p ∧ s.openAxis p = a := by
  have hfound : (otherAxes d held)[(otherAxes a held).length]? = some a :=
    getElem?_filter_range ha (by simpa using hfree)
  have hlt := (List.getElem?_eq_some_iff.mp hfound).1
  have hshift : shiftedAxis held a = ((otherAxes a held).length : Int) := by
    have hsum := length_otherAxes_add hdistinct a
    rw [shiftedAxis]
    omega
  refine ⟨(otherAxes a held).length, ?_, ?_⟩
  · rw [hshift, hopen]
    exact normalizeAxis_natCast hlt
  · rw [Slice.openAxis, hopen, hfound, Option.getD_some]

end CircuitConsole.Simulation
