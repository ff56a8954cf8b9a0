import CircuitConsole.Proofs.Simulation.Slices

/-!
The controlled kernel, index by index. The axes of the controls are held at their values, and the
operator is applied to the part on the open axes, where the axes of the targets have been shifted.
At every index that has the values asked for this gives what the operator makes of the qubits found
at the shifted axes, and every other amplitude stays. When no control is repeated, the qubits found
are the targets.
-/

namespace CircuitConsole.Simulation

def foundQubits (width : Nat) (s : Slice) (source : List Nat) : List Nat :=
  (source.map fun p => axisOf width (s.openAxis p)).reverse

section Found

variable {width : Nat} {s : Slice} {source : List Nat}

theorem mem_foundQubits {q : Nat} :
    q ∈ foundQubits width s source ↔ ∃ p ∈ source, axisOf width (s.openAxis p) = q := by
  simp [foundQubits]

@[simp] theorem length_foundQubits : (foundQubits width s source).length = source.length := by
  simp [foundQubits]

theorem openAxis_lt (hlength : s.length = width) {p : Nat} (hp : p < s.openAxes.length) :
    s.openAxis p < width :=
  hlength ▸ Slice.lt_of_mem_openAxes (Slice.openAxis_mem hp)

theorem foundQubits_lt (hlength : s.length = width)
    (hrange : ∀ p ∈ source, p < s.openAxes.length) :
    ∀ q ∈ foundQubits width s source, q < width := by
  intro q hq
  obtain ⟨p, hp, rfl⟩ := mem_foundQubits.mp hq
  exact axisOf_lt (openAxis_lt hlength (hrange p hp))

theorem nodup_foundQubits (hlength : s.length = width) (hdistinct : source.Nodup)
    (hrange : ∀ p ∈ source, p < s.openAxes.length) : (foundQubits width s source).Nodup := by
  rw [foundQubits, List.nodup_reverse]
  refine hdistinct.map_on fun p hp p' hp' h => ?_
  exact Slice.openAxis_inj (hrange p hp) (hrange p' hp')
    (axisOf_inj (openAxis_lt hlength (hrange p hp)) (openAxis_lt hlength (hrange p' hp')) h)

theorem targetAxes_foundQubits (hlength : s.length = width)
    (hrange : ∀ p ∈ source, p < s.openAxes.length) :
    targetAxes width (foundQubits width s source) = source.map s.openAxis := by
  rw [targetAxes, foundQubits, ← List.map_reverse, List.reverse_reverse, List.map_map]
  exact List.map_congr_left fun p hp => axisOf_axisOf (openAxis_lt hlength (hrange p hp))

/-- Whether the held axes have their digits does not depend on the qubits found. -/
theorem holds_congr_of_found (hlength : s.length = width)
    (hrange : ∀ p ∈ source, p < s.openAxes.length) {i j : Nat}
    (hsame : ∀ q, q ∉ foundQubits width s source → i.testBit q = j.testBit q) :
    s.holds (digitsOf width i) = s.holds (digitsOf width j) := by
  have hdigit {a : Nat} {b : Bool} (hheld : s[a]? = some (some b)) :
      digitAt (digitsOf width i) a = digitAt (digitsOf width j) a := by
    have ha : a < width := hlength ▸ (List.getElem?_eq_some_iff.mp hheld).1
    rw [digitAt_digitsOf ha, digitAt_digitsOf ha]
    refine hsame _ fun hfound => ?_
    obtain ⟨p, hp, heq⟩ := mem_foundQubits.mp hfound
    have hopen := Slice.mem_openAxes.mp (Slice.openAxis_mem (hrange p hp))
    rw [axisOf_inj (openAxis_lt hlength (hrange p hp)) ha heq, hheld] at hopen
    cases hopen
  rw [Bool.eq_iff_iff, Slice.holds_iff (by simp [hlength]), Slice.holds_iff (by simp [hlength])]
  exact forall₂_congr fun a b => forall_congr' fun hheld => by rw [hdigit hheld]

end Found

/-- A value of zero or one is held as it is. -/
theorem heldValue_eq_ok {a : Nat} {value : Int} (h : value = 0 ∨ value = 1) {b : Bool} :
    heldValue a value = .ok b ↔ (b.toNat : Int) = value := by
  rcases h with rfl | rfl <;> cases b <;> simp [heldValue]

theorem exists_heldValue {a : Nat} {value : Int} (h : value = 0 ∨ value = 1) :
    ∃ b, heldValue a value = .ok b := by
  rcases h with rfl | rfl
  · exact ⟨false, rfl⟩
  · exact ⟨true, rfl⟩

/-- When distinct axes are held, an index must have the digit asked for on each of them. -/
theorem holds_of_holdAxes {d : Nat} {held : List (Nat × Int)} {s : Slice}
    (h : holdAxes d held = .ok s) (hkeys : (held.map (·.1)).Nodup)
    (hrange : ∀ pair ∈ held, pair.1 < d) {x : List Bool} (hx : x.length = d) :
    s.holds x = true ↔ ∀ pair ∈ held, heldValue pair.1 pair.2 = .ok (digitAt x pair.1) := by
  have hkeys : (held.reverse.map (·.1)).Nodup := by
    rwa [List.map_reverse, List.nodup_reverse]
  rw [Slice.holds_iff (hx.trans (length_of_holdAxes h).symm)]
  constructor
  · rintro hdigits ⟨a, value⟩ hpair
    have hget := getElem?_holdAxes h (hrange _ hpair)
    rw [lookup_of_mem hkeys (List.mem_reverse.mpr hpair)] at hget
    obtain ⟨b, hb, hget⟩ := hget
    rw [hb, hdigits a b hget]
  · intro hpairs a b hheld
    have ha : a < d := length_of_holdAxes h ▸ (List.getElem?_eq_some_iff.mp hheld).1
    have hget := getElem?_holdAxes h ha
    split at hget
    · rename_i value hvalue
      obtain ⟨b', hb', hget⟩ := hget
      have hpair := hpairs _ (List.mem_reverse.mp (mem_of_lookup hvalue))
      rw [hb'] at hpair
      rw [hheld] at hget
      cases hget
      exact (Except.ok.inj hpair).symm
    · rw [hheld] at hget
      cases hget

theorem holdAxes_exists (d : Nat) {held : List (Nat × Int)}
    (h : ∀ pair ∈ held, ∃ b, heldValue pair.1 pair.2 = .ok b) : ∃ s, holdAxes d held = .ok s := by
  refine exists_mapM_eq_ok fun a _ => ?_
  split
  · rename_i value hvalue
    obtain ⟨b, hb⟩ := h _ (List.mem_reverse.mp (mem_of_lookup hvalue))
    exact ⟨some b, by rw [hb]; rfl⟩
  · exact ⟨none, rfl⟩

variable {K : Type}

/-- What a controlled application is accepted for: the axes it holds, and those at which it looks
for its targets. -/
structure Accepted (width : Nat) (controls targets : List Nat) (U : Operator K)
    (values : List Int) (s : Slice) (source : List Nat) : Prop where
  range : ∀ q ∈ controls ++ targets, q < width
  apart : ∀ c ∈ controls, c ∉ targets
  count : values.length = controls.length
  square : U.isSquare (Nat.pow 2 targets.length) = true
  held : holdAxes width ((controls.map (axisOf width)).zip values) = .ok s
  found : targets.reverse.mapM (fun q => normalizeAxis s.openAxes.length
    (shiftedAxis (controls.map (axisOf width)) (axisOf width q))) = .ok source
  distinct : source.Nodup

namespace Accepted

variable {width : Nat} {controls targets : List Nat} {U : Operator K} {values : List Int}
  {s : Slice} {source : List Nat}

theorem length (h : Accepted width controls targets U values s source) : s.length = width :=
  length_of_holdAxes h.held

theorem source_lt (h : Accepted width controls targets U values s source) :
    ∀ p ∈ source, p < s.openAxes.length := fun _ hp =>
  let ⟨_, _, haxis⟩ := exists_of_mem_mapM h.found hp
  lt_of_normalizeAxis haxis

theorem length_source (h : Accepted width controls targets U values s source) :
    source.length = targets.length := by
  rw [length_of_mapM h.found, List.length_reverse]

theorem map_fst_held (h : Accepted width controls targets U values s source) :
    ((controls.map (axisOf width)).zip values).map (·.1) = controls.map (axisOf width) := by
  refine List.map_fst_zip ?_
  rw [List.length_map, h.count]

theorem openAxes (h : Accepted width controls targets U values s source) :
    s.openAxes = otherAxes width (controls.map (axisOf width)) := by
  rw [openAxes_of_holdAxes h.held, h.map_fst_held]

theorem control_lt (h : Accepted width controls targets U values s source) :
    ∀ c ∈ controls, c < width := fun c hc => h.range c (List.mem_append_left _ hc)

theorem target_lt (h : Accepted width controls targets U values s source) :
    ∀ t ∈ targets, t < width := fun t ht => h.range t (List.mem_append_right _ ht)

theorem nodup_axes (h : Accepted width controls targets U values s source)
    (hdistinct : controls.Nodup) : (controls.map (axisOf width)).Nodup :=
  hdistinct.map_on fun c hc c' hc' heq => axisOf_inj (h.control_lt c hc) (h.control_lt c' hc') heq

/-- When no control is repeated, the targets are found. -/
theorem foundQubits_eq (h : Accepted width controls targets U values s source)
    (hdistinct : controls.Nodup) : foundQubits width s source = targets := by
  have hback : source.map (fun p => axisOf width (s.openAxis p)) = targets.reverse.map id := by
    refine map_of_mapM h.found fun t ht p hp => ?_
    have ht := List.mem_reverse.mp ht
    have hfree : axisOf width t ∉ controls.map (axisOf width) := by
      intro hmem
      obtain ⟨c, hc, heq⟩ := List.mem_map.mp hmem
      exact h.apart c hc (axisOf_inj (h.control_lt c hc) (h.target_lt t ht) heq ▸ ht)
    obtain ⟨p', hp', hplace⟩ := openAxis_shiftedAxis h.openAxes (h.nodup_axes hdistinct)
      (axisOf_lt (h.target_lt t ht)) hfree
    obtain rfl := Except.ok.inj (hp.symm.trans hp')
    rw [hplace, id, axisOf_axisOf (h.target_lt t ht)]
  rw [foundQubits, hback, List.map_id, List.reverse_reverse]

/-- When no control is repeated, the part is where all of them have their values. -/
theorem holds_iff (h : Accepted width controls targets U values s source)
    (hdistinct : controls.Nodup) (i : Nat) :
    s.holds (digitsOf width i) = true ↔
      ∀ pair ∈ controls.zip values, heldValue (axisOf width pair.1) pair.2 =
        .ok (i.testBit pair.1) := by
  have hpairs : (controls.map (axisOf width)).zip values =
      (controls.zip values).map fun pair => (axisOf width pair.1, pair.2) := by
    rw [List.zip_map_left]
    rfl
  have hlt : ∀ pair ∈ controls.zip values, pair.1 < width := fun pair hpair =>
    h.control_lt _ (List.of_mem_zip hpair).1
  have hkeys := h.nodup_axes hdistinct
  rw [← h.map_fst_held] at hkeys
  rw [holds_of_holdAxes h.held hkeys ?_ (length_digitsOf _ _), hpairs, List.forall_mem_map]
  · refine forall₂_congr fun pair hpair => ?_
    rw [digitAt_axisOf (hlt pair hpair)]
  · rw [hpairs, List.forall_mem_map]
    exact fun pair hpair => axisOf_lt (hlt pair hpair)

/-- Distinct controls and targets with values of zero and one are accepted. -/
theorem of_distinct (hdistinct : (controls ++ targets).Nodup)
    (hrange : ∀ q ∈ controls ++ targets, q < width) (hcount : values.length = controls.length)
    (hvalues : ∀ b ∈ values, b = 0 ∨ b = 1)
    (hsquare : U.isSquare (Nat.pow 2 targets.length) = true) :
    ∃ s source, Accepted width controls targets U values s source := by
  obtain ⟨hcontrols, htargets, hdisjoint⟩ := List.nodup_append'.mp hdistinct
  have hfirst : ∀ c ∈ controls, c < width := fun c hc => hrange c (List.mem_append_left _ hc)
  have hlast : ∀ t ∈ targets, t < width := fun t ht => hrange t (List.mem_append_right _ ht)
  obtain ⟨s, hheld⟩ := @holdAxes_exists width ((controls.map (axisOf width)).zip values)
    fun pair hpair => exists_heldValue (hvalues _ (List.of_mem_zip hpair).2)
  have hopen : s.openAxes = otherAxes width (controls.map (axisOf width)) := by
    rw [openAxes_of_holdAxes hheld, List.map_fst_zip (by rw [List.length_map, hcount])]
  have haxes : (controls.map (axisOf width)).Nodup :=
    hcontrols.map_on fun c hc c' hc' heq => axisOf_inj (hfirst c hc) (hfirst c' hc') heq
  have hplace (t : Nat) (ht : t ∈ targets) : ∃ p, normalizeAxis s.openAxes.length
      (shiftedAxis (controls.map (axisOf width)) (axisOf width t)) = .ok p ∧
      s.openAxis p = axisOf width t := by
    refine openAxis_shiftedAxis hopen haxes (axisOf_lt (hlast t ht)) fun hmem => ?_
    obtain ⟨c, hc, heq⟩ := List.mem_map.mp hmem
    exact hdisjoint hc (axisOf_inj (hfirst c hc) (hlast t ht) heq ▸ ht)
  obtain ⟨source, hfound⟩ : ∃ source, targets.reverse.mapM (fun q =>
      normalizeAxis s.openAxes.length
        (shiftedAxis (controls.map (axisOf width)) (axisOf width q))) = .ok source :=
    exists_mapM_eq_ok fun t ht =>
      let ⟨p, hp, _⟩ := hplace t (List.mem_reverse.mp ht)
      ⟨p, hp⟩
  have hback : source.map s.openAxis = targets.reverse.map (axisOf width) := by
    refine map_of_mapM hfound fun t ht p hp => ?_
    obtain ⟨p', hp', heq⟩ := hplace t (List.mem_reverse.mp ht)
    obtain rfl := Except.ok.inj (hp.symm.trans hp')
    exact heq
  have hnodup : source.Nodup := by
    refine List.Nodup.of_map s.openAxis ?_
    rw [hback, List.map_reverse]
    exact nodup_targetAxes htargets hlast
  exact ⟨s, source, hrange, fun c hc ht => hdisjoint hc ht, hcount, hsquare, hheld, hfound, hnodup⟩

variable [Zero K]

/-- The entries of the part that are combined at an index are those that differ from it in the
qubits found. -/
theorem map_read (h : Accepted width controls targets U values s source) {i : Nat}
    (hi : i < Nat.pow 2 width) (hholds : s.holds (digitsOf width i) = true) (v : Array K) :
    ((List.range (Nat.pow 2 source.length)).map fun c =>
      s.read (Tensor.ofArray v) (replaceDigits s.openAxes.length source
        (digitsOf source.length c) (digitsAt s.openAxes (digitsOf width i)))) =
      fibre (foundQubits width s source) v i := by
  have hlength := h.length
  rw [← map_replaceDigits (nodup_foundQubits hlength h.distinct h.source_lt)
    (foundQubits_lt hlength h.source_lt) hi, length_foundQubits,
    targetAxes_foundQubits hlength h.source_lt]
  refine List.map_congr_left fun c _ => ?_
  rw [Slice.read, Slice.fill_replaceDigits h.distinct h.source_lt (by simp [hlength]) hholds,
    hlength]

variable [Add K] [Mul K]

/-- What an accepted application makes of the state. -/
theorem eq {asked : Option (List Int)}
    (h : Accepted width controls targets U (asked.getD (controls.map fun _ => 1)) s source)
    {v : Array K} (hsize : v.size = Nat.pow 2 width) :
    applyControlledUnitary width (controls.map Int.ofNat) (targets.map Int.ofNat) U asked v =
      .ok (applyWhere (fun i => s.holds (digitsOf width i)) U (foundQubits width s source) v) := by
  have hlength := h.length
  have hfound : (targets.map fun q => shiftedAxis (controls.map (axisOf width))
      (axisOf width q)).reverse.mapM (normalizeAxis s.openAxes.length) = .ok source := by
    rw [← List.map_reverse, List.mapM_map]
    exact h.found
  obtain ⟨block, hblock, hentry⟩ := applyMatrix_exists hfound h.distinct U
    (s.read (Tensor.ofArray v))
  have hstored : Tensor.store width (s.write block (Tensor.ofArray v)) v =
      applyWhere (fun i => s.holds (digitsOf width i)) U (foundQubits width s source) v := by
    refine Array.ext (by simp [size_applyWhere]) fun i hi _ => ?_
    have hi : i < Nat.pow 2 width := by simpa [hsize] using hi
    simp only [Tensor.store, Array.getElem_mapIdx, applyWhere, Array.getElem_ofFn, Slice.write]
    split
    · rename_i hholds
      rw [hentry, h.map_read hi hholds, Slice.digitsAt_openAxes h.source_lt,
        ← targetAxes_foundQubits hlength h.source_lt,
        numberOf_targetAxes (foundQubits_lt hlength h.source_lt)]
    · rw [Tensor.ofArray, numberOf_digitsOf hi]
      have hi : i < v.size := hsize ▸ hi
      simp [amplitudeAt, hi]
  have hqubits : checkQubits width (controls.map Int.ofNat ++ targets.map Int.ofNat) =
      .ok (controls ++ targets) := by
    rw [← List.map_append]
    exact checkQubits_eq h.range
  have hapart : controls.any targets.contains = false := by
    rw [List.any_eq_false]
    intro c hc
    simpa using h.apart c hc
  unfold applyControlledUnitary
  rw [hqubits]
  simp only [bind, Except.bind, List.length_map, List.take_left, List.drop_left, hapart, ne_eq,
    h.count, not_true_eq_false, Bool.false_eq_true, if_false, checkShape_eq h.square, h.held,
    hblock, hstored, pure, Except.pure]

end Accepted

variable [Zero K] [Add K] [Mul K]

/-- On distinct controls and targets, an operator of the right size is applied to the targets where
the controls have their values. -/
theorem applyControlledUnitary_eq {width : Nat} {controls : List (Nat × Bool)}
    {targets : List Nat} {U : Operator K} {asked : Option (List Int)}
    (hasked : asked.getD (controls.map fun _ => 1) = controls.map fun c => (c.2.toNat : Int))
    (hdistinct : (controls.map (·.1) ++ targets).Nodup)
    (hrange : ∀ q ∈ controls.map (·.1) ++ targets, q < width)
    (hsquare : U.isSquare (Nat.pow 2 targets.length) = true) {v : Array K}
    (hsize : v.size = Nat.pow 2 width) :
    applyControlledUnitary width ((controls.map (·.1)).map Int.ofNat) (targets.map Int.ofNat) U
        asked v =
      .ok (applyWhere (controlsHold controls) U targets v) := by
  have hdefault : asked.getD ((controls.map (·.1)).map fun _ => 1) =
      controls.map fun c => (c.2.toNat : Int) := by
    rw [← hasked, List.map_map]
    rfl
  have hbits : ∀ b ∈ controls.map fun c => (c.2.toNat : Int), b = 0 ∨ b = 1 := by
    rw [List.forall_mem_map]
    rintro ⟨q, value⟩ _
    cases value <;> simp
  obtain ⟨s, source, haccepted⟩ :=
    Accepted.of_distinct hdistinct hrange (by simp) hbits hsquare
  have hfirst := (List.nodup_append'.mp hdistinct).1
  have hholds : (fun i => s.holds (digitsOf width i)) = controlsHold controls := by
    funext i
    rw [Bool.eq_iff_iff, haccepted.holds_iff hfirst, List.zip_map', List.forall_mem_map,
      controlsHold, List.all_eq_true]
    refine forall₂_congr fun c _ => ?_
    rw [heldValue_eq_ok (by cases c.2 <;> simp), beq_iff_eq]
    cases c.2 <;> cases i.testBit c.1 <;> simp
  rw [← hdefault] at haccepted
  rw [haccepted.eq hsize, haccepted.foundQubits_eq hfirst, hholds]

/-- A controlled application that is not refused was accepted. -/
theorem applyControlledUnitary_eq_ok {width : Nat} {controls targets : List Int} {U : Operator K}
    {asked : Option (List Int)} {v v' : Array K}
    (h : applyControlledUnitary width controls targets U asked v = .ok v') :
    ∃ (cs ts : List Nat) (s : Slice) (source : List Nat), controls = cs.map Int.ofNat ∧
      targets = ts.map Int.ofNat ∧
      Accepted width cs ts U (asked.getD (cs.map fun _ => 1)) s source ∧ v'.size = v.size := by
  unfold applyControlledUnitary at h
  obtain ⟨qubits, hqubits, h⟩ := bind_eq_ok.mp h
  obtain ⟨hgiven, hrange⟩ := checkQubits_eq_ok hqubits
  dsimp only at h
  split at h
  · exact absurd h throw_bind_ne_ok
  · rename_i hapart
    split at h
    · exact absurd h throw_bind_ne_ok
    · rename_i hcount
      obtain ⟨_, hshape, h⟩ := bind_eq_ok.mp h
      obtain ⟨s, hheld, h⟩ := bind_eq_ok.mp h
      obtain ⟨block, hblock, h⟩ := bind_eq_ok.mp h
      obtain ⟨source, hfound, hdistinct⟩ := applyMatrix_eq_ok hblock
      rw [← List.map_reverse, List.mapM_map] at hfound
      obtain rfl := Except.ok.inj h
      have hsplit := List.map_take (f := Int.ofNat) (l := qubits) (i := controls.length)
      have hsplit' := List.map_drop (f := Int.ofNat) (l := qubits) (i := controls.length)
      rw [← hgiven, List.take_left] at hsplit
      rw [← hgiven, List.drop_left] at hsplit'
      refine ⟨qubits.take controls.length, qubits.drop controls.length, s, source, hsplit.symm,
        hsplit'.symm, ⟨?_, ?_, not_not.mp hcount, checkShape_eq_ok hshape, hheld, hfound,
          hdistinct⟩, size_store _ _ _⟩
      · rwa [List.take_append_drop]
      · intro c hc ht
        exact hapart (List.any_eq_true.mpr ⟨c, hc, by simpa using ht⟩)

end CircuitConsole.Simulation
