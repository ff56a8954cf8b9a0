import CircuitConsole.Proofs.Circuit.Tiling
import CircuitConsole.Proofs.Statement.Changes

/-!
Where arguments lie. What an argument stands for is inside one register of the table, so in a tiled
table it is inside the circuit; the rounds of a broadcast stay inside what the arguments stand for.
Every instruction that a statement queues therefore fits into the registers there are.
-/

namespace CircuitConsole.Statement

structure Span.Within (width : Nat) (s : Span) : Prop where
  size : 1 ≤ s.size
  stop : s.offset + s.size ≤ width

theorem Span.Within.lt {width : Nat} {s : Span} (h : s.Within width) {i : Nat}
    (hi : i ∈ s.toList) : i < width := by
  have := h.stop
  rw [Span.toList, List.mem_range'_1] at hi
  omega

theorem resolve_within {table : RegisterTable} {kind : RegisterKind} {argument : List Char}
    {s : Span} {room : Capacity} (htable : table.Tiled)
    (h : resolve table kind argument room = .ok s) :
    s.Within table.width := by
  unfold resolve at h
  dsimp only at h
  split at h
  · contradiction
  · split at h
    · contradiction
    · rename_i r hr
      obtain ⟨hsize, hstop⟩ := htable.bounds (List.mem_of_find?_eq_some hr)
      split at h
      · unfold wholeSpan at h
        split at h
        · contradiction
        · split at h
          · contradiction
          · obtain rfl := Except.ok.inj h
            exact ⟨hsize, hstop⟩
      · obtain ⟨index, _, h⟩ := bind_eq_ok.mp h
        split at h
        · contradiction
        · obtain rfl := Except.ok.inj h
          refine ⟨Nat.le_refl 1, ?_⟩
          dsimp only
          omega

theorem broadcastWidth_eq {spans : List Span} {width : Nat}
    (h : broadcastWidth spans = .ok width) {s : Span} (hs : s ∈ spans) (hsize : 1 < s.size) :
    s.size = width := by
  unfold broadcastWidth at h
  have hmem : s.size ∈ (spans.map (·.size)).filter (1 < ·) := by
    simpa [hsize] using ⟨s, hs, rfl⟩
  split at h
  · rename_i hnone
    rw [hnone] at hmem
    simp at hmem
  · rename_i size sizes heq
    rw [heq] at hmem
    split at h
    · rename_i hall
      obtain rfl := Except.ok.inj h
      rcases List.mem_cons.mp hmem with hfirst | hrest
      · exact hfirst
      · simpa using List.all_eq_true.mp hall _ hrest
    · contradiction

/-- Each round of a broadcast has a qubit for every argument, inside the circuit. -/
theorem broadcast_within {spans : List Span} {rounds : List (List Nat)} {width : Nat}
    (hspans : ∀ s ∈ spans, s.Within width) (h : broadcast spans = .ok rounds)
    {round : List Nat} (hround : round ∈ rounds) :
    round.length = spans.length ∧ ∀ q ∈ round, q < width := by
  unfold broadcast at h
  obtain ⟨common, hcommon, h⟩ := bind_eq_ok.mp h
  obtain rfl := Except.ok.inj h
  obtain ⟨i, hi, rfl⟩ := List.mem_map.mp hround
  refine ⟨List.length_map _, fun q hq => ?_⟩
  obtain ⟨s, hs, rfl⟩ := List.mem_map.mp hq
  have hi := List.mem_range.mp hi
  obtain ⟨hsize, hstop⟩ := hspans s hs
  unfold Span.at
  split
  · rename_i hlarge
    have := broadcastWidth_eq hcommon hs hlarge
    omega
  · omega

/-- The instructions of a statement fit into the registers that there are. -/
theorem Queued.fitsIn {d : Draft} {instructions : List (Instruction Float)}
    (hquantum : d.quantum.Tiled) (hclassical : d.classical.Tiled) (hsound : Sound d.definitions)
    (h : Queued d instructions) :
    ∀ i ∈ instructions, i.FitsIn d.quantum.width d.classical.width := by
  intro i hi
  cases h with
  | barrier => simp at hi
  | measurement room source target qubits bits hqubits hbits =>
    obtain ⟨q, hq, b, hb, rfl⟩ : ∃ q ∈ qubits.toList, ∃ b ∈ bits.toList, .measure q b = i := by
      rw [← List.map_uncurry_zip_eq_zipWith] at hi
      obtain ⟨⟨q, b⟩, hpair, rfl⟩ := List.mem_map.mp hi
      exact ⟨q, (List.of_mem_zip hpair).1, b, (List.of_mem_zip hpair).2, rfl⟩
    exact .measure q b ((resolve_within hquantum hqubits).lt hq)
      ((resolve_within hclassical hbits).lt hb)
  | reset room target qubits hqubits =>
    obtain ⟨q, hq, rfl⟩ := List.mem_map.mp hi
    exact .reset q ((resolve_within hquantum hqubits).lt hq)
  | call room form parameters spans rounds instructions harity hparameters hspans hrounds hexpand =>
    obtain ⟨part, hpart, hi⟩ := List.mem_flatten.mp hi
    obtain ⟨round, hround, hpart⟩ := exists_of_mem_mapM hexpand hpart
    have hwithin : ∀ s ∈ spans, s.Within d.quantum.width := by
      intro s hs
      obtain ⟨argument, _, hargument⟩ := exists_of_mem_mapM hspans hs
      exact resolve_within hquantum hargument
    obtain ⟨hlength, hrange⟩ := broadcast_within hwithin hrounds hround
    have harity' := checkArity_eq_ok harity
    rw [← length_of_evaluateAll hparameters, ← length_of_mapM hspans, ← hlength] at harity'
    rw [← List.reverse_reverse d.definitions] at hsound harity'
    exact expand_fits hsound harity' hrange hpart i hi

end CircuitConsole.Statement
