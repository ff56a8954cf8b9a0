import CircuitConsole.Proofs.Workspace.EmbeddedCircuits

/-!
The numbers of the qubits do not matter. With exact numbers, a circuit whose qubits are exchanged by
a permutation is executed like the circuit itself: it draws as many random numbers, fails alike, and
leaves the same classical bits and, at permuted indices, the same amplitudes.
-/

namespace CircuitConsole

open Simulation

/-- What a permutation of the qubits below a width makes of a qubit; others stay. -/
def renumber {n : Nat} (p : Equiv.Perm (Fin n)) (q : Nat) : Nat :=
  if h : q < n then p ⟨q, h⟩ else q

theorem renumber_fin {n : Nat} (p : Equiv.Perm (Fin n)) (q : Fin n) : renumber p q = p q :=
  dif_pos q.isLt

theorem places_renumber {n : Nat} (p : Equiv.Perm (Fin n)) : Places (renumber p) n n where
  lt q hq := by
    rw [renumber, dif_pos hq]
    exact (p ⟨q, hq⟩).isLt
  injective q hq q' hq' h := by
    rw [renumber, renumber, dif_pos hq, dif_pos hq'] at h
    exact congrArg Fin.val (p.injective (Fin.ext h))

/-- Every qubit is the place of one. -/
theorem within_renumber {n : Nat} (p : Equiv.Perm (Fin n)) {j : Nat} (hj : j < Nat.pow 2 n) :
    Within (renumber p) n j := by
  intro b hb
  have hlt : b < n := lt_of_testBit hj hb
  refine mem_placeList.mpr ⟨p.symm ⟨b, hlt⟩, (p.symm ⟨b, hlt⟩).isLt, ?_⟩
  rw [renumber_fin, Equiv.apply_symm_apply]

/-- A circuit that is too large fails with all numberings of its qubits. -/
theorem Circuit.execute_relabel_of_large {R : Type} [Scalar R] {c : Circuit R}
    {room : Capacity} (hlarge : ¬ (c.qubits ≤ maxQubits ∧ c.bits ≤ room.row)) (p : Nat → Nat)
    (draws : Draws R) (drawn : Nat) :
    (c.relabel p).execute draws drawn room = c.execute draws drawn room ∧
      ∃ fault, (c.execute draws drawn room).2 = .error fault := by
  have hqubits : (c.relabel p).qubits = c.qubits := rfl
  have hbits : (c.relabel p).bits = c.bits := rfl
  unfold execute
  rw [hqubits, hbits]
  split
  · exact ⟨rfl, _, rfl⟩
  · split
    · exact ⟨rfl, _, rfl⟩
    · split
      · exact ⟨rfl, _, rfl⟩
      · exact absurd ⟨by omega, by omega⟩ hlarge

namespace Console

/-- Whatever is done to a console, the queue of each of its workspaces does not depend on the
numbers of its qubits, over exact numbers: with the qubits permuted, and the same random numbers,
the execution draws as many of them and fails with the same fault, or leaves the same bits and the
amplitudes of the indices whose digits are permuted. -/
theorem relabelling_harmless {draws : Draws Float} {c : Console} (hc : c.Reachable draws)
    {w : Workspace} (hw : w ∈ c.workspaces) {R : Type} [Scalar R] [ExactNumbers R]
    (value : Float → R) (p : Equiv.Perm (Fin w.quantum.width)) (random : Draws R) (drawn : Nat)
    (room : Capacity) :
    let original := (w.circuitOver value).execute random drawn room
    let permuted := ((w.circuitOver value).relabel (renumber p)).execute random drawn room
    permuted.1 = original.1 ∧
    (∀ fault, permuted.2 = .error fault ↔ original.2 = .error fault) ∧
    ∀ outcome, original.2 = .ok outcome → ∃ outcome', permuted.2 = .ok outcome' ∧
      outcome'.bits = outcome.bits ∧
      outcome.amplitudes.size = Nat.pow 2 w.quantum.width ∧
      outcome'.amplitudes.size = Nat.pow 2 w.quantum.width ∧
      ∀ i j, i < Nat.pow 2 w.quantum.width → j < Nat.pow 2 w.quantum.width →
        (∀ q : Fin w.quantum.width, i.testBit q = j.testBit (p q)) →
        amplitudeAt outcome'.amplitudes j = amplitudeAt outcome.amplitudes i := by
  intro original permuted
  have hwell : w.WellFormed := (hc.workspaces w hw).wellFormed
  by_cases hsmall : w.quantum.width ≤ maxQubits ∧ w.classical.width ≤ room.row
  · have hbits : (w.circuitOver value).bits + 0 ≤ room.row := hsmall.2
    obtain ⟨hdrawn, halike⟩ := Circuit.execute_embedded (places_renumber p) (hwell.fits value)
      hsmall.1 hsmall.1 hbits random drawn
    refine ⟨hdrawn, fun fault => halike.eq_error_iff, fun outcome houtcome => ?_⟩
    obtain ⟨outcome', houtcome', hembedded⟩ := halike.exists_of_eq_ok houtcome
    refine ⟨outcome', houtcome', hembedded.bits.trans (List.append_nil _),
      hembedded.amplitudes.size, hembedded.amplitudes.size', fun i j hi hj hdigits => ?_⟩
    have hi' : restrict (renumber p) w.quantum.width j = i := by
      refine (restrict_eq_iff hi).mpr fun q hq => ?_
      rw [renumber_fin p ⟨q, hq⟩]
      exact hdigits ⟨q, hq⟩
    rw [hembedded.amplitudes.inside j (within_renumber p hj)]
    exact congrArg (amplitudeAt outcome.amplitudes) hi'
  · obtain ⟨hsame, fault, hfault⟩ := Circuit.execute_relabel_of_large
      (c := w.circuitOver value) hsmall (renumber p) random drawn
    have hpermuted : permuted = original := hsame
    refine ⟨congrArg Prod.fst hsame, fun f => by rw [hpermuted], fun outcome houtcome => ?_⟩
    have hfails : original.2 = .error fault := hfault
    rw [hfails] at houtcome
    contradiction

/-- Of an entangled pair the first qubit is measured, and the second is flipped if it was one. With
the two qubits exchanged, the register is the same, and the amplitude of two is that of one. -/
theorem exchanged_pair_alike :
    let s : Setting := ⟨fun _ => .error .missing, fun _ => 0⟩
    let p := (Prompt.start.feed s "qreg q[2]; creg c[1]; h q[0]; cx q[0],q[1];".toList).1
    let p' := (p.feed s "measure q[0]->c[0]; if (c==1) x q[1];".toList).1
    let circuit : Circuit ℝ := p'.console.workspace.circuitOver fun _ => 0
    let original := circuit.execute (fun _ => 1 / 3) 0 .usual
    let exchanged := (circuit.relabel (renumber (Fin.revPerm (n := circuit.qubits)))).execute
      (fun _ => 1 / 3) 0 .usual
    exchanged.1 = original.1 ∧ ∃ outcome outcome', original.2 = .ok outcome ∧
      exchanged.2 = .ok outcome' ∧ outcome'.bits = outcome.bits ∧
      amplitudeAt outcome'.amplitudes 2 = amplitudeAt outcome.amplitudes 1 := by
  intro s p p' circuit original exchanged
  have hp : p'.Reachable s.draws := .feed s rfl _ (.feed s rfl _ .start)
  have hmem : p'.console.workspace ∈ p'.console.workspaces := workspace_mem _
  have hwidth : p'.console.workspace.quantum.width = 2 := by decide +kernel
  have hbits : p'.console.workspace.classical.width ≤ Capacity.usual.row := by decide +kernel
  clear_value p'
  have hwell := (hp.console.workspaces _ hmem).wellFormed
  obtain ⟨hdrawn, _, houtcomes⟩ := relabelling_harmless hp.console hmem (fun _ => (0 : ℝ))
    Fin.revPerm (fun _ => 1 / 3) 0 .usual
  obtain ⟨outcome, houtcome⟩ := hwell.executeOver_exists .usual (by rw [hwidth]; decide) hbits
    (fun _ => 0) (fun _ => 1 / 3) 0
  obtain ⟨outcome', houtcome', hbits', _, _, hamplitudes⟩ := houtcomes outcome houtcome
  refine ⟨hdrawn, outcome, outcome', houtcome, houtcome', hbits', hamplitudes 1 2 ?_ ?_ ?_⟩
  · rw [hwidth]
    decide
  · rw [hwidth]
    decide
  · intro q
    have hrev : (Fin.revPerm q).val = 1 - q.val := by
      rw [Fin.revPerm_apply, Fin.val_rev]
      omega
    obtain hq | hq : q.val = 0 ∨ q.val = 1 := by omega
    · rw [hrev, hq]
      rfl
    · rw [hrev, hq]
      rfl

end Console

end CircuitConsole
