import CircuitConsole.Proofs.Workspace.EmbeddedCircuits

/-!
Registers declared later. Texts that hold nothing but declarations queue nothing and only make the
registers of a workspace more. With exact numbers, and as long as the new bits fit into memory, the
circuit is executed as before: the qubits that are new stay zero, and so do the new bits.
-/

namespace CircuitConsole

open Simulation

namespace Statement

def isDeclaration (s : List Char) : Bool :=
  match Form.of s with
  | .declaration .. => true
  | _ => false

def declaresOnly (text : List Char) : Bool :=
  match split text with
  | .ok statements => statements.all isDeclaration
  | .error _ => false

namespace Draft

theorem queue_of_declaration {d d' : Draft} {s : List Char} {room : Capacity}
    (hs : isDeclaration s = true) (h : d.statement s room = .ok d') : d'.queue = d.queue := by
  unfold isDeclaration at hs
  split at hs
  · rename_i kind name size hform
    rw [statement_declaration hform] at h
    obtain ⟨number, _, h⟩ := bind_eq_ok.mp h
    obtain ⟨-, -, -, rfl⟩ := declare_eq_ok h
    exact d.withRegister_queue kind _ number
  · contradiction

/-- Declarations queue nothing. -/
theorem queue_of_declarations {d d' : Draft} {texts : List (List Char)} {room : Capacity}
    (htexts : texts.all isDeclaration = true) (h : d.statements texts room = (d', none)) :
    d'.queue = d.queue := by
  have hkept : (d.statements texts room).1.queue = d.queue :=
    statements_keep (P := fun e => e.queue = d.queue) rfl fun s hs _ _ hqueue hstatement =>
      (queue_of_declaration (List.all_eq_true.mp htexts s hs) hstatement).trans hqueue
  rwa [h] at hkept

end Draft

end Statement

namespace Workspace

/-- What texts of declarations, one after the other, make of a workspace. -/
inductive Declared (w : Workspace) : Workspace → Prop
  | none : Declared w w
  | text (room : Capacity) (text : List Char) {v v' : Workspace} (h : Declared w v)
      (honly : Statement.declaresOnly text = true)
      (haccept : (v.accept text room).result = .ok v') :
      Declared w v'

theorem accept_declarations {w w' : Workspace} {text : List Char} {room : Capacity}
    (honly : Statement.declaresOnly text = true) (h : (w.accept text room).result = .ok w') :
    w'.queue = w.queue := by
  obtain ⟨statements, d, hsplit, hstatements, rfl⟩ := accept_eq_ok_iff.mp h
  simp only [Statement.declaresOnly, hsplit] at honly
  have hqueue : d.queue = [] := Statement.Draft.queue_of_declarations honly hstatements
  simp [commit, hqueue]

/-- Texts of declarations leave the queue as it is. -/
theorem Declared.queue {w w' : Workspace} (h : w.Declared w') : w'.queue = w.queue := by
  induction h with
  | none => rfl
  | text room text _ honly haccept ih => exact (accept_declarations honly haccept).trans ih

/-- The qubits of the old registers keep their numbers. -/
theorem Declared.circuit_eq {w w' : Workspace} (h : w.Declared w') {k l : Nat}
    (hk : w'.quantum.width = w.quantum.width + k)
    (hl : w'.classical.width = w.classical.width + l) {R : Type} (value : Float → R) :
    w'.circuitOver value = (w.circuitOver value).embed id (w.quantum.width + k) l := by
  have hsame (op : Operation R) : op.mapQubits id = op := by
    obtain ⟨i, condition⟩ := op
    cases i <;> simp [Operation.mapQubits, Instruction.mapQubits]
  simp [circuitOver, Circuit.embed, h.queue, hk, hl, hsame]

end Workspace

/-- The qubits of a machine keep their numbers in a wider one. -/
theorem places_id (n k : Nat) : Places id n (n + k) where
  lt _ hq := Nat.lt_of_lt_of_le hq (Nat.le_add_right n k)
  injective _ _ _ _ h := h

theorem within_id_iff {n j : Nat} : Within id n j ↔ j < Nat.pow 2 n := by
  constructor
  · intro h
    exact h.lt (places_id n 0)
  · intro hj b hb
    exact mem_placeList.mpr ⟨b, lt_of_testBit hj hb, rfl⟩

theorem restrict_id {n j : Nat} (hj : j < Nat.pow 2 n) : restrict id n j = j :=
  (restrict_eq_iff hj).mpr fun _ _ => rfl

namespace Console

/-- Whatever is done to a console, registers declared afterwards do not disturb the circuit of any
of its workspaces, over exact numbers: with at most the greatest number of qubits and bits that fit
into memory, and the same random numbers, the execution takes as many of them and succeeds if it did
before, the bits are followed by zeros, and the vector is the old one with zeros behind. -/
theorem declarations_harmless {draws : Draws Float} {c : Console} (hc : c.Reachable draws)
    {w w' : Workspace} (hw : w ∈ c.workspaces) (hdeclared : w.Declared w') {k l : Nat}
    (hk : w'.quantum.width = w.quantum.width + k)
    (hl : w'.classical.width = w.classical.width + l) (room : Capacity)
    (hqubits : w.quantum.width + k ≤ maxQubits)
    (hbits : w.classical.width + l ≤ room.row) {R : Type} [Scalar R] [ExactNumbers R]
    (value : Float → R) (random : Draws R) (drawn : Nat) :
    let before := (w.circuitOver value).execute random drawn room
    let after := (w'.circuitOver value).execute random drawn room
    after.1 = before.1 ∧
    (∀ fault, after.2 = .error fault ↔ before.2 = .error fault) ∧
    ∀ outcome, before.2 = .ok outcome → ∃ outcome', after.2 = .ok outcome' ∧
      outcome'.bits = outcome.bits ++ List.replicate l false ∧
      outcome.amplitudes.size = Nat.pow 2 w.quantum.width ∧
      outcome'.amplitudes.size = Nat.pow 2 (w.quantum.width + k) ∧
      (∀ i, i < Nat.pow 2 w.quantum.width →
        amplitudeAt outcome'.amplitudes i = amplitudeAt outcome.amplitudes i) ∧
      ∀ i, Nat.pow 2 w.quantum.width ≤ i → amplitudeAt outcome'.amplitudes i = 0 := by
  intro before after
  have hwell : w.WellFormed := (hc.workspaces w hw).wellFormed
  have hbits' : (w.circuitOver value).bits + l ≤ room.row := hbits
  have hqubits' : (w.circuitOver value).qubits ≤ maxQubits := Nat.le_of_add_right_le hqubits
  obtain ⟨hdrawn, halike⟩ := Circuit.execute_embedded (places_id w.quantum.width k)
    (hwell.fits value) hqubits' hqubits hbits' random drawn
  rw [← hdeclared.circuit_eq hk hl value] at hdrawn halike
  refine ⟨hdrawn, fun fault => halike.eq_error_iff, fun outcome houtcome => ?_⟩
  obtain ⟨outcome', houtcome', hembedded⟩ := halike.exists_of_eq_ok houtcome
  have hamplitudes : Embedded id w.quantum.width (w.quantum.width + k) outcome.amplitudes
      outcome'.amplitudes := hembedded.amplitudes
  refine ⟨outcome', houtcome', hembedded.bits, hamplitudes.size, hamplitudes.size', fun i hi => ?_,
    fun i hi => ?_⟩
  · rw [hamplitudes.inside i (within_id_iff.mpr hi), restrict_id hi]
  · exact hamplitudes.outside i fun hwithin => Nat.not_lt.mpr hi (within_id_iff.mp hwithin)

/-- A qubit is measured in superposition; another qubit and two bits declared afterwards stay zero.
-/
theorem measured_qubit_undisturbed :
    let s : Setting := ⟨fun _ => .error .missing, fun _ => 0⟩
    let p := (Prompt.start.feed s "qreg q[1]; creg c[1]; h q[0]; measure q->c;".toList).1
    let p' := (p.feed s "creg d[2]; qreg r[1];".toList).1
    let before :=
      (p.console.workspace.circuitOver fun _ => (0 : ℝ)).execute (fun _ => 1 / 3) 0 .usual
    let after :=
      (p'.console.workspace.circuitOver fun _ => (0 : ℝ)).execute (fun _ => 1 / 3) 0 .usual
    after.1 = before.1 ∧ ∃ outcome outcome', before.2 = .ok outcome ∧ after.2 = .ok outcome' ∧
      outcome'.bits = outcome.bits ++ [false, false] ∧
      amplitudeAt outcome'.amplitudes 1 = amplitudeAt outcome.amplitudes 1 ∧
      amplitudeAt outcome'.amplitudes 3 = 0 := by
  intro s p p' before after
  have hp : p.Reachable s.draws := .feed s rfl _ .start
  have hmem : p.console.workspace ∈ p.console.workspaces := workspace_mem _
  have haccept : (p.console.workspace.accept "creg d[2]; qreg r[1];".toList .usual).result =
      .ok p'.console.workspace := by decide +kernel
  have hdeclared : p.console.workspace.Declared p'.console.workspace :=
    .text .usual _ .none (by decide +kernel) haccept
  have hwidth : p.console.workspace.quantum.width = 1 := by decide +kernel
  have hbits : p.console.workspace.classical.width = 1 := by decide +kernel
  have hwidth' : p'.console.workspace.quantum.width = 2 := by decide +kernel
  have hbits' : p'.console.workspace.classical.width = 3 := by decide +kernel
  clear haccept
  clear_value p p'
  obtain ⟨hdrawn, _, houtcomes⟩ := declarations_harmless (k := 1) (l := 2) hp.console hmem hdeclared
    (by rw [hwidth, hwidth']) (by rw [hbits, hbits']) .usual
    (by rw [hwidth]; decide) (by rw [hbits]; decide) (fun _ => (0 : ℝ)) (fun _ => 1 / 3) 0
  obtain ⟨outcome, houtcome⟩ := (hp.console.workspaces _ hmem).wellFormed.executeOver_exists
    .usual (by rw [hwidth]; decide) (by rw [hbits]; decide) (fun _ => 0) (fun _ => 1 / 3) 0
  obtain ⟨outcome', houtcome', hzeros, _, _, hinside, houtside⟩ := houtcomes outcome houtcome
  refine ⟨hdrawn, outcome, outcome', houtcome, houtcome', hzeros, hinside 1 ?_, houtside 3 ?_⟩
  · rw [hwidth]
    decide
  · rw [hwidth]
    decide

/-- A qubit is flipped, and the execution succeeds; once bits are declared that do not fit into
memory, it fails. -/
theorem oversized_declaration_fails :
    let s : Setting := ⟨fun _ => .error .missing, fun _ => 0⟩
    let p := (Prompt.start.feed s "qreg q[1]; x q[0];".toList).1
    let p' := (p.feed s "creg c[2000000000000000000];".toList).1
    let before := (p.console.workspace.circuitOver fun _ => (0 : ℝ)).execute (fun _ => 1 / 3) 0
    let after := (p'.console.workspace.circuitOver fun _ => (0 : ℝ)).execute (fun _ => 1 / 3) 0
    p.console.Reachable s.draws ∧ p.console.workspace.Declared p'.console.workspace ∧
      p'.console.workspace.quantum.width = 1 ∧ ∀ room, (∃ outcome, (before room).2 = .ok outcome) ∧
        (after room).2 = .error (.outOfMemory 1) := by
  intro s p p' before after
  have hp : p.Reachable s.draws := .feed s rfl _ .start
  have hmem : p.console.workspace ∈ p.console.workspaces := workspace_mem _
  have haccept : (p.console.workspace.accept "creg c[2000000000000000000];".toList
      .usual).result = .ok p'.console.workspace := by decide +kernel
  have hdeclared : p.console.workspace.Declared p'.console.workspace :=
    .text .usual _ .none (by decide +kernel) haccept
  have hwidth : p.console.workspace.quantum.width = 1 := by decide +kernel
  have hbits : p.console.workspace.classical.width = 0 := by decide +kernel
  have hwidth' : p'.console.workspace.quantum.width = 1 := by decide +kernel
  have hbits' : p'.console.workspace.classical.width = 2000000000000000000 := by decide +kernel
  clear haccept
  clear_value p p'
  have hqubits : p'.console.workspace.quantum.width ≤ maxQubits := by
    rw [hwidth']
    decide
  have hcount : p'.console.workspace.classical.width ≤ countLimit := by
    rw [hbits']
    decide
  refine ⟨hp.console, hdeclared, hwidth', fun room => ?_⟩
  have hbefore := (hp.console.workspaces _ hmem).wellFormed.executeOver_exists room
    (by rw [hwidth]; decide) (by rw [hbits]; exact Nat.zero_le _) (fun _ => (0 : ℝ))
    (fun _ => 1 / 3) 0
  have hlarge : room.row < p'.console.workspace.classical.width := by
    rw [hbits']
    exact room.row_lt.trans (by decide)
  have hafter : (after room).2 = .error (.outOfMemory p'.console.workspace.quantum.width) :=
    congrArg Prod.snd (Circuit.execute_of_memory
      (c := p'.console.workspace.circuitOver fun _ => (0 : ℝ)) hqubits hcount hlarge _ _)
  rw [hwidth'] at hafter
  exact ⟨hbefore, hafter⟩

end Console

end CircuitConsole
