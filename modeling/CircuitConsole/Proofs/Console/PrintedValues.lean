import CircuitConsole.Proofs.Console.ClassicalCircuits
import CircuitConsole.Proofs.Simulation.Conditions
import Mathlib.Tactic.Ring

/-!
The values that are printed are those that conditions test. The bits of a register are printed with
the highest first; read in base two they are the one number for which an operation under a condition
on the register is carried out after the queue. Since the registers tile the classical bits, those
declared since the last execution included, the total is the sum of these numbers, each moved to the
place of its register.
-/

namespace CircuitConsole

open Simulation Text

def binaryValue (digits : List Char) : Nat :=
  digits.foldl (fun n c => 2 * n + if c = '1' then 1 else 0) 0

/-- Bits written with the highest first are read back. -/
theorem binaryValue_reverse (bits : List Bool) :
    binaryValue (bits.reverse.map Workspace.bitChar) = bitsToNat bits := by
  rw [binaryValue, List.foldl_map, List.foldl_reverse]
  induction bits with
  | nil => rfl
  | cons b bits ih =>
    rw [List.foldr_cons, ih, bitsToNat, Nat.add_comm]
    cases b <;> rfl

/-- Registers in a row split a number into their own. -/
theorem RegisterTable.bitsToNat_tiledFrom {start : Nat} {table : RegisterTable} {bits : List Bool}
    (h : TiledFrom start table) (hlength : start + table.width ≤ bits.length) :
    bitsToNat ((bits.drop start).take table.width) * 2 ^ start =
      (table.map fun r => bitsToNat ((bits.drop r.offset).take r.size) * 2 ^ r.offset).sum := by
  induction table generalizing start with
  | nil => simp [width, bitsToNat]
  | cons r table ih =>
    obtain ⟨rfl, -, htable⟩ := h
    have hwidth : RegisterTable.width (r :: table) = r.size + RegisterTable.width table := rfl
    rw [hwidth] at hlength ⊢
    have hrest := ih htable (by omega)
    have hfirst : ((bits.drop r.offset).take r.size).length = r.size := by
      rw [List.length_take, List.length_drop]
      omega
    have hpow : Nat.pow 2 r.size = 2 ^ r.size := rfl
    rw [List.map_cons, List.sum_cons, ← hrest, List.take_add, bitsToNat_append, hfirst,
      List.drop_drop, hpow, Nat.pow_add]
    ring

namespace Workspace

def registerDigits (w : Workspace) (r : Register) : List Char :=
  (w.registerBits r).reverse.map bitChar

/-- The sum of the numbers printed for the registers, each moved to the place of its register. -/
def printedTotal (w : Workspace) : Nat :=
  (w.classical.map fun r => binaryValue (w.registerDigits r) * 2 ^ r.offset).sum

def classicalText (w : Workspace) : String :=
  joinLines <| s!"CReg: {w.printedTotal}" :: w.classical.map fun r =>
    s!"  {r.name}[{r.size}] = {String.ofList (w.registerDigits r)}"

/-- What is shown of the classical registers: nothing if there are too many bits for the machine, or
if the total has too many digits to be written. -/
def shownClassical (w : Workspace) (room : Capacity) : Except Overload String :=
  if countLimit < w.classical.width then .error .count
  else if room.row < w.classical.width then .error .memory
  else if w.printedTotal < Nat.pow 10 digitLimit then .ok w.classicalText
  else .error .digitsWritten

theorem length_allBits (w : Workspace) : w.allBits.length = w.classical.width := by
  simp [allBits]

/-- The bits of a result for all registers are all there are. -/
theorem allBits_of_length {w : Workspace} (h : w.bits.length = w.classical.width) :
    w.allBits = w.bits := by
  simp only [allBits, ← h, List.take_left]

theorem bitsToNat_allBits {w : Workspace} (h : w.classical.Tiled) :
    bitsToNat w.allBits = w.printedTotal := by
  have hlength := w.length_allBits
  have hfits : 0 + w.classical.width ≤ w.allBits.length := by omega
  have hsum := RegisterTable.bitsToNat_tiledFrom h hfits
  rw [List.drop_zero, List.take_of_length_le (Nat.le_of_eq hlength), Nat.pow_zero, Nat.mul_one]
    at hsum
  rw [hsum, printedTotal]
  simp only [registerDigits, binaryValue_reverse]
  rfl

/-- The classical registers are shown with the sum of what is printed for them. -/
theorem classicalView_eq {w : Workspace} (h : w.classical.Tiled) (room : Capacity) :
    w.classicalView room = w.shownClassical room := by
  unfold classicalView shownClassical
  rw [bitsToNat_allBits h, writeNat]
  by_cases hdigits : w.printedTotal < Nat.pow 10 digitLimit
  · rw [if_pos hdigits, if_pos hdigits]
    rfl
  · rw [if_neg hdigits, if_neg hdigits]
    rfl

def appended (w : Workspace) (op : Operation Float) : Circuit Float :=
  { w.circuit with operations := w.queue ++ [op] }

end Workspace

namespace Circuit

variable {R : Type} [Scalar R] {draws : Draws R} {drawn : Nat}

/-- An execution depends on the run of the operations only. -/
theorem execute_of_same_run {qubits bits : Nat} {ops ops' : List (Operation R)}
    {room : Capacity}
    (h : (Machine.start qubits bits drawn).run draws ops =
      (Machine.start qubits bits drawn).run draws ops') :
    (⟨qubits, bits, ops⟩ : Circuit R).execute draws drawn room =
      (⟨qubits, bits, ops'⟩ : Circuit R).execute draws drawn room := by
  simp only [execute, h]

end Circuit

namespace Workspace

variable {draws : Draws Float} {drawn : Nat} {w w' : Workspace} {room : Capacity}

/-- After an execution the printed digits of a register spell the value for which a condition on it
holds: then the operation under the condition is carried out, and for any other value it is left
out. -/
theorem appended_execute (h : (w.execute draws drawn room).2 = .ok w') (r : Register)
    (i : Instruction Float) (v : Nat) :
    (w'.appended ⟨i, some ⟨r.name, r.offset, r.size, v⟩⟩).execute draws drawn room =
      if v = binaryValue (w'.registerDigits r) then
        (w'.appended ⟨i, none⟩).execute draws drawn room
      else w'.circuit.execute draws drawn room := by
  obtain ⟨outcome, houtcome, rfl⟩ := execute_eq_ok h
  obtain ⟨m, hrun, rfl⟩ := Circuit.execute_eq_ok houtcome
  have hlength : m.bits.length = w.classical.width := (Circuit.execute_shape houtcome).2
  let c : Condition := ⟨r.name, r.offset, r.size, v⟩
  have hholds : c.holds m.bits = decide (v = bitsToNat ((m.bits.drop r.offset).take r.size)) :=
    decide_eq_decide.mpr eq_comm
  rw [registerDigits, binaryValue_reverse, registerBits, allBits_of_length hlength]
  have hlast (op : Operation Float) : (Machine.start w.quantum.width w.classical.width drawn).run
      draws (w.queue ++ [op]) = m.run draws [op] := Machine.run_append hrun [op]
  split
  · rename_i hv
    refine Circuit.execute_of_same_run ((hlast _).trans (Eq.trans ?_ (hlast _).symm))
    have hstep : m.step draws ⟨i, some c⟩ = m.step draws ⟨i, none⟩ := by
      rw [Machine.step_under, hholds, decide_eq_true hv]
      rfl
    rw [Machine.run, Machine.run, hstep]
  · rename_i hv
    refine Circuit.execute_of_same_run ((hlast _).trans ?_)
    have hstep : m.step draws ⟨i, some c⟩ = .ok m := by
      rw [Machine.step_under, hholds, decide_eq_false hv]
      rfl
    rw [Machine.run, hstep]
    exact hrun.symm

end Workspace

namespace Console

/-- In a console that can be reached, the classical registers of a workspace, clean or dirty, are
shown with the digits of every register and the total that these digits spell, unless there are too
many bits for the machine or the total has too many digits to be written. Right after an execution,
with any random numbers, the digits of a register spell the one value for which an operation under
a condition on it is carried out behind the queue; for any other value it is left out. -/
theorem printed_values_tested {draws : Draws Float} {c : Console} (hc : c.Reachable draws)
    {w : Workspace} (hw : w ∈ c.workspaces) :
    (∀ room, w.classicalView room = w.shownClassical room) ∧
    ∀ (random : Draws Float) (drawn : Nat) (room : Capacity) (w' : Workspace),
      (w.execute random drawn room).2 = .ok w' →
        (∀ room, w'.classicalView room = w'.shownClassical room) ∧
        ∀ r ∈ w'.classical, ∀ (i : Instruction Float) (v : Nat),
          (w'.appended ⟨i, some ⟨r.name, r.offset, r.size, v⟩⟩).execute random drawn room =
            if v = binaryValue (w'.registerDigits r) then
              (w'.appended ⟨i, none⟩).execute random drawn room
            else w'.circuit.execute random drawn room := by
  have htiled := (hc.workspaces w hw).wellFormed.tiledClassical
  refine ⟨Workspace.classicalView_eq htiled,
    fun random drawn room w' h => ⟨?_, fun r _ i v => ?_⟩⟩
  · obtain ⟨outcome, -, rfl⟩ := Workspace.execute_eq_ok h
    exact Workspace.classicalView_eq htiled
  · exact Workspace.appended_execute h r i v

/-- A qubit is measured into the second register, which is printed as two. -/
theorem second_register_tested :
    let s : Setting := ⟨fun _ => .error .missing, fun _ => 0.5⟩
    let p := (Prompt.start.feed s "qreg q[1]; creg a[2]; creg b[2]; x q[0];".toList).1
    let p' := (p.feed s "measure q[0] -> b[1];".toList).1
    let flip (v : Nat) : Operation Float := ⟨.gate .x [] [0], some ⟨"b", 2, 2, v⟩⟩
    ∃ w', (p'.console.workspace.execute s.draws 0 s.room).2 = .ok w' ∧
      w'.registerDigits ⟨"b", 2, 2⟩ = ['1', '0'] ∧
      (w'.appended (flip 2)).execute s.draws 0 s.room =
        (w'.appended ⟨.gate .x [] [0], none⟩).execute s.draws 0 s.room ∧
      (w'.appended (flip 1)).execute s.draws 0 s.room = w'.circuit.execute s.draws 0 s.room := by
  intro s p p' flip
  have hp : p'.Reachable s.draws := .feed s rfl _ (.feed s rfl _ .start)
  obtain ⟨w', hexecute, hprinted⟩ :
      ∃ w', (p'.console.workspace.execute s.draws 0 s.room).2 = .ok w' ∧
      (w'.classical[1]?, w'.registerDigits ⟨"b", 2, 2⟩) = (some ⟨"b", 2, 2⟩, ['1', '0']) :=
    map_eq_ok.mp (by decide +kernel)
  obtain ⟨hregister, hdigits⟩ := Prod.mk.inj hprinted
  have htested := ((printed_values_tested hp.console (workspace_mem _)).2 _ _ _ w' hexecute).2
    ⟨"b", 2, 2⟩ (List.mem_of_getElem? hregister) (.gate .x [] [0])
  rw [hdigits] at htested
  exact ⟨w', hexecute, hdigits, htested 2, htested 1⟩

theorem number_eq_zero {n : Nat} {value : Nat → Bool} (h : ∀ j, j < n → value j = false) :
    number n value = 0 := by
  induction n with
  | zero => rfl
  | succ n ih =>
    rw [number_succ, ih fun j hj => h j (by omega), h n (by omega)]
    rw [Bool.toNat_false, Nat.zero_mul]

/-- A flipped qubit is measured into the last bit. -/
theorem last_bit_set {w : Workspace} (hw : w.WellFormed) {n : Nat}
    (hqueue : w.queue = [⟨.gate .x [] [0], none⟩, ⟨.measure 0 n, none⟩])
    (hqubits : w.quantum.width ≤ maxQubits) (hwidth : w.classical.width = n + 1)
    {room : Capacity} (hn : n < room.row) (drawn : Nat) :
    ∃ w', (w.execute (fun _ => 0.5) drawn room).2 = .ok w' ∧ w'.printedTotal = 2 ^ n ∧
      w'.classicalView room = w'.shownClassical room ∧ w'.classical.width = n + 1 := by
  have hclassical : ∀ op ∈ w.queue, op.instruction.isClassical = true := by
    simp [hqueue, Instruction.isClassical, Gate.isClassical]
  have hrandom : ∀ _ : Nat, Scalar.less (0.5 : Float) 0 = false ∧
      Scalar.less (0.5 : Float) 1 = true := fun _ => by decide +kernel
  obtain ⟨w', hexecute, hbits⟩ :=
    map_eq_ok.mp (hw.bits_of_execute hqubits (by omega) hclassical hrandom drawn)
  have hkept : w'.classical = w.classical := by
    obtain ⟨outcome, -, hw'⟩ := Workspace.execute_eq_ok hexecute
    rw [hw']
  have hvalue (j : Nat) : (Bits.zero.run w.queue).bit j = decide (j = n) := by
    by_cases hj : j = n <;>
      simp [hqueue, Bits.run, Bits.step, Bits.perform, Bits.gate, Bits.negate, Bits.setQubit,
        Bits.setBit, Bits.zero, hj]
  have hbelow : number n (Bits.zero.run w.queue).bit = 0 :=
    number_eq_zero fun j hj => (hvalue j).trans (decide_eq_false (Nat.ne_of_lt hj))
  have htiled : w'.classical.Tiled := hkept ▸ hw.tiledClassical
  have hlength : w'.bits.length = w'.classical.width := by
    rw [hbits, hkept, List.length_map, List.length_range]
  refine ⟨w', hexecute, ?_, Workspace.classicalView_eq htiled room, by rw [hkept, hwidth]⟩
  rw [← Workspace.bitsToNat_allBits htiled, Workspace.allBits_of_length hlength, hbits,
    bitsToNat_map_range, hwidth, number_succ, hbelow, hvalue, decide_eq_true rfl, Bool.toNat_true,
    Nat.zero_add, Nat.one_mul]
  rfl

/-- The highest of so many bits is one after an execution: its value has one digit more than is
written, and the registers are not shown. -/
theorem long_total_not_shown :
    let s : Setting := ⟨fun _ => .error .missing, fun _ => 0.5⟩
    let p := (Prompt.start.feed s "qreg q[1]; creg c[14286]; x q[0];".toList).1
    let p' := (p.feed s "measure q[0] -> c[14285];".toList).1
    p'.console.Reachable s.draws ∧
      ∃ w, (p'.console.workspace.execute s.draws 0 s.room).2 = .ok w ∧
        w.printedTotal = 2 ^ 14285 ∧ w.classicalView s.room = .error .digitsWritten := by
  intro s p p'
  have hp : p'.Reachable s.draws := .feed s rfl _ (.feed s rfl _ .start)
  have hwell := (hp.console.workspaces _ (workspace_mem _)).wellFormed
  have hwidth : p'.console.workspace.classical.width = 14285 + 1 := by decide +kernel
  have hfits : 14285 < s.room.row := by decide +kernel
  obtain ⟨w, hexecute, htotal, hview, hlength⟩ :=
    last_bit_set hwell (by decide +kernel) (by decide +kernel) hwidth hfits 0
  have hcount : ¬ countLimit < 14285 + 1 := by decide +kernel
  have hmemory : ¬ s.room.row < 14285 + 1 := by decide +kernel
  have hlong : ¬ 2 ^ 14285 < Nat.pow 10 digitLimit := by decide +kernel
  refine ⟨hp.console, w, hexecute, htotal, ?_⟩
  rw [hview, Workspace.shownClassical, htotal, hlength, if_neg hcount, if_neg hmemory,
    if_neg hlong]

end Console

end CircuitConsole
