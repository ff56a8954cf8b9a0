import CircuitConsole.Circuit.Register
import Mathlib.Data.List.Nodup
import Mathlib.Data.List.Basic

/-!
Tables whose registers tile the bits of the circuit: in the order of declaration each begins where
the one before it ends, and none is empty. Every bit below the width then belongs to exactly one
register, and no register reaches beyond the width. It is named by its place there, and keeps its
name in every table that goes on behind this one.
-/

namespace CircuitConsole.RegisterTable

theorem width_append (table more : RegisterTable) :
    RegisterTable.width (table ++ more) = table.width + more.width := by
  induction table with
  | nil => simp [width]
  | cons r table ih =>
    simp only [List.cons_append, width, ih]
    omega

theorem width_le_of_prefix {table table' : RegisterTable} (h : List.IsPrefix table table') :
    table.width ≤ table'.width := by
  obtain ⟨more, rfl⟩ := h
  rw [width_append]
  omega

/-- Registers in a row from some bit on, each of at least one bit. -/
def TiledFrom : Nat → RegisterTable → Prop
  | _, [] => True
  | start, r :: table => r.offset = start ∧ 1 ≤ r.size ∧ TiledFrom (start + r.size) table

def Tiled (table : RegisterTable) : Prop := TiledFrom 0 table

theorem tiledFrom_append {start : Nat} {table : RegisterTable} {r : Register}
    (h : TiledFrom start table) (hoffset : r.offset = start + table.width) (hsize : 1 ≤ r.size) :
    TiledFrom start (table ++ [r]) := by
  induction table generalizing start with
  | nil => exact ⟨by simpa [width] using hoffset, hsize, trivial⟩
  | cons s table ih =>
    obtain ⟨hs, hs', htable⟩ := h
    refine ⟨hs, hs', ih htable ?_⟩
    rw [hoffset]
    simp only [width]
    omega

theorem Tiled.declare {table : RegisterTable} (h : Tiled table) (name : String) {size : Nat}
    (hsize : 1 ≤ size) : Tiled (table.declare name size) :=
  tiledFrom_append h (Nat.zero_add _).symm hsize

theorem tiledFrom_bounds {start : Nat} {table : RegisterTable} (h : TiledFrom start table)
    {r : Register} (hr : r ∈ table) :
    start ≤ r.offset ∧ 1 ≤ r.size ∧ r.offset + r.size ≤ start + table.width := by
  induction table generalizing start with
  | nil => simp at hr
  | cons s table ih =>
    obtain ⟨hs, hs', htable⟩ := h
    simp only [width]
    rcases List.mem_cons.mp hr with rfl | hr
    · omega
    · have := ih htable hr
      omega

theorem Tiled.bounds {table : RegisterTable} (h : Tiled table) {r : Register} (hr : r ∈ table) :
    1 ≤ r.size ∧ r.offset + r.size ≤ table.width := by
  have := tiledFrom_bounds h hr
  omega

theorem tiledFrom_covers {start : Nat} {table : RegisterTable} (h : TiledFrom start table)
    {i : Nat} (hstart : start ≤ i) (hi : i < start + table.width) :
    ∃ r ∈ table, r.covers i = true ∧ ∀ s ∈ table, s.covers i = true → s = r := by
  induction table generalizing start with
  | nil =>
    simp only [width] at hi
    omega
  | cons r table ih =>
    obtain ⟨hr, hr', htable⟩ := h
    simp only [width] at hi
    by_cases hfirst : i < start + r.size
    · refine ⟨r, List.mem_cons_self .., by simp [Register.covers]; omega, ?_⟩
      intro s hs hcovers
      rcases List.mem_cons.mp hs with rfl | hs
      · rfl
      · have := tiledFrom_bounds htable hs
        simp only [Register.covers, Bool.and_eq_true, decide_eq_true_eq] at hcovers
        omega
    · obtain ⟨s, hs, hcovers, hunique⟩ := ih htable (by omega) (by omega)
      refine ⟨s, List.mem_cons_of_mem _ hs, hcovers, ?_⟩
      intro s' hs' hcovers'
      rcases List.mem_cons.mp hs' with rfl | hs'
      · simp only [Register.covers, Bool.and_eq_true, decide_eq_true_eq] at hcovers'
        omega
      · exact hunique s' hs' hcovers'

/-- Every bit below the width belongs to exactly one register. -/
theorem Tiled.covers {table : RegisterTable} (h : Tiled table) {i : Nat} (hi : i < table.width) :
    ∃ r ∈ table, r.covers i = true ∧ ∀ s ∈ table, s.covers i = true → s = r :=
  tiledFrom_covers h (Nat.zero_le i) (by simpa using hi)

def names (table : RegisterTable) : List String := table.map (·.name)

theorem not_mem_names {table : RegisterTable} {name : String}
    (h : table.contains name = false) : name ∉ table.names := by
  intro hname
  obtain ⟨r, hr, rfl⟩ := List.mem_map.mp hname
  simp only [contains, find?, Option.isSome_eq_false_iff, Option.isNone_iff_eq_none,
    List.find?_eq_none, decide_eq_true_eq] at h
  exact h r hr rfl

theorem names_declare (table : RegisterTable) (name : String) (size : Nat) :
    (table.declare name size).names = table.names ++ [name] := by
  simp [names, declare]

section Names

variable {table table' : RegisterTable} {r : Register} {i : Nat}

theorem find?_longer {name : String} (h : table <+: table') (hr : table.find? name = some r) :
    table'.find? name = some r := by
  obtain ⟨more, rfl⟩ := h
  exact List.find?_append.trans (by rw [show List.find? _ table = some r from hr]; rfl)

theorem find?_of_mem (hnames : table.names.Nodup) (hr : r ∈ table) :
    table.find? r.name = some r := by
  induction table with
  | nil => cases hr
  | cons s table ih =>
    obtain ⟨hs, hnames⟩ := List.nodup_cons.mp hnames
    unfold find? at ih ⊢
    rcases List.mem_cons.mp hr with rfl | hr
    · exact List.find?_cons_of_pos (by simp)
    · have hne : s.name ≠ r.name := by
        intro hname
        exact hs (List.mem_map.mpr ⟨r, hr, hname.symm⟩)
      rw [List.find?_cons_of_neg (by simpa using hne)]
      exact ih hnames hr

/-- Every bit of a tiled table is found in a register, and named by its place there. -/
theorem exists_register (htable : table.Tiled) (hi : i < table.width) :
    ∃ r ∈ table, r.offset ≤ i ∧ i < r.offset + r.size ∧
      List.find? (fun r => r.covers i) table = some r := by
  obtain ⟨s, hs, hcovers, -⟩ := htable.covers hi
  have hsome : (List.find? (fun r => r.covers i) table).isSome :=
    List.find?_isSome.mpr ⟨s, hs, hcovers⟩
  obtain ⟨r, hr⟩ := Option.isSome_iff_exists.mp hsome
  have hplace := List.find?_some hr
  simp only [Register.covers, Bool.and_eq_true, decide_eq_true_eq] at hplace
  exact ⟨r, List.mem_of_find?_eq_some hr, hplace.1, hplace.2, hr⟩

theorem bitName_longer (htable : table.Tiled) (h : table <+: table') (hi : i < table.width) :
    table'.bitName i = table.bitName i := by
  obtain ⟨more, rfl⟩ := h
  obtain ⟨r, -, -, -, hr⟩ := exists_register htable hi
  unfold bitName
  rw [List.find?_append, hr]
  rfl

end Names

end CircuitConsole.RegisterTable
