import CircuitConsole.Proofs.Circuit.Tiling
import CircuitConsole.Proofs.Statement.ArgumentLists
import CircuitConsole.Proofs.Text.Spacing
import CircuitConsole.Proofs.Text.WrittenNumbers

/-!
References to single places of registers, as they are written: the name of the register, and the
number of the place between brackets. They are read back as what they stand for.
-/

namespace CircuitConsole.Statement

open Expression Text

variable {name digits : List Char} {table : RegisterTable} {kind : RegisterKind} {r : Register}
  {i : Nat} {room : Capacity}

/-- An argument needs room for a row, but not for calls. -/
theorem resolve_inside (calls : Nat) (table : RegisterTable) (kind : RegisterKind) (a : List Char)
    (room : Capacity) : resolve table kind a (room.inside calls) = resolve table kind a room :=
  rfl

theorem resolve_trim (table : RegisterTable) (kind : RegisterKind) (a : List Char)
    (room : Capacity) :
    resolve table kind (trim a) room = resolve table kind a room := by
  unfold resolve
  rw [trim_trim]

theorem ReferenceText.nonempty {a : List Char} (h : ReferenceText a) : a ≠ [] := by
  rintro rfl
  exact h.solid rfl

/-- References to single qubits with commas between them. -/
theorem mapM_resolve_joined {as : List (List Char)} {places : List Nat}
    (h : List.Forall₂ (fun a q => resolve table .quantum a room = .ok ⟨q, 1⟩) as places) :
    (commaParts (joined as)).mapM (resolve table .quantum · room) =
      .ok (places.map (⟨·, 1⟩)) := by
  have hreference : ∀ a ∈ as, ReferenceText a := by
    intro a ha
    obtain ⟨q, -, hq⟩ := exists_of_forall₂ h.flip ha
    exact referenceText_of_resolve hq
  rw [commaParts_joined (fun a ha => (hreference a ha).uncut) fun a ha => (hreference a ha).solid]
  refine mapM_eq_ok.mpr (List.forall₂_map_left_iff.mpr (List.forall₂_map_right_iff.mpr ?_))
  exact h.imp fun a q hq => by rw [resolve_trim, hq]

def indexed (name : List Char) (i : Nat) : List Char :=
  name ++ '[' :: (Nat.toDigits 10 i ++ [']'])

theorem solid_indexed (hname : isIdentifier name = true) (i : Nat) : Solid (indexed name i) where
  nonempty := by simp [indexed]
  solid := by
    refine List.forall_mem_append.mpr ⟨fun c hc => ?_, List.forall_mem_cons.mpr ⟨by decide,
      List.forall_mem_append.mpr ⟨fun c hc => ?_, List.forall_mem_singleton.mpr (by decide)⟩⟩⟩
    · exact isBlank_of_isWord (isWord_of_isIdentifier hname c hc)
    · exact isBlank_of_isDigit (isDigit_of_mem_toDigits hc)

theorem enclosedDigits?_closed (hdigits : ∀ c ∈ digits, isDigit c = true) (hne : digits ≠ []) :
    enclosedDigits? '[' ']' ('[' :: (digits ++ [']'])) = some (digits, []) := by
  have hclose : isDigit ']' = false := by decide
  have hleft : trimLeft (digits ++ [']']) = digits ++ [']'] := by
    cases digits with
    | nil => exact absurd rfl hne
    | cons d digits =>
      have hd : isBlank d = false := isBlank_of_isDigit (hdigits d (List.mem_cons_self ..))
      rw [List.cons_append, trimLeft, List.dropWhile_cons_of_neg (by simp [hd])]
  unfold enclosedDigits?
  change (do
    let rest ← afterPrefix? [']'] (trimLeft ((trimLeft (digits ++ [']'])).dropWhile isDigit))
    if (trimLeft (digits ++ [']'])).takeWhile isDigit = [] then none
    else some ((trimLeft (digits ++ [']'])).takeWhile isDigit, rest)) = _
  rw [hleft, List.takeWhile_append_of_pos hdigits, List.dropWhile_append_of_pos hdigits,
    List.takeWhile_cons_of_neg (by simp [hclose]), List.dropWhile_cons_of_neg (by simp [hclose]),
    List.append_nil]
  change (if digits = [] then none else some (digits, [])) = _
  rw [if_neg hne]

theorem reference?_indexed (hname : isIdentifier name = true) (i : Nat) :
    reference? (indexed name i) = some (name, some (Nat.toDigits 10 i)) := by
  have hdigits := enclosedDigits?_closed (fun c => isDigit_of_mem_toDigits (n := i))
    Nat.toDigits_ne_nil
  unfold reference? indexed
  rw [identifier?_append hname (by decide)]
  have hbracket : trimLeft ('[' :: (Nat.toDigits 10 i ++ [']'])) =
      '[' :: (Nat.toDigits 10 i ++ [']']) := List.dropWhile_cons_of_neg (by decide)
  simp only [Option.bind_eq_bind, Option.bind_some, hbracket, hdigits, if_true]

theorem resolve_indexed (hname : isIdentifier name = true)
    (hr : table.find? (String.ofList name) = some r) (hi : i < r.size)
    (hlimit : i < 10 ^ digitLimit) :
    resolve table kind (indexed name i) room = .ok ⟨r.offset + i, 1⟩ := by
  have hnumber : readNumber (Nat.toDigits 10 i) = .ok i := by
    rw [readNumber, readNat_toDigits hlimit]
    rfl
  unfold resolve
  rw [(solid_indexed hname i).spaced.trim_eq]
  simp only [reference?_indexed hname, hr, hnumber, bind, Except.bind]
  rw [if_neg (by omega)]

/-- The name of a bit is a reference to its place in its register. -/
theorem exists_indexed (htable : table.Tiled) (hi : i < table.width) :
    ∃ r ∈ table, r.offset ≤ i ∧ i < r.offset + r.size ∧
      (table.bitName i).toList = indexed r.name.toList (i - r.offset) := by
  obtain ⟨r, hr, hlow, hhigh, hfind⟩ := RegisterTable.exists_register htable hi
  refine ⟨r, hr, hlow, hhigh, ?_⟩
  unfold RegisterTable.bitName
  rw [hfind]
  simp [indexed, toString]

end CircuitConsole.Statement
