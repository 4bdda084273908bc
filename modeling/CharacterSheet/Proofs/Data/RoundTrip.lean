import CharacterSheet.Ability
import CharacterSheet.Proofs.Json.RoundTrip
import CharacterSheet.Word

/-!
# Reading the data of a value

What the writers make of an option, a list, a set or a table is read back as it was if this holds of
what is in it. In a record every field is found behind the fields of other names.
-/

namespace CharacterSheet.Data

open Json (IsWritable)

/-! ## Numbers -/

/-- A number of 32 bits is read back. -/
@[simp] theorem int32?_int {n : Int} (h : IsWord n) : int32? (.int n) = some n := if_pos h

/-- A number up to the bound is read back. -/
@[simp] theorem natUpTo?_int {high n : Nat} (h : n ≤ high) : natUpTo? high (.int n) = some n := by
  have hrange : (0 : Int) ≤ n ∧ (n : Int) ≤ high := by omega
  rw [natUpTo?, whole?, if_pos hrange]
  rfl

/-- A word without a sign fits itself. -/
@[simp] theorem natUpTo?_toNat (n : UInt32) :
    natUpTo? 4294967295 (.int n.toNat) = some n.toNat :=
  natUpTo?_int (Nat.le_of_lt_succ n.toNat_lt)

/-- A number of 32 bits can be written. -/
theorem isWritable_int {n : Int} (h : IsWord n) (depth : Nat) : IsWritable depth (.int n) := by
  obtain ⟨hlow, hhigh⟩ := h
  exact .int depth (by omega) (by omega)

/-! ## Fields -/

/-- The fields of a record are read back. -/
@[simp] theorem fields?_record (names : List String) (fields : Fields) :
    fields? names (.record fields) = some fields := rfl

/-- Truth values are read back. -/
@[simp] theorem bool?_bool (b : Bool) : bool? (.bool b) = some b := rfl

/-- Texts are read back. -/
@[simp] theorem text?_text (s : String) : text? (.text s) = some s := rfl

namespace Fields

variable {α : Type} {name other : String}

/-- A field with another name is passed over. -/
theorem lookup_cons_of_ne (h : name ≠ other) (d : Data) (fields : Fields) :
    List.lookup name ((other, d) :: fields) = List.lookup name fields := by
  rw [List.lookup_cons, beq_false_of_ne h]

/-- A required field is read at the first field with its name. -/
@[simp] theorem required_cons (d : Data) (fields : Fields) (read : Data → Option α) :
    required ((other, d) :: fields) name read =
      if name = other then read d else required fields name read := by
  split
  · next h => rw [h, required, List.lookup_cons_self, Option.bind_some]
  · next h => rw [required, required, lookup_cons_of_ne h]

/-- A field that is missing has its default. -/
@[simp] theorem orElse_nil (read : Data → Option α) (default : α) :
    orElse [] name read default = some default := rfl

/-- A field with a default is read at the first field with its name. -/
@[simp] theorem orElse_cons (d : Data) (fields : Fields) (read : Data → Option α) (default : α) :
    orElse ((other, d) :: fields) name read default =
      if name = other then read d else orElse fields name read default := by
  split
  · next h => rw [h, orElse, List.lookup_cons_self]
  · next h => rw [orElse, orElse, lookup_cons_of_ne h]

end Fields

/-- An optional value is read back if the value is. -/
theorem nullable?_ofOption {α : Type} {read : Data → Option α} {write : α → Data}
    (h : ∀ a, read (write a) = some a) (hnull : ∀ a, write a ≠ .null) (a : Option α) :
    nullable? read (ofOption write a) = some a := by
  cases a with
  | none => rfl
  | some a =>
    rw [ofOption, nullable?, h]
    · rfl
    · exact hnull a

/-! ## Collections -/

/-- Items are read back if each of them is. -/
theorem mapM_map_eq_some {α β : Type} {read : β → Option α} {write : α → β} {items : List α}
    (h : ∀ a ∈ items, read (write a) = some a) :
    (items.map write).mapM read = some items := by
  induction items with
  | nil => rfl
  | cons a items ih =>
    rw [List.map_cons, List.mapM_cons, h a (by simp), ih fun a ha => h a (by simp [ha])]
    rfl

/-- A list is read back if its items are. -/
theorem list?_map {α : Type} {read : Data → Option α} {write : α → Data} {items : List α}
    (h : ∀ a ∈ items, read (write a) = some a) :
    list? read (.list (items.map write)) = some items := by
  rw [list?, mapM_map_eq_some h]

/-- A set of texts is read back. -/
@[simp] theorem textSet?_ofTextSet (s : Std.ExtTreeSet String) :
    textSet? (ofTextSet s) = some s := by
  have hitems : list? text? (.list (s.toList.map .text)) = some s.toList :=
    list?_map fun _ _ => rfl
  rw [textSet?, ofTextSet, hitems, Option.map_some, Option.some.injEq]
  ext1 a
  rw [Std.ExtTreeSet.mem_ofList, List.contains_iff_mem, Std.ExtTreeSet.mem_toList]

section Table

variable {κ α : Type} [Ord κ] [Std.TransOrd κ] [Std.LawfulEqOrd κ]

/-- A table is made of its entries. -/
theorem ofList_toList [DecidableEq κ] (table : Std.ExtTreeMap κ α) :
    Std.ExtTreeMap.ofList table.toList = table := by
  ext1 k
  cases h : table[k]? with
  | some a =>
    exact Std.ExtTreeMap.getElem?_ofList_of_mem Std.ReflCmp.compare_self
      Std.ExtTreeMap.distinct_keys_toList (Std.ExtTreeMap.mem_toList_iff_getElem?_eq_some.mpr h)
  | none =>
    refine Std.ExtTreeMap.getElem?_ofList_of_contains_eq_false ?_
    rw [Std.ExtTreeMap.map_fst_toList_eq_keys, Bool.eq_false_iff, Ne, List.contains_iff_mem,
      Std.ExtTreeMap.mem_keys, ← Std.ExtTreeMap.isSome_getElem?_iff_mem, h, Option.isSome_none]
    exact Bool.false_ne_true

/-- A table is read back if its keys and its values are. -/
theorem table?_ofTable [DecidableEq κ] {readKey : String → Option κ} {key : κ → String}
    (hkey : ∀ k, readKey (key k) = some k) {read : Data → Option α} {write : α → Data}
    {table : Std.ExtTreeMap κ α} (h : ∀ entry ∈ table.toList, read (write entry.2) = some entry.2) :
    table? readKey read (ofTable key write table) = some table := by
  rw [ofTable, table?, mapM_map_eq_some, Option.map_some, ofList_toList]
  intro entry hentry
  simp [hkey, h entry hentry]

/-- Keys of different names give the fields of a table different names. -/
theorem isWritable_ofTable {key : κ → String} (hkey : ∀ a b, key a = key b → a = b)
    {write : α → Data} {table : Std.ExtTreeMap κ α} {depth : Nat}
    (h : ∀ entry ∈ table.toList, IsWritable depth (write entry.2)) :
    IsWritable (depth + 1) (ofTable key write table) := by
  refine .record ?_ ?_
  · rw [List.map_map]
    refine List.pairwise_map.mpr (Std.ExtTreeMap.distinct_keys_toList.imp ?_)
    intro a b hne heq
    exact hne (hkey a.1 b.1 heq ▸ Std.ReflCmp.compare_self)
  · intro field hfield
    obtain ⟨entry, hentry, rfl⟩ := List.mem_map.mp hfield
    exact h entry hentry

end Table

/-- A list can be written if its items can. -/
theorem isWritable_list_map {α : Type} {write : α → Data} {items : List α} {depth : Nat}
    (h : ∀ a ∈ items, IsWritable depth (write a)) :
    IsWritable (depth + 1) (.list (items.map write)) := by
  refine .list fun d hd => ?_
  obtain ⟨a, ha, rfl⟩ := List.mem_map.mp hd
  exact h a ha

/-- An optional value can be written if the value can. -/
theorem isWritable_ofOption {α : Type} {write : α → Data} {depth : Nat}
    (h : ∀ a, IsWritable depth (write a)) (a : Option α) :
    IsWritable depth (ofOption write a) := by
  cases a with
  | none => exact .null depth
  | some a => exact h a

end CharacterSheet.Data
