import CharacterSheet.Requirement.Data
import CharacterSheet.Proofs.Stats.RoundTrip

/-!
# Requirements survive their data

A requirement is written as a record with its type and its value, and is read back from it as it
was, however deep requirements stand inside each other. It is also read back from the JSON text of
the record, as long as the text does not nest deeper than the reader goes.
-/

namespace CharacterSheet.Requirement

open Json (IsWritable)

/-! ## Tagged records -/

/-- A record with a type and, unless the type says it all, a value. -/
def IsTagged (d : Data) : Prop :=
  ∃ type, d = .record [("type", .text type)] ∨ ∃ value, d = tagged type value

theorem isTagged_toData (r : Requirement) : IsTagged r.toData := by
  cases r with
  | anyKnowledgeSkill => exact ⟨_, .inl (by rw [toData])⟩
  | _ => exact ⟨_, .inr ⟨_, by rw [toData]⟩⟩

theorem ofData?_tagged (type : String) (value : Data) :
    ofData? (tagged type value) = ofValue? (some type) value := by
  simp [tagged, ofData?, ofFields?, Data.nameIn?]

/-- What is no list of others is read from its value alone. -/
theorem ofData?_tagged_of_simple? {type : String} {value : Data} {r : Requirement}
    (hlist : ∀ items, value ≠ .list items) (h : simple? type value = some r) :
    ofData? (tagged type value) = some r := by
  rw [ofData?_tagged, ofValue?, Option.bind_some, h]
  exact hlist

/-! ## Numbers -/

theorem isWord_toInt (n : Int32) : IsWord n.toInt :=
  ⟨n.le_toInt, Int.le_of_lt_add_one n.toInt_lt⟩

@[simp] theorem int32?_toInt (n : Int32) : int32? (.int n.toInt) = some n := by
  rw [int32?, Data.int32?_int (isWord_toInt n), Option.map_some, Int32.ofInt_toInt]

/-! ## Reading back -/

theorem appendage?_record (count : UInt32) (kind : Option String) (locomotion : Bool) :
    appendage? (.record [("count", .int count.toNat), ("kind", .ofOption .text kind),
      ("locomotion", .bool locomotion)]) = some (.appendage count kind locomotion) := by
  have hkind : Data.nullable? Data.text? (.ofOption .text kind) = some kind :=
    Data.nullable?_ofOption Data.text?_text (fun _ h => nomatch h) kind
  simp [appendage?, Data.record?, Data.Fields.optional, hkind]

theorem abilityAtLeast?_record (ability : Ability) (minimum : Int32) :
    abilityAtLeast? (.record [("ability", .text ability.name), ("minimum", .int minimum.toInt)]) =
      some (.abilityAtLeast ability minimum) := by
  simp [abilityAtLeast?, Data.record?, Ability.ofData?_name]

mutual

/-- A requirement is read back from its data. -/
theorem ofData?_toData : (r : Requirement) → ofData? r.toData = some r
  -- the two nested forms go through the theorem for lists, which is proved along with this one
  | .anyOf options => by
    rw [toData, ofData?_tagged, ofValue?, listOfData?_listToData options]
    rfl
  | .allOf parts => by
    rw [toData, ofData?_tagged, ofValue?, listOfData?_listToData parts]
    rfl
  | .anyKnowledgeSkill => by
    simp [toData, ofData?, ofFields?, Data.nameIn?]
  | .narrative _ | .trainedSkill _ | .proficient _ | .droid _ | .possession _ => by
    rw [toData]
    exact ofData?_tagged_of_simple? (fun _ h => nomatch h) rfl
  | .appendage count kind locomotion => by
    rw [toData]
    exact ofData?_tagged_of_simple? (fun _ h => nomatch h)
      (appendage?_record count kind locomotion)
  | .sizeOrLarger size => by
    rw [toData]
    exact ofData?_tagged_of_simple? (fun _ h => nomatch h) (by simp [simple?, Size.ofData?_name])
  | .abilityAtLeast ability minimum => by
    rw [toData]
    exact ofData?_tagged_of_simple? (fun _ h => nomatch h)
      (abilityAtLeast?_record ability minimum)
  | .baseAttackBonus _ | .characterLevel _ => by
    rw [toData]
    exact ofData?_tagged_of_simple? (fun _ h => nomatch h) (by simp [simple?])

/-- Several requirements are read back from their data. -/
theorem listOfData?_listToData : (rs : List Requirement) → listOfData? (listToData rs) = some rs
  | [] => by rw [listToData, listOfData?]
  | r :: rest => by
    rw [listToData, listOfData?, ofData?_toData r, listOfData?_listToData rest]

end

/-! ## JSON text -/

mutual

/-- How many lists and records the data of a requirement nests. -/
def depth : Requirement → Nat
  | anyOf options => depthOf options + 2
  | allOf parts => depthOf parts + 2
  | appendage .. | abilityAtLeast .. => 2
  | _ => 1

/-- How many lists and records the data of several requirements nests. -/
def depthOf : List Requirement → Nat
  | [] => 0
  | r :: rest => max r.depth (depthOf rest)

end

theorem isWritable_tagged {depth : Nat} {type : String} {value : Data}
    (h : IsWritable depth value) : IsWritable (depth + 1) (tagged type value) := by
  refine .record (by simp) ?_
  simp [h, IsWritable.text]

mutual

/-- The data of a requirement can be written in as many lists and records as it nests. -/
theorem isWritable_toData : (r : Requirement) → IsWritable r.depth r.toData
  -- a list of others takes two levels, the record and the list in it
  | .anyOf options => by
    rw [toData]
    exact isWritable_tagged (.list (isWritable_of_mem_listToData options))
  | .allOf parts => by
    rw [toData]
    exact isWritable_tagged (.list (isWritable_of_mem_listToData parts))
  | .anyKnowledgeSkill => by
    rw [toData]
    refine .record (by simp) ?_
    simp [IsWritable.text]
  | .appendage count kind locomotion => by
    have hcount := count.toNat_lt
    have hkind : IsWritable 0 (.ofOption .text kind) :=
      Data.isWritable_ofOption (fun _ => .text _ _) kind
    rw [toData]
    refine isWritable_tagged (.record (by simp) ?_)
    simp [hkind, IsWritable.bool, IsWritable.int 0 (n := count.toNat) (by omega) (by omega)]
  | .abilityAtLeast ability minimum => by
    rw [toData]
    refine isWritable_tagged (.record (by simp) ?_)
    simp [IsWritable.text, Data.isWritable_int (isWord_toInt minimum)]
  | .baseAttackBonus n | .characterLevel n => by
    rw [toData]
    exact isWritable_tagged (Data.isWritable_int (isWord_toInt n) 0)
  | .droid expected => by
    rw [toData]
    exact isWritable_tagged (.bool 0 expected)
  | .narrative _ | .trainedSkill _ | .sizeOrLarger _ | .proficient _ | .possession _ => by
    rw [toData]
    exact isWritable_tagged (.text 0 _)

theorem isWritable_of_mem_listToData : (rs : List Requirement) →
    ∀ d ∈ listToData rs, IsWritable (depthOf rs) d
  | [], d, hd => by
    rw [listToData] at hd
    exact absurd hd List.not_mem_nil
  | r :: rest, d, hd => by
    rw [listToData] at hd
    rcases List.mem_cons.mp hd with rfl | hd
    · exact (isWritable_toData r).mono (Nat.le_max_left _ _)
    · exact (isWritable_of_mem_listToData rest d hd).mono (Nat.le_max_right _ _)

end

/-- Every requirement is written in tagged form and read back from it as it was. The same holds of
the JSON text of the form, in which a reader follows 127 lists and records into each other. -/
theorem readsBack_tagged (r : Requirement) :
    IsTagged r.toData ∧ ofData? r.toData = some r ∧
      (r.depth ≤ 127 → (Json.read? (Json.write r.toData)).bind ofData? = some r) := by
  refine ⟨isTagged_toData r, ofData?_toData r, ?_⟩
  intro hdepth
  rw [Json.read?_write ((isWritable_toData r).mono hdepth), Option.bind_some, ofData?_toData]

/-- A choice inside a choice, a number of times. -/
def choices : Nat → Requirement
  | 0 => .droid false
  | n + 1 => .anyOf [choices n, .anyKnowledgeSkill]

/-- Requirements of all kinds, as deep as a text may nest them. -/
def ordeal : Requirement :=
  .allOf [.narrative "the \"master\"\u0000 agrees", .anyOf [], .allOf [], .trainedSkill "",
    .anyKnowledgeSkill, .appendage 4294967295 (some "té") false, .appendage 0 none true,
    .sizeOrLarger .colossal, .abilityAtLeast .wisdom (-2147483648), .baseAttackBonus 2147483647,
    .characterLevel (-1), .proficient "light armor", .possession "Dodge", choices 62]

/-- A nested requirement is read back from its data and from their text. -/
theorem readsBack_tagged_ordeal :
    ordeal.depth ≤ 127 ∧ IsTagged ordeal.toData ∧ ofData? ordeal.toData = some ordeal ∧
      (Json.read? (Json.write ordeal.toData)).bind ofData? = some ordeal := by
  have hdepth : ordeal.depth ≤ 127 := by decide +kernel
  obtain ⟨htagged, hdata, htext⟩ := readsBack_tagged ordeal
  exact ⟨hdepth, htagged, hdata, htext hdepth⟩

end CharacterSheet.Requirement
