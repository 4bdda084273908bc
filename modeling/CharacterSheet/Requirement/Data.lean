import CharacterSheet.Requirement.Basic

/-!
# Requirements as data

A requirement is a record with its `type` and, unless the type says it all, its `value`.
-/

namespace CharacterSheet.Requirement

/-- A record with a type and a value. -/
def tagged (type : String) (value : Data) : Data := .record [("type", .text type), ("value", value)]

mutual

/-- The data of a requirement. -/
def toData : Requirement → Data
  | narrative text => tagged "narrative" (.text text)
  | anyOf options => tagged "or" (.list (listToData options))
  | allOf parts => tagged "all" (.list (listToData parts))
  | trainedSkill skill => tagged "trained_skill" (.text skill)
  | anyKnowledgeSkill => .record [("type", .text "any_knowledge_skill")]
  | appendage count kind locomotion =>
    tagged "appendage" (.record [("count", .int count.toNat), ("kind", .ofOption .text kind),
      ("locomotion", .bool locomotion)])
  | sizeOrLarger size => tagged "size_or_larger" (.text size.name)
  | abilityAtLeast ability minimum =>
    tagged "ability_threshold"
      (.record [("ability", .text ability.name), ("minimum", .int minimum.toInt)])
  | baseAttackBonus minimum => tagged "base_attack_bonus" (.int minimum.toInt)
  | characterLevel limit => tagged "character_level" (.int limit.toInt)
  | proficient category => tagged "proficient" (.text category)
  | droid expected => tagged "droid" (.bool expected)
  | possession name => tagged "possession" (.text name)

/-- The data of several requirements. -/
def listToData : List Requirement → List Data
  | [] => []
  | r :: rest => r.toData :: listToData rest

end

/-- A whole number of 32 bits with a sign. -/
def int32? (d : Data) : Option Int32 := d.int32?.map Int32.ofInt

/-- Reads an appendage requirement. -/
def appendage? (d : Data) : Option Requirement := do
  let fields ← d.record?
  return .appendage (UInt32.ofNat (← fields.required "count" (Data.natUpTo? 4294967295)))
    (← fields.optional "kind" Data.text?) (← fields.required "locomotion" Data.bool?)

/-- Reads an ability requirement. -/
def abilityAtLeast? (d : Data) : Option Requirement := do
  let fields ← d.record?
  return .abilityAtLeast (← fields.required "ability" Ability.ofData?)
    (← fields.required "minimum" int32?)

/-- Reads the value of a requirement that does not hold others. -/
def simple? (type : String) (value : Data) : Option Requirement :=
  match type with
  | "narrative" => value.text?.map narrative
  | "trained_skill" => value.text?.map trainedSkill
  | "any_knowledge_skill" =>
    match value with
    | .null => some anyKnowledgeSkill
    | _ => none
  | "appendage" => appendage? value
  | "size_or_larger" => (Size.ofData? value).map sizeOrLarger
  | "ability_threshold" => abilityAtLeast? value
  | "base_attack_bonus" => (int32? value).map baseAttackBonus
  | "character_level" => (int32? value).map characterLevel
  | "proficient" => value.text?.map proficient
  | "droid" => value.bool?.map droid
  | "possession" => value.text?.map possession
  | _ => none

mutual

/-- Reads a requirement from data: a record, or a list of the type and the value. -/
def ofData? : Data → Option Requirement
  | .record fields => ofFields? ((fields.lookup "type").bind (Data.nameIn? .json)) fields
  | .list [type, value] => ofValue? (type.nameIn? .json) value
  | _ => none

/-- Reads a requirement of a type from a record's fields. Only a type that says it all may come
without a value. -/
def ofFields? (type : Option String) : List (String × Data) → Option Requirement
  | [] =>
    match type with
    | some "any_knowledge_skill" => some anyKnowledgeSkill
    | _ => none
  | (name, value) :: rest =>
    if name = "value" then ofValue? type value else ofFields? type rest

/-- Reads a requirement of a type from its value. -/
def ofValue? (type : Option String) : Data → Option Requirement
  | .list items =>
    match type with
    | some "or" => (listOfData? items).map anyOf
    | some "all" => (listOfData? items).map allOf
    | some type => simple? type (.list items)
    | none => none
  | value => type.bind fun type => simple? type value

/-- Reads several requirements from data. -/
def listOfData? : List Data → Option (List Requirement)
  | [] => some []
  | d :: rest =>
    match ofData? d, listOfData? rest with
    | some r, some rs => some (r :: rs)
    | _, _ => none

end

end CharacterSheet.Requirement
