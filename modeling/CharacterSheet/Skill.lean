import CharacterSheet.Ability
import CharacterSheet.Rules

/-!
# Skills

The skills that a sheet lists, and the keys under which characters refer to them.
-/

namespace CharacterSheet

/-- A skill. -/
structure Skill where
  name : String
  ability : Ability
  /-- Whether armor and a heavy load hamper it. -/
  physical : Bool := false
deriving DecidableEq, Repr

namespace Skill

/-- The name in lower case, under which the sheet lists the skill. -/
def key (s : Skill) : String := Text.lower s.name

/-- A word with a capital first letter. -/
def capitalize : List Char → List Char
  | [] => []
  | c :: rest => Text.upperChar c ++ rest

/-- Words run together, all but the first one capitalized. -/
def camelCase : List (List Char) → List Char
  | [] => []
  | word :: words => word ++ words.flatMap capitalize

/-- The attribute key under which contributions raise the skill: the words of its name in lower
case run together, and the words `SkillBonus`. -/
def bonusKey (s : Skill) : String :=
  let words := Text.wordsBetween (!Text.isWordCharacter ·) s.name.toList
  String.ofList (camelCase (words.map Text.lowerChars)) ++ "SkillBonus"

/-- Whether the skill is one of the Knowledge skills. -/
def isKnowledge (s : Skill) : Bool := Text.startsWith "knowledge" s.key

/-- Refuses a list in which two skills have the same key; `seen` are the keys before it. -/
def checkDistinct (seen : List String) : List Skill → Except ConfigError Unit
  | [] => .ok ()
  | s :: rest =>
    if seen.contains s.key then .error (.duplicateSkill s.name)
    else checkDistinct (s.key :: seen) rest

/-- Refuses a list in which two skills have the same key. -/
def validate (skills : List Skill) : Except ConfigError (List Skill) :=
  (checkDistinct [] skills).map fun _ => skills

/-- Reads a skill from data. -/
def ofData? (format : Data.Format) (d : Data) : Option Skill := do
  let fields ← d.fieldsIn? format ["name", "ability", "physical"]
  return {
    name := ← fields.required "name" Data.text?
    ability := ← fields.required "ability" (Data.namedIn? format Ability.all Ability.name)
    physical := ← fields.orElse "physical" Data.bool? false }

/-- Reads a list of skills that is kept under the name `skills`, without validating it. -/
def listOfData? (format : Data.Format) (d : Data) : Option (List Skill) := do
  let fields ← d.fieldsIn? format ["skills"]
  fields.required "skills" (Data.list? (Skill.ofData? format))

/-- The skills of the rules as written. -/
def standard : List Skill :=
  [⟨"Acrobatics", .dexterity, true⟩,
    ⟨"Climb", .strength, true⟩,
    ⟨"Deception", .charisma, false⟩,
    ⟨"Endurance", .constitution, true⟩,
    ⟨"Gather Information", .charisma, false⟩,
    ⟨"Initiative", .dexterity, true⟩,
    ⟨"Jump", .strength, true⟩,
    ⟨"Knowledge (Bureaucracy)", .intelligence, false⟩,
    ⟨"Knowledge (Galactic Lore)", .intelligence, false⟩,
    ⟨"Knowledge (Life Sciences)", .intelligence, false⟩,
    ⟨"Knowledge (Physical Sciences)", .intelligence, false⟩,
    ⟨"Knowledge (Social Sciences)", .intelligence, false⟩,
    ⟨"Knowledge (Tactics)", .intelligence, false⟩,
    ⟨"Knowledge (Technology)", .intelligence, false⟩,
    ⟨"Mechanics", .intelligence, false⟩,
    ⟨"Perception", .wisdom, false⟩,
    ⟨"Persuasion", .charisma, false⟩,
    ⟨"Pilot", .dexterity, false⟩,
    ⟨"Ride", .dexterity, false⟩,
    ⟨"Stealth", .dexterity, true⟩,
    ⟨"Survival", .wisdom, false⟩,
    ⟨"Swim", .strength, true⟩,
    ⟨"Treat Injury", .wisdom, false⟩,
    ⟨"Use Computer", .intelligence, false⟩,
    ⟨"Use the Force", .charisma, false⟩]

end Skill

end CharacterSheet
