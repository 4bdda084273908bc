import CharacterSheet.Binary64.Decimal
import CharacterSheet.Data.Basic

/-!
# Rules

House rules and tunable constants. Every setting has a default, so a rule set may be given in part.
A rule set loaded as such is validated: the ladder of unarmed damage dice has to be climbable.
-/

namespace CharacterSheet

/-- Why a configuration is refused. -/
inductive ConfigError where
  /-- The file cannot be read. -/
  | unreadable
  /-- The text is not well-formed or has another shape. -/
  | malformed
  | emptyDice
  | diceNotIncreasing
  | duplicateSkill (name : String)
deriving DecidableEq, Repr

/-- What a configuration violates, in words; an error before validation has none. -/
def ConfigError.violation? : ConfigError → Option String
  | unreadable | malformed => none
  | emptyDice => some "combat.unarmed_dice must not be empty"
  | diceNotIncreasing => some "combat.unarmed_dice must be strictly increasing"
  | duplicateSkill name => some ("duplicate skill: " ++ name)

/-- How Skill Focus raises a skill. -/
inductive FocusBonus where
  /-- By the flat bonus of the skill rules. -/
  | flat
  | halfLevelRoundedUp
  | halfLevelRoundedDown
deriving DecidableEq, Repr

namespace FocusBonus

/-- All ways to raise a focused skill. -/
def all : List FocusBonus := [flat, halfLevelRoundedUp, halfLevelRoundedDown]

/-- The name by which data refers to the way. -/
def name : FocusBonus → String
  | flat => "default"
  | halfLevelRoundedUp => "half_level_round_up"
  | halfLevelRoundedDown => "half_level_round_down"

end FocusBonus

/-- Options that change the rules as written. -/
structure HouseRules where
  /-- Whether Point-Blank Shot grants Precise Shot too. -/
  mergePointBlankAndPreciseShot : Bool := false
  /-- Whether a heavy load hampers the character. -/
  encumbranceByWeight : Bool := false
  skillFocus : FocusBonus := .flat
deriving DecidableEq, Repr

/-- Constants for skills. -/
structure SkillRules where
  /-- How many skills can be trained when no class says so. -/
  defaultTrained : Int := 3
  focusBonus : Int := 5
  trainedBonus : Int := 5
deriving DecidableEq, Repr

/-- Constants for attacks. -/
structure CombatRules where
  /-- The weapon categories that make an attack a ranged one. -/
  rangedCategories : List String :=
    ["pistols", "rifles", "heavy weapons", "simple ranged weapons", "exotic ranged weapons",
      "grenades"]
  /-- The ladder of unarmed damage dice, by their number of sides. -/
  unarmedDice : List Nat := [2, 3, 4, 6, 8, 10, 12]
  nonProficientPenalty : Int := -5
  autofirePenalty : Int := -5
  /-- The penalty on both ends of a double weapon before any Dual Weapon Mastery. -/
  multiAttackPenalty : Int := -10
deriving DecidableEq, Repr

/-- Constants for carried weight. -/
structure EncumbranceRules where
  /-- A load is heavy above the square of Strength times this factor, in kilograms. -/
  capacityFactor : Binary64 := .finite (1 / 2)
  heavyLoadPenalty : Int := -10
deriving DecidableEq, Repr

/-- A rule set; the default one is the rules as written. -/
structure Rules where
  house : HouseRules := {}
  skills : SkillRules := {}
  /-- The penalty for each step on the condition track, from normal to helpless. -/
  conditionPenalties : List Int := [0, -1, -2, -5, -10, -10]
  combat : CombatRules := {}
  encumbrance : EncumbranceRules := {}
deriving DecidableEq, Repr

/-- A single setting. -/
inductive Setting where
  | flag (b : Bool)
  | number (n : Int)
  | text (s : String)
deriving DecidableEq, Repr

namespace Rules

/-- Whether each number is below the next one. -/
def increasing : List Nat → Bool
  | a :: b :: rest => a < b && increasing (b :: rest)
  | _ => true

/-- Refuses a rule set whose ladder of unarmed dice is empty or does not rise. -/
def validate (rules : Rules) : Except ConfigError Rules :=
  if rules.combat.unarmedDice.isEmpty then .error .emptyDice
  else if !increasing rules.combat.unarmedDice then .error .diceNotIncreasing
  else .ok rules

/-- A setting by its dotted name; a name that is not listed here is a flag that is off. -/
def setting (rules : Rules) : String → Setting
  | "house_rules.merge_point_blank_and_precise_shot" =>
    .flag rules.house.mergePointBlankAndPreciseShot
  | "house_rules.encumbrance_by_weight" => .flag rules.house.encumbranceByWeight
  | "house_rules.skill_focus_calculation" => .text rules.house.skillFocus.name
  | "skills.default_trained_skills" => .number rules.skills.defaultTrained
  | "skills.skill_focus_bonus" => .number rules.skills.focusBonus
  | "combat.non_proficient_penalty" => .number rules.combat.nonProficientPenalty
  | "combat.autofire_penalty" => .number rules.combat.autofirePenalty
  | _ => .flag false

/-- Whether a setting is a flag that is on. -/
def flag (rules : Rules) (name : String) : Bool := rules.setting name = .flag true

/-- The penalty for a step on the condition track. Steps beyond the list have the penalty of its
last entry, and an empty list has no penalties. -/
def conditionPenalty (rules : Rules) (step : Nat) : Int :=
  (rules.conditionPenalties[min step (rules.conditionPenalties.length - 1)]?).getD 0

/-! ## Data -/

/-- Reads house rules from data. -/
def house? (format : Data.Format) (d : Data) : Option HouseRules := do
  let fields ← d.fieldsIn? format ["merge_point_blank_and_precise_shot", "encumbrance_by_weight",
    "skill_focus_calculation"]
  return {
    mergePointBlankAndPreciseShot :=
      ← fields.orElse "merge_point_blank_and_precise_shot" Data.bool? false
    encumbranceByWeight := ← fields.orElse "encumbrance_by_weight" Data.bool? false
    skillFocus := ← fields.orElse "skill_focus_calculation"
      (Data.namedIn? format FocusBonus.all FocusBonus.name) .flat }

/-- Reads constants for skills from data. -/
def skills? (format : Data.Format) (d : Data) : Option SkillRules := do
  let fields ← d.fieldsIn? format ["default_trained_skills", "skill_focus_bonus", "trained_bonus"]
  let default : SkillRules := {}
  return {
    defaultTrained := ← fields.orElse "default_trained_skills" Data.int32? default.defaultTrained
    focusBonus := ← fields.orElse "skill_focus_bonus" Data.int32? default.focusBonus
    trainedBonus := ← fields.orElse "trained_bonus" Data.int32? default.trainedBonus }

/-- Reads condition penalties from data. -/
def penalties? (format : Data.Format) (d : Data) : Option (List Int) := do
  let fields ← d.fieldsIn? format ["penalties"]
  let default : Rules := {}
  fields.orElse "penalties" (Data.list? Data.int32?) default.conditionPenalties

/-- Reads constants for attacks from data. -/
def combat? (format : Data.Format) (d : Data) : Option CombatRules := do
  let fields ← d.fieldsIn? format ["ranged_categories", "unarmed_dice", "non_proficient_penalty",
    "autofire_penalty", "multi_attack_penalty"]
  let default : CombatRules := {}
  return {
    rangedCategories :=
      ← fields.orElse "ranged_categories" (Data.list? Data.text?) default.rangedCategories
    unarmedDice :=
      ← fields.orElse "unarmed_dice" (Data.list? (Data.natUpTo? 4294967295)) default.unarmedDice
    nonProficientPenalty :=
      ← fields.orElse "non_proficient_penalty" Data.int32? default.nonProficientPenalty
    autofirePenalty := ← fields.orElse "autofire_penalty" Data.int32? default.autofirePenalty
    multiAttackPenalty :=
      ← fields.orElse "multi_attack_penalty" Data.int32? default.multiAttackPenalty }

/-- Reads constants for carried weight from data. -/
def encumbrance? (format : Data.Format) (d : Data) : Option EncumbranceRules := do
  let fields ← d.fieldsIn? format ["capacity_factor", "heavy_load_penalty"]
  let default : EncumbranceRules := {}
  return {
    capacityFactor := ← fields.orElse "capacity_factor" Data.number? default.capacityFactor
    heavyLoadPenalty := ← fields.orElse "heavy_load_penalty" Data.int32? default.heavyLoadPenalty }

/-- Reads a rule set from data, without validating it. -/
def ofData? (format : Data.Format) (d : Data) : Option Rules := do
  let fields ← d.fieldsIn? format ["house_rules", "skills", "condition", "combat", "encumbrance"]
  let default : Rules := {}
  return {
    house := ← fields.orElse "house_rules" (house? format) {}
    skills := ← fields.orElse "skills" (skills? format) {}
    conditionPenalties := ← fields.orElse "condition" (penalties? format) default.conditionPenalties
    combat := ← fields.orElse "combat" (combat? format) {}
    encumbrance := ← fields.orElse "encumbrance" (encumbrance? format) {} }

/-- The data of a rule set, with every setting. -/
def toData (rules : Rules) : Data :=
  .record [
    ("house_rules", .record [
      ("merge_point_blank_and_precise_shot", .bool rules.house.mergePointBlankAndPreciseShot),
      ("encumbrance_by_weight", .bool rules.house.encumbranceByWeight),
      ("skill_focus_calculation", .text rules.house.skillFocus.name)]),
    ("skills", .record [
      ("default_trained_skills", .int rules.skills.defaultTrained),
      ("skill_focus_bonus", .int rules.skills.focusBonus),
      ("trained_bonus", .int rules.skills.trainedBonus)]),
    ("condition", .record [("penalties", .list (rules.conditionPenalties.map .int))]),
    ("combat", .record [
      ("ranged_categories", .list (rules.combat.rangedCategories.map .text)),
      ("unarmed_dice", .list (rules.combat.unarmedDice.map fun (sides : Nat) => .int sides)),
      ("non_proficient_penalty", .int rules.combat.nonProficientPenalty),
      ("autofire_penalty", .int rules.combat.autofirePenalty),
      ("multi_attack_penalty", .int rules.combat.multiAttackPenalty)]),
    ("encumbrance", .record [
      ("capacity_factor", .float rules.encumbrance.capacityFactor),
      ("heavy_load_penalty", .int rules.encumbrance.heavyLoadPenalty)])]

end Rules

end CharacterSheet
