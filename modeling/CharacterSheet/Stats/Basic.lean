import CharacterSheet.Ability
import CharacterSheet.Attack.Basic
import CharacterSheet.Value.Token
import CharacterSheet.Word

/-!
# The stat block

Everything that is computed for a character. The block is made anew each time; it is divided into
the parts that depend on one another in this order: profile and condition, ability scores, skills,
shields, defenses, health, offense, attacks.
-/

namespace CharacterSheet

/-- Covered categories of weapons and armor, and the weapon categories of a Weapon Focus. -/
structure Proficiencies where
  weapons : Std.ExtTreeSet String := ∅
  armor : Std.ExtTreeSet String := ∅
  weaponFocus : Std.ExtTreeSet String := ∅
deriving DecidableEq

namespace Proficiencies

/-- Whether a weapon category is covered. Simple weapons cover both of their categories. -/
def coversWeapon (p : Proficiencies) (category : String) : Bool :=
  let category := Text.fold category
  p.weapons.contains category ||
    (p.weapons.contains "simple weapons" &&
      (category == "simple melee weapons" || category == "simple ranged weapons"))

/-- Whether a weight class of armor is covered, by itself or with `armor` behind it. -/
def coversArmor (p : Proficiencies) (category : String) : Bool :=
  let category := Text.fold category
  p.armor.contains category || p.armor.contains (category ++ " armor")

end Proficiencies

/-- Who the character is, as its traits say. -/
structure Profile where
  level : Int := 0
  heroicLevel : Int := 0
  /-- Levels by class. -/
  classes : Std.ExtTreeMap String Int := ∅
  species : Option String := none
  size : Size := .medium
  isDroid : Bool := false
  feats : Std.ExtTreeSet String := ∅
  talents : Std.ExtTreeSet String := ∅
  proficiencies : Proficiencies := {}
  /-- How many more traits can be taken against each slot. -/
  openSlots : Std.ExtTreeMap String Int := ∅
deriving DecidableEq

/-- Half the level, rounded down. -/
def Profile.halfLevel (p : Profile) : Int := p.level / 2

/-- What the step on the condition track does to the character. -/
structure ConditionEffect where
  penalty : Int := 0
  helpless : Bool := false
deriving DecidableEq

/-- An ability score. -/
structure AbilityScore where
  base : Int
  bonus : Int
  total : Int
  modifier : Int
  /-- The modifier with the condition penalty. -/
  roll : Int
  /-- Whether the character has no such score, like the Constitution of a droid. -/
  skip : Bool := false
  tip : String := ""
deriving DecidableEq

/-- The modifier of a score: half of what it is above ten, rounded down. -/
def abilityModifier (total : Int) : Int := word (total - 10) / 2

/-- The score with a base and a bonus. -/
def AbilityScore.ofParts (base bonus penalty : Int) : AbilityScore :=
  let total := word (base + bonus)
  { base, bonus, total, modifier := abilityModifier total
    roll := word (abilityModifier total + penalty) }

/-- The ability scores of a character. -/
abbrev Scores := Std.ExtTreeMap Ability AbilityScore

/-- The modifier of an ability; zero when there is no score. -/
def Scores.modifier (scores : Scores) (a : Ability) : Int :=
  match scores[a]? with
  | some score => if score.skip then 0 else score.modifier
  | none => 0

/-- A skill on the sheet. -/
structure SkillEntry where
  label : String
  ability : Ability
  trained : Bool
  focus : Bool
  value : Int
  tip : String
deriving DecidableEq

/-- How the number of trained skills compares with the number that can be trained. -/
inductive SkillAllocation where
  | below
  | exact
  | above
deriving DecidableEq

namespace SkillAllocation

/-- All outcomes of the comparison. -/
def all : List SkillAllocation := [below, exact, above]

/-- The name by which data refers to the outcome. -/
def name : SkillAllocation → String
  | below => "under"
  | exact => "exact"
  | above => "over"

/-- Compares the number of trained skills with the number that can be trained. -/
def compare (trained trainable : Int) : SkillAllocation :=
  if trained < trainable then below else if trained = trainable then exact else above

end SkillAllocation

/-- The skills of a character, by folded name. -/
structure SkillSheet where
  entries : Std.ExtTreeMap String SkillEntry := ∅
  trainable : Int := 0
  allocation : SkillAllocation := .exact
deriving DecidableEq

namespace SkillSheet

/-- The entry of a skill, given by its name in any case. -/
def find? (s : SkillSheet) (name : String) : Option SkillEntry := s.entries[Text.fold name]?

/-- Whether a skill has an entry that is trained. -/
def isTrained (s : SkillSheet) (name : String) : Bool := (s.find? name).any (·.trained)

end SkillSheet

/-- Energy shields. -/
structure Shields where
  maximum : Int := 0
  current : Int := 0
  active : Bool := false
deriving DecidableEq

/-- A defense with its components. -/
structure Defense where
  total : Int := 0
  base : Int := 0
  /-- The heroic level, or the bonus of the armor that takes its place. -/
  levelOrArmor : Int := 0
  ability : Int := 0
  classBonus : Int := 0
  misc : Int := 0
  size : Int := 0
  condition : Int := 0
  tip : String := ""
deriving DecidableEq

/-- The defense with the sum of its components as total. -/
def Defense.summed (d : Defense) : Defense :=
  { d with
    total :=
      word (d.base + d.levelOrArmor + d.ability + d.classBonus + d.misc + d.size + d.condition) }

/-- The four defenses and the damage threshold. -/
structure Defenses where
  fortitude : Defense := {}
  will : Defense := {}
  reflex : Defense := {}
  flatFooted : Defense := {}
  damageThreshold : Int := 0
deriving DecidableEq

/-- Hit points. -/
structure Health where
  maximum : Int := 0
  current : Int := 0
  temporary : Int := 0
  bonus : Int := 0
  /-- The step on the condition track, from 0 for normal to 5 for helpless. -/
  condition : Nat := 0
deriving DecidableEq

/-- Attack bonuses. -/
structure Offense where
  base : Int := 0
  melee : Int := 0
  ranged : Int := 0
  /-- The melee bonus of a character with Weapon Finesse. -/
  finesse : Int := 0
deriving DecidableEq

/-- The stat block of a character. -/
structure Stats where
  profile : Profile := {}
  condition : ConditionEffect := {}
  scores : Scores := ∅
  skills : SkillSheet := {}
  shields : Shields := {}
  defenses : Defenses := {}
  health : Health := {}
  offense : Offense := {}
  attacks : List Attack := []
  vars : Variables := ∅
  /-- What could not be computed and was replaced by a default. -/
  warnings : List String := []
deriving DecidableEq

namespace Stats

/-- The block with one more roll variable published. -/
def publish (s : Stats) (name : String) (value : Int) : Stats :=
  { s with vars := s.vars.publish name value }

/-- The block with one more warning. -/
def warn (s : Stats) (message : String) : Stats := { s with warnings := s.warnings ++ [message] }

end Stats

end CharacterSheet
