import CharacterSheet.Derivation.Skills

/-!
# Shields and defenses
-/

namespace CharacterSheet

/-- The shields of a character. -/
def Shields.inquire (c : Character) (vars : Variables) : Inquiry Shields := do
  let here : Standpoint := ⟨c.id, .shields, vars⟩
  let rating ← here.max "shieldRating" .all
  let bonus ← here.sum "shieldRatingBonus" .all
  let top := max (word (rating + bonus)) 0
  return {
    maximum := top
    current := clampBelow top (c.currentShields.getD top)
    active := c.shieldsActive && decide (0 < top) }

namespace Defense

/-- The components that every defense has: base, class bonus, other bonuses and condition. -/
def common (here : Standpoint) (penalty : Int) (name : String) : Inquiry Defense := do
  let classBonus ← here.max (name ++ "DefenseClassBonus") .classLevels
  let misc ← here.sum (name ++ "DefenseBonus") .plain
  let tip ← here.summary (name ++ "DefenseBonus") .all
  return { base := 10, classBonus, misc, condition := penalty, tip }

/-- Whether a character has a talent or feat. -/
def hasTraining (profile : Profile) (name : String) : Bool :=
  profile.talents.contains name || profile.feats.contains name

/-- What takes the place of the heroic level in the reflex defense while armor is worn: the armor's
bonus; with Armored Defense the heroic level if it is higher; with the improved talent the heroic
level and half the armor's bonus if they are higher together. -/
def armorBonus (profile : Profile) (armor : Armor) : Int :=
  if hasTraining profile "improved armored defense" then
    max (word (profile.heroicLevel + armor.reflexBonus / 2)) armor.reflexBonus
  else if hasTraining profile "armored defense" then max profile.heroicLevel armor.reflexBonus
  else armor.reflexBonus

/-- The reflex defense, from its common components. -/
def reflex (profile : Profile) (scores : Scores) (armor : Option Armor) (d : Defense) : Defense :=
  let dexterity := scores.modifier .dexterity
  { d with
    levelOrArmor := armor.elim profile.heroicLevel (armorBonus profile)
    ability := (armor.bind (·.maxDexterity)).elim dexterity (min dexterity)
    size := profile.size.reflexModifier }.summed

/-- The reflex defense of a character that cannot react. -/
def flatFooted (reflex : Defense) : Defense :=
  { reflex with ability := min reflex.ability 0 }.summed

/-- The fortitude defense, from its common components. A droid relies on Strength. -/
def fortitude (profile : Profile) (scores : Scores) (armor : Option Armor) (d : Defense) :
    Defense :=
  { d with
    levelOrArmor := profile.heroicLevel
    ability := scores.modifier (if profile.isDroid then .strength else .constitution)
    misc := word (d.misc + armor.elim 0 (·.fortitudeBonus)) }.summed

/-- The will defense, from its common components. -/
def will (profile : Profile) (scores : Scores) (d : Defense) : Defense :=
  { d with levelOrArmor := profile.heroicLevel, ability := scores.modifier .wisdom }.summed

end Defense

namespace Defenses

/-- The defenses of a character. -/
def inquire (c : Character) (profile : Profile) (condition : ConditionEffect) (scores : Scores)
    (vars : Variables) : Inquiry Defenses := do
  let here : Standpoint := ⟨c.id, .defenses, vars⟩
  let armor := c.wornArmor?
  let reflex :=
    Defense.reflex profile scores armor (← Defense.common here condition.penalty "reflex")
  let fortitude :=
    Defense.fortitude profile scores armor (← Defense.common here condition.penalty "fortitude")
  let will := Defense.will profile scores (← Defense.common here condition.penalty "will")
  let bonus ← here.sum "damageThresholdBonus" .all
  let damageThreshold ←
    here.scaled (word (fortitude.total + profile.size.thresholdModifier + bonus))
      "damageThresholdHardenedMultiplier"
  return { fortitude, will, reflex, flatFooted := Defense.flatFooted reflex, damageThreshold }

/-- The roll variables with the defenses published. -/
def publish (d : Defenses) (vars : Variables) : Variables :=
  ((((vars.publish "fortDef" d.fortitude.total).publish "refDef" d.reflex.total).publish
    "willDef" d.will.total).publish "flatFooted" d.flatFooted.total).publish
    "damageThreshold" d.damageThreshold

end Defenses

end CharacterSheet
