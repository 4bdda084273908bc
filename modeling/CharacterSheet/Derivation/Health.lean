import CharacterSheet.Derivation.Defenses

/-!
# Hit points and attack bonuses
-/

namespace CharacterSheet

/-- The hit points of a character: what the class levels rolled, the Constitution modifier once for
each level and other bonuses, scaled by the factors that traits contribute. -/
def Health.inquire (c : Character) (profile : Profile) (scores : Scores) (vars : Variables) :
    Inquiry Health := do
  let here : Standpoint := ⟨c.id, .health, vars⟩
  let rolled ← here.sum "hitPoints" .classLevels
  let bonus ← here.sum "hitPointBonus" .all
  let scaled ←
    here.scaled (word (rolled + profile.level * scores.modifier .constitution + bonus))
      "healthMultiplier"
  let top := max scaled 0
  return {
    maximum := top
    current := clampBelow top (c.currentHealth.getD top)
    temporary := max c.temporaryHealth 0
    bonus
    condition := min c.condition 5 }

namespace Offense

/-- The attack bonuses of a character. -/
def inquire (c : Character) (profile : Profile) (condition : ConditionEffect) (scores : Scores)
    (vars : Variables) : Inquiry Offense := do
  let here : Standpoint := ⟨c.id, .offense, vars⟩
  let base ← here.sum "baseAttackBonus" .classLevels
  let shared := word (condition.penalty + profile.armorPenalty c)
  return {
    base
    melee := word (base + scores.modifier .strength + shared)
    ranged := word (base + scores.modifier .dexterity + shared)
    finesse := word (base + scores.modifier .dexterity + shared) }

/-- The roll variables with the attack bonuses published. -/
def publish (o : Offense) (vars : Variables) : Variables :=
  (((vars.publish "bab" o.base).publish "mab" o.melee).publish "rab" o.ranged).publish
    "fab" o.finesse

end Offense

end CharacterSheet
