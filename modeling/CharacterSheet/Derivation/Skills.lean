import CharacterSheet.Derivation.Scores

/-!
# Skills
-/

namespace CharacterSheet

/-- The suit of armor that is worn: that of the first active trait that has one. -/
def Character.wornArmor? (c : Character) : Option Armor := c.activeTraits.findSome? (·.armor)

/-- The penalty for wearing armor without proficiency. -/
def Profile.armorPenalty (p : Profile) (c : Character) : Int :=
  match c.wornArmor? with
  | some armor =>
    if p.proficiencies.coversArmor armor.category.name then 0 else armor.category.checkPenalty
  | none => 0

namespace SkillSheet

/-- The weight of the gear that a character owns, equipped or not. -/
def carriedWeight (c : Character) : Binary64 :=
  (c.ownedTraits.filter (·.kind.isGear)).foldl (fun sum t => sum.add t.weight) 0

/-- The penalty for a heavy load, where the house rules track weight. -/
def loadPenalty (rules : Rules) (c : Character) (scores : Scores) : Int :=
  let strength := scores.total c .strength
  let capacity := (Binary64.ofInt (word (strength * strength))).mul rules.encumbrance.capacityFactor
  if rules.house.encumbranceByWeight && capacity.lt (carriedWeight c) then
    rules.encumbrance.heavyLoadPenalty
  else 0

/-- What Skill Focus adds. -/
def focusBonus (rules : Rules) (profile : Profile) : Int :=
  match rules.house.skillFocus with
  | .flat => rules.skills.focusBonus
  | .halfLevelRoundedUp => word (profile.level + 1) / 2
  | .halfLevelRoundedDown => profile.level / 2

/-- What the skills of one sheet have in common. -/
structure Terms where
  halfLevel : Int
  scores : Scores
  conditionPenalty : Int
  /-- What contributions add to every skill. -/
  general : Int
  trainedBonus : Int
  focusBonus : Int
  /-- The penalty on physical skills. -/
  physicalPenalty : Int
  /-- The keys of focused skills. -/
  focused : List String

/-- One skill. -/
def entry (c : Character) (vars : Variables) (terms : Terms) (skill : Skill) :
    Inquiry SkillEntry := do
  let here : Standpoint := ⟨c.id, .skills, vars⟩
  let trained := c.isTrained skill.key
  let focus := terms.focused.contains skill.key
  let specific ← here.sum skill.bonusKey .all
  let tip ← here.summary skill.bonusKey .all
  return {
    label := skill.name, ability := skill.ability, trained, focus, tip
    value := word (terms.halfLevel + terms.scores.modifier skill.ability + specific +
      terms.general + terms.conditionPenalty + (if trained then terms.trainedBonus else 0) +
      (if focus then terms.focusBonus else 0) +
      (if skill.physical then terms.physicalPenalty else 0)) }

/-- The entries of a list of skills, added to those before. -/
def entriesFrom (c : Character) (vars : Variables) (terms : Terms)
    (entries : Std.ExtTreeMap String SkillEntry) :
    List Skill → Inquiry (Std.ExtTreeMap String SkillEntry)
  | [] => pure entries
  | skill :: rest => do
    let entry ← entry c vars terms skill
    entriesFrom c vars terms (entries.insert skill.key entry) rest

/-- The skills that the names of feats focus on. -/
def focusedByFeats (feats : Std.ExtTreeSet String) : List String :=
  feats.toList.filterMap (Profile.parenthesized? "skill focus")

/-- How many skills can be trained: what the classes say, or else the rules, with the Intelligence
modifier, at least one, and what contributions add. -/
def trainableCount (rules : Rules) (classBase intelligence extra : Int) : Int :=
  let base := if classBase = 0 then rules.skills.defaultTrained else classBase
  word (max (word (base + intelligence)) 1 + extra)

/-- The skills of a character. -/
def inquire (rules : Rules) (skills : List Skill) (c : Character) (profile : Profile)
    (condition : ConditionEffect) (scores : Scores) (vars : Variables) :
    Inquiry SkillSheet := do
  let here : Standpoint := ⟨c.id, .skills, vars⟩
  let general ← here.sum "skillBonus" .all
  let focused ← here.texts "skillFocus" .all
  let entries ← entriesFrom c vars {
      halfLevel := profile.halfLevel, scores, conditionPenalty := condition.penalty, general
      trainedBonus := rules.skills.trainedBonus
      focusBonus := focusBonus rules profile
      physicalPenalty := word (profile.armorPenalty c + loadPenalty rules c scores)
      focused := focused ++ focusedByFeats profile.feats } ∅ skills
  let classBase ← here.max "classTrainedSkills" .classLevels
  let extra ← here.sum "trainedSkills" .all
  let trainable := trainableCount rules classBase (scores.modifier .intelligence) extra
  return ⟨entries, trainable, .compare (word c.trainedSkills.size) trainable⟩

end SkillSheet

end CharacterSheet
