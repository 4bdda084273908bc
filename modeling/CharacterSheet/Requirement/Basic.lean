import CharacterSheet.Character.Basic

/-!
# Requirements

What a prerequisite asks of a character. Requirements are checked against the stat block that the
character has, so a check never computes one.
-/

namespace CharacterSheet

/-- Something asked of a character. -/
inductive Requirement where
  /-- Left to the game master; always satisfied. -/
  | narrative (text : String)
  | anyOf (options : List Requirement)
  | allOf (parts : List Requirement)
  | trainedSkill (skill : String)
  | anyKnowledgeSkill
  /-- At least `count` appendages, or kinds of locomotion, whose names hold `kind`. -/
  | appendage (count : UInt32) (kind : Option String) (locomotion : Bool)
  | sizeOrLarger (size : Size)
  | abilityAtLeast (ability : Ability) (minimum : Int32)
  | baseAttackBonus (minimum : Int32)
  /-- At most this level. -/
  | characterLevel (limit : Int32)
  | proficient (category : String)
  | droid (expected : Bool)
  | possession (name : String)

namespace Requirement

/-- How many owned traits of a kind have a text in their lower-case name. -/
def countNamed (c : Character) (kind : TraitKind) (part : Option String) : Nat :=
  (c.ownedTraits.filter fun t => t.kind = kind &&
    part.all fun p => Text.containsChars p.toList (Text.lowerChars t.name.toList)).length

/-- Whether a category of weapons or armor is covered; for armor the word may stand behind it. -/
def isCovered (p : Proficiencies) (category : String) : Bool :=
  p.coversWeapon category || p.coversArmor category ||
    (Text.before? " armor" category).any p.coversArmor

mutual

/-- Whether a character meets a requirement. -/
def isMet (c : Character) : Requirement → Bool
  | narrative _ => true
  | anyOf options => anyMet c options
  | allOf parts => allMet c parts
  | trainedSkill skill => c.isTrained skill || c.stats.skills.isTrained skill
  | anyKnowledgeSkill => c.trainedSkills.toList.any (Text.startsWith "knowledge")
  | appendage count kind locomotion =>
    count.toNat ≤ countNamed c (if locomotion then .locomotion else .appendage) kind
  | sizeOrLarger size => size.step ≤ c.stats.profile.size.step
  | abilityAtLeast ability minimum =>
    minimum.toInt ≤ (c.stats.scores[ability]?.map (·.total)).getD
      ((c.baseAbility ability).toOption.getD 0)
  | baseAttackBonus minimum => minimum.toInt ≤ c.stats.offense.base
  | characterLevel limit => c.stats.profile.level ≤ limit.toInt
  | proficient category => isCovered c.stats.profile.proficiencies category
  | droid expected => c.stats.profile.isDroid = expected
  | possession name => c.possesses name

/-- Whether a character meets one of several requirements. -/
def anyMet (c : Character) : List Requirement → Bool
  | [] => false
  | r :: rest => isMet c r || anyMet c rest

/-- Whether a character meets all of several requirements. -/
def allMet (c : Character) : List Requirement → Bool
  | [] => true
  | r :: rest => isMet c r && allMet c rest

end

theorem anyMet_eq_any (c : Character) (rs : List Requirement) :
    anyMet c rs = rs.any (isMet c) := by
  induction rs with
  | nil => rfl
  | cons r rest ih => simp [anyMet, ih]

theorem allMet_eq_all (c : Character) (rs : List Requirement) :
    allMet c rs = rs.all (isMet c) := by
  induction rs with
  | nil => rfl
  | cons r rest ih => simp [allMet, ih]

end Requirement

end CharacterSheet
