import CharacterSheet.Derivation.Basic
import CharacterSheet.Proofs.Inquiry.Run

/-!
# What a derivation reads of a character

A derivation reads the id, the entered scores, the training, the condition, what is left of health
and shields, and the traits that are owned. It reads neither the name, nor the traits that are not
owned, nor the stat block that the character already has.
-/

namespace CharacterSheet

/-- Two characters agree in all that a derivation reads. -/
structure Character.SameInputs (c c' : Character) : Prop where
  id : c.id = c'.id
  abilities : c.abilities = c'.abilities
  trainedSkills : c.trainedSkills = c'.trainedSkills
  condition : c.condition = c'.condition
  currentHealth : c.currentHealth = c'.currentHealth
  temporaryHealth : c.temporaryHealth = c'.temporaryHealth
  currentShields : c.currentShields = c'.currentShields
  shieldsActive : c.shieldsActive = c'.shieldsActive
  ownedTraits : c.ownedTraits = c'.ownedTraits

/-- Two characters agree in all that a derivation reads, apart from owned traits that do not
contribute. -/
structure Character.SameActive (c c' : Character) : Prop where
  id : c.id = c'.id
  abilities : c.abilities = c'.abilities
  trainedSkills : c.trainedSkills = c'.trainedSkills
  condition : c.condition = c'.condition
  currentHealth : c.currentHealth = c'.currentHealth
  temporaryHealth : c.temporaryHealth = c'.temporaryHealth
  currentShields : c.currentShields = c'.currentShields
  shieldsActive : c.shieldsActive = c'.shieldsActive
  activeTraits : c.activeTraits = c'.activeTraits

/-! ## One by one -/

/-- Scores are found one by one, so characters with the same single scores have the same ones
together. -/
theorem Scores.inquireFrom_of_score_eq {c c' : Character} (h : score c = score c') (isDroid : Bool)
    (penalty : Int) (scores : Scores) (vars : Variables) (abilities : List Ability) :
    inquireFrom c isDroid penalty scores vars abilities =
      inquireFrom c' isDroid penalty scores vars abilities := by
  induction abilities generalizing scores vars with
  | nil => rfl
  | cons a rest ih => simp only [inquireFrom, h, ih]

/-- So are the entries of the skills. -/
theorem SkillSheet.entriesFrom_of_entry_eq {c c' : Character} (h : entry c = entry c')
    (vars : Variables) (terms : Terms) (entries : Std.ExtTreeMap String SkillEntry)
    (skills : List Skill) :
    entriesFrom c vars terms entries skills = entriesFrom c' vars terms entries skills := by
  induction skills generalizing entries with
  | nil => rfl
  | cons skill rest ih => simp only [entriesFrom, h, ih]

namespace Character.SameActive

variable {c c' : Character} (h : c.SameActive c')

include h

/-! ## What stages read -/

/-- The base scores are the same. -/
theorem baseAbility (a : Ability) : c.baseAbility a = c'.baseAbility a := by
  rw [Character.baseAbility, Character.baseAbility, h.abilities]

/-- The trained skills are the same. -/
theorem isTrained (skill : String) : c.isTrained skill = c'.isTrained skill := by
  rw [Character.isTrained, Character.isTrained, h.trainedSkills]

/-- The same armor is worn. -/
theorem wornArmor? : c.wornArmor? = c'.wornArmor? := by
  rw [Character.wornArmor?, Character.wornArmor?, h.activeTraits]

/-- Armor without proficiency is as heavy a penalty. -/
theorem armorPenalty (p : Profile) : p.armorPenalty c = p.armorPenalty c' := by
  rw [Profile.armorPenalty, Profile.armorPenalty, h.wornArmor?]

/-- Gear that is not equipped is weighed only where the rules track weight. -/
theorem loadPenalty {rules : Rules} (hload : rules.house.encumbranceByWeight = true →
    SkillSheet.carriedWeight c = SkillSheet.carriedWeight c') (scores : Scores) :
    SkillSheet.loadPenalty rules c scores = SkillSheet.loadPenalty rules c' scores := by
  have htotal : scores.total c .strength = scores.total c' .strength := by
    rw [Scores.total, Scores.total, h.baseAbility]
  rw [SkillSheet.loadPenalty, SkillSheet.loadPenalty, htotal]
  cases hweight : rules.house.encumbranceByWeight with
  | false => rfl
  | true => rw [hload hweight]

/-! ## Stages -/

/-- The condition has the same effect. -/
theorem conditionEffect (rules : Rules) : ConditionEffect.of rules c = .of rules c' := by
  rw [ConditionEffect.of, ConditionEffect.of, h.condition]

/-- The scores are asked for in the same way. -/
theorem scores (profile : Profile) (condition : ConditionEffect) :
    Scores.inquire c profile condition = Scores.inquire c' profile condition := by
  have hscore : Scores.score c = Scores.score c' := by
    funext isDroid penalty vars a
    simp only [Scores.score, Scores.base, h.id, h.baseAbility]
  exact Scores.inquireFrom_of_score_eq hscore _ _ _ _ _

/-- The entries of skills are asked for in the same way. -/
theorem entriesFrom (vars : Variables) (terms : SkillSheet.Terms)
    (entries : Std.ExtTreeMap String SkillEntry) (skills : List Skill) :
    SkillSheet.entriesFrom c vars terms entries skills =
      SkillSheet.entriesFrom c' vars terms entries skills := by
  have hentry : SkillSheet.entry c = SkillSheet.entry c' := by
    funext vars terms skill
    simp only [SkillSheet.entry, h.id, h.isTrained]
  exact SkillSheet.entriesFrom_of_entry_eq hentry _ _ _ _

/-- The skills are asked for in the same way, if the load is the same or does not matter. -/
theorem skillSheet {rules : Rules} (hload : rules.house.encumbranceByWeight = true →
    SkillSheet.carriedWeight c = SkillSheet.carriedWeight c') (skills : List Skill)
    (profile : Profile) (condition : ConditionEffect) (scores : Scores) (vars : Variables) :
    SkillSheet.inquire rules skills c profile condition scores vars =
      SkillSheet.inquire rules skills c' profile condition scores vars := by
  simp only [SkillSheet.inquire, h.id, h.entriesFrom, h.armorPenalty, h.loadPenalty hload,
    h.trainedSkills]

/-- The shields are asked for in the same way. -/
theorem shields (vars : Variables) : Shields.inquire c vars = Shields.inquire c' vars := by
  simp only [Shields.inquire, h.id, h.currentShields, h.shieldsActive]

/-- The defenses are asked for in the same way. -/
theorem defenses (profile : Profile) (condition : ConditionEffect) (scores : Scores)
    (vars : Variables) :
    Defenses.inquire c profile condition scores vars =
      Defenses.inquire c' profile condition scores vars := by
  simp only [Defenses.inquire, h.id, h.wornArmor?]

/-- The hit points are asked for in the same way. -/
theorem health (profile : Profile) (scores : Scores) (vars : Variables) :
    Health.inquire c profile scores vars = Health.inquire c' profile scores vars := by
  simp only [Health.inquire, h.id, h.currentHealth, h.temporaryHealth, h.condition]

/-- The attack bonuses are asked for in the same way. -/
theorem offense (profile : Profile) (condition : ConditionEffect) (scores : Scores)
    (vars : Variables) :
    Offense.inquire c profile condition scores vars =
      Offense.inquire c' profile condition scores vars := by
  simp only [Offense.inquire, h.id, h.armorPenalty]

/-- The same block gives both the same attacks. -/
theorem attacksWith (stats : Stats) (rules : Rules) :
    c.attacksWith stats rules = c'.attacksWith stats rules := by
  rw [Character.attacksWith, Character.attacksWith, h.id, h.activeTraits]

/-- What has the same profile, and the same weight where it counts, has the same stat block. -/
theorem answeredBy_inquire {rules : Rules} (hload : rules.house.encumbranceByWeight = true →
    SkillSheet.carriedWeight c = SkillSheet.carriedWeight c') {answer : Question → Answer}
    (hprofile : (Profile.inquire rules c).answeredBy answer =
      (Profile.inquire rules c').answeredBy answer) (skills : List Skill) :
    (Stats.inquire rules skills c).answeredBy answer =
      (Stats.inquire rules skills c').answeredBy answer := by
  rw [Stats.inquire, Stats.inquire]
  refine Inquiry.answeredBy_bind_congr answer hprofile fun profile => ?_
  simp only [h.conditionEffect, h.scores, h.skillSheet hload, h.shields, h.defenses, h.health,
    h.offense, h.attacksWith]

end Character.SameActive

namespace Character.SameInputs

variable {c c' : Character} (h : c.SameInputs c')

include h

/-- Characters with the same inputs have the same active traits in particular. -/
theorem sameActive : c.SameActive c' :=
  ⟨h.id, h.abilities, h.trainedSkills, h.condition, h.currentHealth, h.temporaryHealth,
    h.currentShields, h.shieldsActive,
    by rw [Character.activeTraits, Character.activeTraits, h.ownedTraits]⟩

/-- The active traits are the same. -/
theorem activeTraits : c.activeTraits = c'.activeTraits := h.sameActive.activeTraits

/-- The whole derivation asks the same questions and makes the same of the answers. -/
theorem inquire (rules : Rules) (skills : List Skill) :
    Stats.inquire rules skills c = Stats.inquire rules skills c' := by
  have hactive := h.sameActive
  have hprofile : Profile.inquire rules c = Profile.inquire rules c' := by
    simp only [Profile.inquire, h.id, h.activeTraits, h.ownedTraits]
  have hload : SkillSheet.carriedWeight c = SkillSheet.carriedWeight c' := by
    rw [SkillSheet.carriedWeight, SkillSheet.carriedWeight, h.ownedTraits]
  simp only [Stats.inquire, hprofile, hactive.conditionEffect, hactive.scores,
    hactive.skillSheet fun _ => hload, hactive.shields, hactive.defenses, hactive.health,
    hactive.offense, hactive.attacksWith]

end Character.SameInputs

/-! ## At a desk -/

namespace Desk

variable {φ : Type} [DecidableEq φ] (desk : Desk φ) (c : Character)

/-- A derivation is made of an inquiry with an empty memo table. -/
theorem derive_fst : (desk.derive c).1 =
    .of c ((Stats.inquire desk.rules desk.skills c).remembering (Question.keyBy desk.fingerprint)
      (Question.answer c.activeTraits) Memo.empty).1 := rfl

/-- A derivation lists the orphans of the character. -/
theorem orphans_derive : (desk.derive c).1.orphans = c.orphanedTraits.map (·.id) := rfl

/-- A desk that has derived a block derives the same blocks as before. -/
theorem derive_fst_derive_snd (c' : Character) :
    ((desk.derive c).2.derive c').1 = (desk.derive c').1 := rfl

/-- Characters with the same inputs have the same block. -/
theorem derive_stats_congr {c c' : Character} (h : c.SameInputs c') :
    (desk.derive c).1.stats = (desk.derive c').1.stats := by
  rw [derive_fst, derive_fst, h.inquire, h.activeTraits]
  rfl

/-- A desk that keeps the roll variables themselves as their fingerprint. -/
def exact : Desk Variables where
  rules := {}
  skills := []
  fingerprint vars := vars

end Desk

end CharacterSheet
