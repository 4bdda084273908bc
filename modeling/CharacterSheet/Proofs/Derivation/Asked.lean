import CharacterSheet.Derivation.Basic
import CharacterSheet.Proofs.Inquiry.Standpoint
import Mathlib.Data.List.Basic

/-!
# The questions of a derivation

Which questions a derivation asks does not hang on the answers, only the roll variables of the
questions do. A key is read in one stage, in one mode and through one filter, so two questions for
numbers, values or texts under the same key are the same question.
-/

namespace CharacterSheet

/-- The questions that the derivation of a stat block asks, in order, when the active traits answer
each of them afresh. -/
def Character.asked (rules : Rules) (skills : List Skill) (c : Character) : List Question :=
  (Stats.inquire rules skills c).questions (Question.answer c.activeTraits)

/-! ## How keys are read -/

/-- How the contributions under a key are read. -/
structure Reading where
  stage : Stage
  mode : Mode
  filter : Filter
deriving DecidableEq

/-- How the contributions that a question asks for are read. -/
def Question.reading (q : Question) : Reading := ⟨q.stage, q.mode, q.filter⟩

namespace Reading

/-- Whether a key is written like the bonus key of a skill. -/
def isSkillKey (key : String) : Bool := "SkillBonus".toList.isSuffixOf key.toList

/-- The reading of each key of the rules; those of the skills come on top. -/
def table : List (String × Reading) :=
  [("isDroid", ⟨.traits, .or, .all⟩),
    ("size", ⟨.traits, .first, .all⟩),
    ("weaponProficiency", ⟨.traits, .lowerCaseValues, .all⟩),
    ("armorProficiency", ⟨.traits, .lowerCaseValues, .all⟩),
    ("weaponFocus", ⟨.traits, .lowerCaseValues, .all⟩),
    ("provides", ⟨.traits, .values, .all⟩),
    ("strengthBonus", ⟨.abilities, .sum, .plain⟩),
    ("dexterityBonus", ⟨.abilities, .sum, .plain⟩),
    ("constitutionBonus", ⟨.abilities, .sum, .plain⟩),
    ("intelligenceBonus", ⟨.abilities, .sum, .plain⟩),
    ("wisdomBonus", ⟨.abilities, .sum, .plain⟩),
    ("charismaBonus", ⟨.abilities, .sum, .plain⟩),
    ("skillBonus", ⟨.skills, .sum, .all⟩),
    ("skillFocus", ⟨.skills, .lowerCaseValues, .all⟩),
    ("classTrainedSkills", ⟨.skills, .max, .classLevels⟩),
    ("trainedSkills", ⟨.skills, .sum, .all⟩),
    ("shieldRating", ⟨.shields, .max, .all⟩),
    ("shieldRatingBonus", ⟨.shields, .sum, .all⟩),
    ("reflexDefenseClassBonus", ⟨.defenses, .max, .classLevels⟩),
    ("reflexDefenseBonus", ⟨.defenses, .sum, .plain⟩),
    ("fortitudeDefenseClassBonus", ⟨.defenses, .max, .classLevels⟩),
    ("fortitudeDefenseBonus", ⟨.defenses, .sum, .plain⟩),
    ("willDefenseClassBonus", ⟨.defenses, .max, .classLevels⟩),
    ("willDefenseBonus", ⟨.defenses, .sum, .plain⟩),
    ("damageThresholdBonus", ⟨.defenses, .sum, .all⟩),
    ("damageThresholdHardenedMultiplier", ⟨.defenses, .values, .all⟩),
    ("hitPoints", ⟨.health, .sum, .classLevels⟩),
    ("hitPointBonus", ⟨.health, .sum, .all⟩),
    ("healthMultiplier", ⟨.health, .values, .all⟩),
    ("baseAttackBonus", ⟨.offense, .sum, .classLevels⟩)]

/-- The reading of a key, if the derivation reads it other than for a summary. -/
def of? (key : String) : Option Reading :=
  if isSkillKey key then some ⟨.skills, .sum, .all⟩ else table.lookup key

end Reading

/-- The bonus key of a skill looks like one. -/
theorem Skill.isSkillKey_bonusKey (s : Skill) : Reading.isSkillKey s.bonusKey = true := by
  simp only [Reading.isSkillKey, Skill.bonusKey, String.toList_append, List.isSuffixOf_iff_suffix]
  exact List.suffix_append _ _

/-- The bonus key of a skill is read in the stage of skills. -/
theorem Reading.of?_bonusKey_skill (s : Skill) :
    Reading.of? s.bonusKey = some ⟨.skills, .sum, .all⟩ := by
  rw [of?, if_pos s.isSkillKey_bonusKey]

/-- The bonus key of an ability is read in the stage of abilities. -/
theorem Reading.of?_bonusKey_ability (a : Ability) :
    Reading.of? a.bonusKey = some ⟨.abilities, .sum, .plain⟩ := by
  cases a <;> decide

/-! ## Questions of one reading -/

/-- The question is for a summary, or it reads its key as the table says, about the given character
and with the roll variables given for its stage and key. -/
def Question.Posed (id : String) (vars : Stage → String → Variables) (q : Question) : Prop :=
  q.mode ≠ .summary →
    Reading.of? q.key = some q.reading ∧ q.character = id ∧ q.vars = vars q.stage q.key

/-- Two questions that are posed under one key are the same, unless one of them asks for a summary.
-/
theorem Question.Posed.eq {id : String} {vars : Stage → String → Variables} {q q' : Question}
    (h : q.Posed id vars) (h' : q'.Posed id vars) (hkey : q.key = q'.key) (hq : q.mode ≠ .summary)
    (hq' : q'.mode ≠ .summary) : q = q' := by
  obtain ⟨hreading, hid, hvars⟩ := h hq
  obtain ⟨hreading', hid', hvars'⟩ := h' hq'
  have hsame : q.reading = q'.reading := by
    rw [hkey, hreading'] at hreading
    exact (Option.some.inj hreading).symm
  cases q
  cases q'
  simp_all [reading]

/-- A question is posed if its key is read as it says. -/
theorem Question.posed {id : String} {stage : Stage} {v : Variables} {mode : Mode} {key : String}
    {filter : Filter} {vars : Stage → String → Variables} (hvars : v = vars stage key)
    (hkey : Reading.of? key = some ⟨stage, mode, filter⟩) :
    (Question.mk stage key mode filter id v).Posed id vars :=
  fun _ => ⟨hkey, rfl, hvars⟩

/-- Questions for summaries may be posed by any stage. -/
theorem Question.posed_summary {id : String} {vars : Stage → String → Variables} {q : Question}
    (h : q.mode = .summary) : q.Posed id vars :=
  fun hmode => absurd h hmode

section Stages

variable (answer : Question → Answer) (rules : Rules) (c : Character) (profile : Profile)
  (condition : ConditionEffect) (scores : Scores) {vars : Stage → String → Variables}

/-- Nothing is asked for while slots are provided. -/
theorem Profile.questions_addProvisions (slots : Std.ExtTreeMap String Int) (values : List Value) :
    (Profile.addProvisions slots values).questions answer = [] := by
  induction values generalizing slots with
  | nil => rfl
  | cons value rest ih =>
    rw [Profile.addProvisions]
    split
    · exact ih slots
    · split
      · exact ih _
      · simp [ih]

/-- What is asked for the profile, in order. -/
theorem Profile.questions_inquire :
    (Profile.inquire rules c).questions answer =
      [⟨.traits, "isDroid", .or, .all, c.id, ∅⟩, ⟨.traits, "size", .first, .all, c.id, ∅⟩,
        ⟨.traits, "weaponProficiency", .lowerCaseValues, .all, c.id, ∅⟩,
        ⟨.traits, "armorProficiency", .lowerCaseValues, .all, c.id, ∅⟩,
        ⟨.traits, "weaponFocus", .lowerCaseValues, .all, c.id, ∅⟩,
        ⟨.traits, "provides", .values, .all, c.id, ∅⟩] := by
  simp only [Profile.inquire, Inquiry.questions_bind, Standpoint.questions_any,
    Standpoint.questions_firstText, Standpoint.questions_texts, Standpoint.questions_values,
    Profile.questions_addProvisions, Inquiry.questions_pure]
  rfl

/-- Nothing is asked for the base of a score. -/
theorem Scores.questions_base (a : Ability) : (Scores.base c a).questions answer = [] := by
  rw [Scores.base]
  split <;> rfl

/-- Two questions are asked for a score. -/
theorem Scores.questions_score (isDroid : Bool) (penalty : Int) (start : Variables) (a : Ability) :
    (Scores.score c isDroid penalty start a).questions answer =
      [⟨.abilities, a.bonusKey, .sum, .plain, c.id, start⟩,
        ⟨.abilities, a.bonusKey, .summary, .plain, c.id, start⟩] := by
  simp only [Scores.score, Inquiry.questions_bind, Scores.questions_base,
    Standpoint.questions_sum, Standpoint.questions_summary, Inquiry.questions_pure]
  rfl

/-- Two questions are asked for each skill. -/
theorem SkillSheet.questions_entriesFrom (start : Variables) (terms : SkillSheet.Terms)
    (entries : Std.ExtTreeMap String SkillEntry) (skills : List Skill) :
    (SkillSheet.entriesFrom c start terms entries skills).questions answer =
      skills.flatMap fun skill =>
        [⟨.skills, skill.bonusKey, .sum, .all, c.id, start⟩,
          ⟨.skills, skill.bonusKey, .summary, .all, c.id, start⟩] := by
  induction skills generalizing entries with
  | nil => rfl
  | cons skill rest ih =>
    simp only [SkillSheet.entriesFrom, SkillSheet.entry, Inquiry.questions_bind,
      Standpoint.questions_sum, Standpoint.questions_summary, Inquiry.questions_pure, ih,
      List.flatMap_cons]
    rfl

/-- What is asked for the skills, in order. -/
theorem SkillSheet.questions_inquire (skills : List Skill) (start : Variables) :
    (SkillSheet.inquire rules skills c profile condition scores start).questions answer =
      [⟨.skills, "skillBonus", .sum, .all, c.id, start⟩,
        ⟨.skills, "skillFocus", .lowerCaseValues, .all, c.id, start⟩] ++
      (skills.flatMap fun skill =>
        [⟨.skills, skill.bonusKey, .sum, .all, c.id, start⟩,
          ⟨.skills, skill.bonusKey, .summary, .all, c.id, start⟩]) ++
      [⟨.skills, "classTrainedSkills", .max, .classLevels, c.id, start⟩,
        ⟨.skills, "trainedSkills", .sum, .all, c.id, start⟩] := by
  simp only [SkillSheet.inquire, Inquiry.questions_bind, Standpoint.questions_sum,
    Standpoint.questions_max, Standpoint.questions_texts, SkillSheet.questions_entriesFrom,
    Inquiry.questions_pure, List.append_assoc]
  rfl

/-- What is asked for the shields, in order. -/
theorem Shields.questions_inquire (start : Variables) :
    (Shields.inquire c start).questions answer =
      [⟨.shields, "shieldRating", .max, .all, c.id, start⟩,
        ⟨.shields, "shieldRatingBonus", .sum, .all, c.id, start⟩] := by
  simp only [Shields.inquire, Inquiry.questions_bind, Standpoint.questions_sum,
    Standpoint.questions_max, Inquiry.questions_pure]
  rfl

/-- What is asked for the defenses, in order. -/
theorem Defenses.questions_inquire (start : Variables) :
    (Defenses.inquire c profile condition scores start).questions answer =
      [⟨.defenses, "reflexDefenseClassBonus", .max, .classLevels, c.id, start⟩,
        ⟨.defenses, "reflexDefenseBonus", .sum, .plain, c.id, start⟩,
        ⟨.defenses, "reflexDefenseBonus", .summary, .all, c.id, start⟩,
        ⟨.defenses, "fortitudeDefenseClassBonus", .max, .classLevels, c.id, start⟩,
        ⟨.defenses, "fortitudeDefenseBonus", .sum, .plain, c.id, start⟩,
        ⟨.defenses, "fortitudeDefenseBonus", .summary, .all, c.id, start⟩,
        ⟨.defenses, "willDefenseClassBonus", .max, .classLevels, c.id, start⟩,
        ⟨.defenses, "willDefenseBonus", .sum, .plain, c.id, start⟩,
        ⟨.defenses, "willDefenseBonus", .summary, .all, c.id, start⟩,
        ⟨.defenses, "damageThresholdBonus", .sum, .all, c.id, start⟩,
        ⟨.defenses, "damageThresholdHardenedMultiplier", .values, .all, c.id, start⟩] := by
  simp only [Defenses.inquire, Defense.common, Inquiry.questions_bind, Standpoint.questions_sum,
    Standpoint.questions_max, Standpoint.questions_summary, Standpoint.questions_scaled,
    Inquiry.questions_pure]
  rfl

/-- What is asked for the hit points, in order. -/
theorem Health.questions_inquire (start : Variables) :
    (Health.inquire c profile scores start).questions answer =
      [⟨.health, "hitPoints", .sum, .classLevels, c.id, start⟩,
        ⟨.health, "hitPointBonus", .sum, .all, c.id, start⟩,
        ⟨.health, "healthMultiplier", .values, .all, c.id, start⟩] := by
  simp only [Health.inquire, Inquiry.questions_bind, Standpoint.questions_sum,
    Standpoint.questions_scaled, Inquiry.questions_pure]
  rfl

/-- One question is asked for the attack bonuses. -/
theorem Offense.questions_inquire (start : Variables) :
    (Offense.inquire c profile condition scores start).questions answer =
      [⟨.offense, "baseAttackBonus", .sum, .classLevels, c.id, start⟩] := by
  simp only [Offense.inquire, Inquiry.questions_bind, Standpoint.questions_sum,
    Inquiry.questions_pure]
  rfl

/-! ## How each stage poses its questions -/

/-- The questions for the profile are posed as their keys are read. -/
theorem Profile.posed (hvars : ∀ key, ∅ = vars .traits key) :
    ∀ q ∈ (Profile.inquire rules c).questions answer, q.Posed c.id vars := by
  rw [Profile.questions_inquire]
  simp only [List.forall_mem_cons, List.not_mem_nil, false_implies, implies_true, and_true]
  refine ⟨?_, ?_, ?_, ?_, ?_, ?_⟩ <;> exact Question.posed (hvars _) (by decide)

/-- No two abilities have the same bonus key. -/
theorem Ability.bonusKey_injective {a b : Ability} (h : a.bonusKey = b.bonusKey) : a = b := by
  revert h
  cases a <;> cases b <;> decide

/-- The bonus of each ability is asked for once, so the key alone tells with which roll variables,
although each score publishes one more. -/
theorem Scores.posed_inquireFrom (isDroid : Bool) (penalty : Int) (start : Variables)
    (abilities : List Ability) (hnodup : abilities.Nodup) :
    ∃ varsFor : String → Variables, ∀ vars : Stage → String → Variables,
      (∀ a ∈ abilities, varsFor a.bonusKey = vars .abilities a.bonusKey) →
        ∀ q ∈ (Scores.inquireFrom c isDroid penalty scores start abilities).questions answer,
          q.Posed c.id vars := by
  induction abilities generalizing scores start with
  | nil => exact ⟨fun _ => ∅, fun _ _ q hq => absurd hq List.not_mem_nil⟩
  | cons a rest ih =>
    obtain ⟨ha, hrest⟩ := List.nodup_cons.mp hnodup
    simp only [Scores.inquireFrom, Inquiry.questions_bind]
    -- the other scores are computed with one more variable, and none of them asks for this bonus
    obtain ⟨varsFor, hvarsFor⟩ := ih
      (scores.insert a ((Scores.score c isDroid penalty start a).result answer))
      (start.publish a.variableName
        ((Scores.score c isDroid penalty start a).result answer).modifier)
      hrest
    refine ⟨fun key => if key = a.bonusKey then start else varsFor key, fun vars hvars q hq => ?_⟩
    rcases List.mem_append.mp hq with hq | hq
    · have hstart : start = vars .abilities a.bonusKey := by simpa using hvars a (by simp)
      rw [Scores.questions_score, List.mem_pair] at hq
      rcases hq with rfl | rfl
      · exact Question.posed hstart (Reading.of?_bonusKey_ability a)
      · exact Question.posed_summary rfl
    · apply hvarsFor vars ?_ q hq
      intro b hb
      have hne : b.bonusKey ≠ a.bonusKey := fun h => ha (Ability.bonusKey_injective h ▸ hb)
      simpa [hne] using hvars b (by simp [hb])

/-- The questions for the skills are posed as their keys are read. -/
theorem SkillSheet.posed (skills : List Skill) (start : Variables)
    (hvars : ∀ key, start = vars .skills key) :
    ∀ q ∈ (SkillSheet.inquire rules skills c profile condition scores start).questions answer,
      q.Posed c.id vars := by
  intro q hq
  simp only [SkillSheet.questions_inquire, List.mem_append, List.mem_pair, List.mem_flatMap] at hq
  rcases hq with ((rfl | rfl) | ⟨skill, -, rfl | rfl⟩) | rfl | rfl
  · exact Question.posed (hvars _) (by decide)
  · exact Question.posed (hvars _) (by decide)
  · exact Question.posed (hvars _) (Reading.of?_bonusKey_skill skill)
  · exact Question.posed_summary rfl
  · exact Question.posed (hvars _) (by decide)
  · exact Question.posed (hvars _) (by decide)

/-- The questions for the shields are posed as their keys are read. -/
theorem Shields.posed (start : Variables) (hvars : ∀ key, start = vars .shields key) :
    ∀ q ∈ (Shields.inquire c start).questions answer, q.Posed c.id vars := by
  rw [Shields.questions_inquire]
  simp only [List.forall_mem_cons, List.not_mem_nil, false_implies, implies_true, and_true]
  refine ⟨?_, ?_⟩ <;> exact Question.posed (hvars _) (by decide)

/-- The questions for the defenses are posed as their keys are read. -/
theorem Defenses.posed (start : Variables) (hvars : ∀ key, start = vars .defenses key) :
    ∀ q ∈ (Defenses.inquire c profile condition scores start).questions answer,
      q.Posed c.id vars := by
  rw [Defenses.questions_inquire]
  simp only [List.forall_mem_cons, List.not_mem_nil, false_implies, implies_true, and_true]
  refine ⟨?_, ?_, ?_, ?_, ?_, ?_, ?_, ?_, ?_, ?_, ?_⟩ <;>
    first
    | exact Question.posed_summary rfl
    | exact Question.posed (hvars _) (by decide)

/-- The questions for the hit points are posed as their keys are read. -/
theorem Health.posed (start : Variables) (hvars : ∀ key, start = vars .health key) :
    ∀ q ∈ (Health.inquire c profile scores start).questions answer, q.Posed c.id vars := by
  rw [Health.questions_inquire]
  simp only [List.forall_mem_cons, List.not_mem_nil, false_implies, implies_true, and_true]
  refine ⟨?_, ?_, ?_⟩ <;> exact Question.posed (hvars _) (by decide)

/-- The question for the attack bonuses is posed as its key is read. -/
theorem Offense.posed (start : Variables) (hvars : ∀ key, start = vars .offense key) :
    ∀ q ∈ (Offense.inquire c profile condition scores start).questions answer,
      q.Posed c.id vars := by
  rw [Offense.questions_inquire, List.forall_mem_singleton]
  exact Question.posed (hvars _) (by decide)

end Stages

/-! ## The whole derivation -/

/-- All questions of a derivation are posed as their keys are read, from variables that the stage
and the key tell. -/
theorem Character.posed_of_mem_asked (rules : Rules) (skills : List Skill) (c : Character) :
    ∃ vars : Stage → String → Variables, ∀ q ∈ c.asked rules skills, q.Posed c.id vars := by
  let answer := Question.answer c.activeTraits
  let condition := ConditionEffect.of rules c
  let profile := (Profile.inquire rules c).result answer
  let scored := (Scores.inquire c profile condition).result answer
  let defenses := (Defenses.inquire c profile condition scored.1 scored.2).result answer
  -- the abilities are read one after another, each before the variables of those already read
  obtain ⟨varsFor, hscores⟩ := Scores.posed_inquireFrom answer c ∅ profile.isDroid
    condition.penalty profile.vars Ability.all (by decide)
  refine ⟨fun
    | .traits, _ => ∅
    | .abilities, key => varsFor key
    | .skills, _ | .shields, _ | .defenses, _ => scored.2
    | .health, _ | .offense, _ | .attacks, _ => defenses.publish scored.2, fun q hq => ?_⟩
  simp only [asked, Stats.inquire, Inquiry.questions_bind, Inquiry.questions_pure, List.append_nil,
    List.mem_append] at hq
  rcases hq with hq | hq | hq | hq | hq | hq | hq
  · exact Profile.posed answer rules c (fun _ => rfl) q hq
  · exact hscores _ (fun _ _ => rfl) q hq
  · exact SkillSheet.posed answer rules c profile condition _ skills _ (fun _ => rfl) q hq
  · exact Shields.posed answer c _ (fun _ => rfl) q hq
  · exact Defenses.posed answer c profile condition _ _ (fun _ => rfl) q hq
  · exact Health.posed answer c profile _ _ (fun _ => rfl) q hq
  · exact Offense.posed answer c profile condition _ _ (fun _ => rfl) q hq

/-- A derivation never asks two different questions under one key, apart from summaries. -/
theorem Character.eq_of_mem_asked (rules : Rules) (skills : List Skill) (c : Character)
    {q q' : Question} (hq : q ∈ c.asked rules skills) (hq' : q' ∈ c.asked rules skills)
    (hkey : q.key = q'.key) (hmode : q.mode ≠ .summary) (hmode' : q'.mode ≠ .summary) :
    q = q' := by
  obtain ⟨vars, hposed⟩ := c.posed_of_mem_asked rules skills
  exact (hposed q hq).eq (hposed q' hq') hkey hmode hmode'

end CharacterSheet
