import CharacterSheet.Proofs.Derivation.Forward

/-!
# Parts that nothing is built on

A stage that publishes no roll variables writes one part of the block, and no other part is computed
from it. So contributions that are read in such a stage alone, like those to shields and to hit
points, can be seen in its part and in the warnings and nowhere else.
-/

namespace CharacterSheet

/-- Questions about keys that other stages read are answered alike. -/
def Stage.AnsweredAlikeElsewhere (stage : Stage) (skills : List Skill)
    (answer answer' : Question → Answer) : Prop :=
  ∀ q reader, reader? skills q.key = some reader → reader ≠ stage → answer q = answer' q

/-- What only asks questions of another stage comes to the same. -/
theorem Stage.AnsweredAlikeElsewhere.result_eq {stage : Stage} {skills : List Skill}
    {answer answer' : Question → Answer} (h : stage.AnsweredAlikeElsewhere skills answer answer')
    {α : Type} {x : Inquiry α} {reader : Stage} (hne : reader ≠ stage)
    (hx : ∀ q ∈ x.questions answer, reader? skills q.key = some reader) :
    x.result answer = x.result answer' :=
  congrArg Prod.fst (x.answeredBy_congr fun q hq => h q reader (hx q hq) hne)

/-- Two blocks agree in all but the part that one stage writes, and the warnings. -/
structure Stats.AgreeElsewhere (stage : Stage) (s s' : Stats) : Prop where
  profile : s.profile = s'.profile
  condition : s.condition = s'.condition
  scores : s.scores = s'.scores
  skills : stage ≠ .skills → s.skills = s'.skills
  shields : stage ≠ .shields → s.shields = s'.shields
  defenses : s.defenses = s'.defenses
  health : stage ≠ .health → s.health = s'.health
  offense : s.offense = s'.offense
  attacks : s.attacks = s'.attacks
  vars : s.vars = s'.vars

/-- What is answered otherwise in a stage that publishes nothing changes nothing but its part. -/
theorem Stats.IsComposed.agreeElsewhere {rules : Rules} {skills : List Skill} {c : Character}
    {answer answer' : Question → Answer} {stage : Stage} {s s' : Stats}
    (hs : s.IsComposed answer rules skills c) (hs' : s'.IsComposed answer' rules skills c)
    (h : stage.AnsweredAlikeElsewhere skills answer answer') (hsilent : stage.published = []) :
    s.AgreeElsewhere stage s' := by
  -- a stage that publishes something is not the silent one
  have hne : ∀ {other : Stage}, other.published ≠ [] → other ≠ stage := fun hother heq =>
    hother (heq ▸ hsilent)
  have hprofile : s.profile = s'.profile := by
    rw [hs.profile, hs'.profile]
    exact h.result_eq (hne (by decide)) (Profile.reader?_of_mem_questions skills answer rules c)
  have hcondition : s.condition = s'.condition := hs.condition.trans hs'.condition.symm
  have hscores : s.scores = s'.scores := by
    rw [hs.scores, hs'.scores, ← hprofile, ← hcondition]
    exact congrArg Prod.fst (h.result_eq (hne (by decide))
      (Scores.reader?_of_mem_questions skills answer c _ _))
  have hscoreVars : s.scoreVars = s'.scoreVars := by rw [scoreVars, scoreVars, hscores, hprofile]
  have hdefenses : s.defenses = s'.defenses := by
    rw [hs.defenses, hs'.defenses, ← hprofile, ← hcondition, ← hscores, ← hscoreVars]
    exact h.result_eq (hne (by decide)) (Defenses.reader?_of_mem_questions skills answer c _ _ _ _)
  have hoffense : s.offense = s'.offense := by
    rw [hs.offense, hs'.offense, ← hprofile, ← hcondition, ← hscores, ← hscoreVars, ← hdefenses]
    exact h.result_eq (hne (by decide)) (Offense.reader?_of_mem_questions skills answer c _ _ _ _)
  have hwielder : s.wielder = s'.wielder := by rw [wielder, wielder, hprofile, hscores, hoffense]
  constructor
  case profile => exact hprofile
  case condition => exact hcondition
  case scores => exact hscores
  case skills =>
    intro hother
    rw [hs.skills, hs'.skills, ← hprofile, ← hcondition, ← hscores, ← hscoreVars]
    exact h.result_eq hother.symm
      (SkillSheet.reader?_of_mem_questions skills answer rules c _ _ _ _)
  case shields =>
    intro hother
    rw [hs.shields, hs'.shields, ← hscoreVars]
    exact h.result_eq hother.symm (Shields.reader?_of_mem_questions skills answer c _)
  case defenses => exact hdefenses
  case health =>
    intro hother
    rw [hs.health, hs'.health, ← hprofile, ← hscores, ← hscoreVars, ← hdefenses]
    exact h.result_eq hother.symm (Health.reader?_of_mem_questions skills answer c _ _ _)
  case offense => exact hoffense
  case attacks =>
    rw [hs.attacks, hs'.attacks, Character.attacksWith, Character.attacksWith, hwielder]
  case vars => rw [hs.vars, hs'.vars, republished, republished, hoffense, hdefenses, hscoreVars]

/-- Characters that contribute otherwise under keys which a single stage reads, and this stage
publishes nothing. -/
theorem Character.SameExcept.agreeElsewhere {c c' : Character} {keys : List String}
    (h : c.SameExcept (keys.contains ·) c') (rules : Rules) (skills : List Skill) {stage : Stage}
    (hkeys : ∀ key ∈ keys, Stage.reader? skills key = some stage)
    (hne : stage ≠ .traits) (hsilent : stage.published = []) :
    (c.derive rules skills).stats.AgreeElsewhere stage (c'.derive rules skills).stats := by
  -- a key that another stage reads is none of the changed ones
  have hout : ∀ {key reader}, Stage.reader? skills key = some reader → reader ≠ stage →
      keys.contains key = false := by
    intro key reader hreader hother
    rw [← Bool.not_eq_true, List.contains_iff_mem]
    intro hmem
    rw [hkeys key hmem] at hreader
    exact hother (Option.some.inj hreader).symm
  have hheroic := hout (Stage.reader?_isNonheroic skills) hne.symm
  have halike : stage.AnsweredAlikeElsewhere skills (Question.answer c.activeTraits)
      (Question.answer c'.activeTraits) := fun q reader hreader hother =>
    h.answer hheroic (hout hreader hother)
  rw [stats_derive, stats_derive, ← h.inquire hheroic]
  exact ((Stats.isComposed_result_inquire _ rules skills c).withWarnings _).agreeElsewhere
    ((Stats.isComposed_result_inquire _ rules skills c).withWarnings _) halike hsilent

/-- Blocks that agree elsewhere than in the skills differ in nothing but skills and warnings. -/
theorem Stats.AgreeElsewhere.eq_withSkills {s s' : Stats} (h : s.AgreeElsewhere .skills s') :
    s' = { s with skills := s'.skills, warnings := s'.warnings } := by
  rw [h.profile, h.condition, h.scores, h.shields nofun, h.defenses, h.health nofun, h.offense,
    h.attacks, h.vars]

/-- Blocks that agree elsewhere than in the shields differ in nothing but shields and warnings. -/
theorem Stats.AgreeElsewhere.eq_withShields {s s' : Stats} (h : s.AgreeElsewhere .shields s') :
    s' = { s with shields := s'.shields, warnings := s'.warnings } := by
  rw [h.profile, h.condition, h.scores, h.skills nofun, h.defenses, h.health nofun, h.offense,
    h.attacks, h.vars]

/-- Blocks that agree elsewhere than in health differ in nothing but health and warnings. -/
theorem Stats.AgreeElsewhere.eq_withHealth {s s' : Stats} (h : s.AgreeElsewhere .health s') :
    s' = { s with health := s'.health, warnings := s'.warnings } := by
  rw [h.profile, h.condition, h.scores, h.skills nofun, h.shields nofun, h.defenses, h.offense,
    h.attacks, h.vars]

/-! ## At a desk -/

namespace Desk

/-- A soldier with shields whose rating names a variable that is not published yet. -/
def shielded : Character :=
  soldier [⟨"shieldRating", .text "@refDef", none, false⟩,
    ⟨"shieldRatingBonus", .number (.ofInt 5), none, false⟩]

/-- A soldier whose hit points are scaled by what is no number. -/
def wounded : Character :=
  soldier [⟨"hitPoints", .number (.ofInt (-7)), none, false⟩,
    ⟨"healthMultiplier", .text "twice", none, false⟩]

end Desk

end CharacterSheet
