import CharacterSheet.Proofs.Derivation.Remembering

/-!
# The parts of a stat block

Each part of a stat block is what its stage finds, starting from the parts before it and from the
roll variables that these publish. Each stage that publishes roll variables does so under names of
its own, so none is published twice.
-/

namespace CharacterSheet

/-! ## Names -/

/-- The names of the roll variables that a stage publishes. -/
def Stage.published : Stage → List String
  | .traits => ["charLevel", "halfCharLevel", "heroicLevel"]
  | .abilities => Ability.all.map Ability.variableName
  | .defenses => ["fortDef", "refDef", "willDef", "flatFooted", "damageThreshold"]
  | .offense => ["bab", "mab", "rab", "fab"]
  | .skills | .shields | .health | .attacks => []

/-- No variable is published by two stages. -/
theorem Stage.not_mem_published {stage other : Stage} {name : String}
    (h : name ∈ stage.published) (hne : stage ≠ other) : name ∉ other.published := by
  have hall : ∀ stage : Stage, stage ∈ all := fun stage => by cases stage <;> decide
  have hdisjoint : ∀ stage ∈ all, ∀ other ∈ all, stage ≠ other →
      ∀ name ∈ stage.published, name ∉ other.published := by decide
  exact hdisjoint stage (hall _) other (hall _) hne name h

/-! ## Publishing -/

namespace Variables

/-- The value that was published under a name. -/
def published? (vars : Variables) (name : String) : Option Int := vars["@" ++ name]?

/-- Publishing one variable leaves the others. -/
theorem published?_publish_of_ne (vars : Variables) {name other : String} (h : name ≠ other)
    (value : Int) : (vars.publish other value).published? name = vars.published? name := by
  have hne : "@" ++ other ≠ "@" ++ name := by simpa using h.symm
  rw [published?, published?, publish, Std.ExtTreeMap.getElem?_insert]
  simp [hne]

end Variables

/-- The roll variables with the modifiers of abilities published. -/
def Scores.publish (scores : Scores) (abilities : List Ability) (vars : Variables) : Variables :=
  abilities.foldl (fun vars a => vars.publish a.variableName (scores.modifier a)) vars

/-- Publishing scores leaves the other variables. -/
theorem Scores.published?_publish (scores : Scores) (abilities : List Ability) (vars : Variables)
    {name : String} (h : name ∉ abilities.map Ability.variableName) :
    (scores.publish abilities vars).published? name = vars.published? name := by
  induction abilities generalizing vars with
  | nil => rfl
  | cons a rest ih =>
    rw [List.map_cons, List.mem_cons, not_or] at h
    exact (ih _ h.2).trans (Variables.published?_publish_of_ne _ h.1 _)

/-- Publishing defenses leaves the other variables. -/
theorem Defenses.published?_publish (d : Defenses) (vars : Variables) {name : String}
    (h : name ∉ Stage.defenses.published) :
    (d.publish vars).published? name = vars.published? name := by
  simp only [Stage.published, List.mem_cons, List.not_mem_nil, or_false, not_or] at h
  simp only [Defenses.publish, Variables.published?_publish_of_ne, ne_eq, h, not_false_eq_true]

/-- Publishing attack bonuses leaves the other variables. -/
theorem Offense.published?_publish (o : Offense) (vars : Variables) {name : String}
    (h : name ∉ Stage.offense.published) :
    (o.publish vars).published? name = vars.published? name := by
  simp only [Stage.published, List.mem_cons, List.not_mem_nil, or_false, not_or] at h
  simp only [Offense.publish, Variables.published?_publish_of_ne, ne_eq, h, not_false_eq_true]

/-! ## The variables of a block -/

namespace Scores

variable (answer : Question → Answer) (c : Character) (isDroid : Bool) (penalty : Int)

/-- The modifier that is published is the one that later stages read: that of a score which the
character does not have is zero. -/
theorem modifier_insert_score (scores : Scores) (vars : Variables) (a : Ability) :
    Scores.modifier (scores.insert a ((score c isDroid penalty vars a).result answer)) a =
      ((score c isDroid penalty vars a).result answer).modifier := by
  rw [modifier, Std.ExtTreeMap.getElem?_insert_self]
  dsimp only
  split
  case isFalse => rfl
  case isTrue hskip =>
    simp only [score, Inquiry.result_bind, Inquiry.result_pure] at hskip ⊢
    split at hskip
    case isTrue hdroid => rw [if_pos hdroid]; rfl
    case isFalse => cases hskip

/-- Asking for some scores leaves the others. -/
theorem getElem?_inquireFrom (scores : Scores) (vars : Variables) {abilities : List Ability}
    {b : Ability} (h : b ∉ abilities) :
    ((inquireFrom c isDroid penalty scores vars abilities).result answer).1[b]? = scores[b]? := by
  induction abilities generalizing scores vars with
  | nil => rfl
  | cons a rest ih =>
    rw [List.mem_cons, not_or] at h
    rw [inquireFrom, Inquiry.result_bind, ih _ _ h.2, Std.ExtTreeMap.getElem?_insert]
    simp [Ne.symm h.1]

/-- The modifiers are published as the scores are found, and no score is changed afterwards. -/
theorem snd_result_inquireFrom (scores : Scores) (vars : Variables) {abilities : List Ability}
    (hnodup : abilities.Nodup) :
    ((inquireFrom c isDroid penalty scores vars abilities).result answer).2 =
      ((inquireFrom c isDroid penalty scores vars abilities).result answer).1.publish abilities
        vars := by
  induction abilities generalizing scores vars with
  | nil => rfl
  | cons a rest ih =>
    obtain ⟨ha, hrest⟩ := List.nodup_cons.mp hnodup
    rw [inquireFrom, Inquiry.result_bind, ih _ _ hrest, publish, publish, List.foldl_cons]
    have hmodifier := modifier_insert_score answer c isDroid penalty scores vars a
    rw [modifier] at hmodifier
    rw [modifier, getElem?_inquireFrom answer c isDroid penalty _ _ ha, hmodifier]

/-- The variables behind the scores are those before, with the scores published. -/
theorem snd_result_inquire (profile : Profile) (condition : ConditionEffect) :
    ((inquire c profile condition).result answer).2 =
      ((inquire c profile condition).result answer).1.publish Ability.all profile.vars :=
  snd_result_inquireFrom answer c _ _ _ _ (by decide)

end Scores

namespace Stats

/-- The roll variables that are published when the skills are computed. -/
def scoreVars (s : Stats) : Variables := s.scores.publish Ability.all s.profile.vars

/-- The roll variables that the parts of a block publish. -/
def republished (s : Stats) : Variables := s.offense.publish (s.defenses.publish s.scoreVars)

/-- Each part of a block is what its stage finds, starting from the parts before it. -/
structure IsComposed (answer : Question → Answer) (rules : Rules) (skills : List Skill)
    (c : Character) (s : Stats) : Prop where
  profile : s.profile = (Profile.inquire rules c).result answer
  condition : s.condition = .of rules c
  scores : s.scores = ((Scores.inquire c s.profile s.condition).result answer).1
  skills : s.skills = (SkillSheet.inquire rules skills c s.profile s.condition s.scores
    s.scoreVars).result answer
  shields : s.shields = (Shields.inquire c s.scoreVars).result answer
  defenses : s.defenses =
    (Defenses.inquire c s.profile s.condition s.scores s.scoreVars).result answer
  health : s.health =
    (Health.inquire c s.profile s.scores (s.defenses.publish s.scoreVars)).result answer
  offense : s.offense = (Offense.inquire c s.profile s.condition s.scores
    (s.defenses.publish s.scoreVars)).result answer
  attacks : s.attacks = c.attacksWith s rules
  vars : s.vars = s.republished

/-- What a derivation comes to is composed of what its stages come to. -/
theorem isComposed_result_inquire (answer : Question → Answer) (rules : Rules)
    (skills : List Skill) (c : Character) :
    IsComposed answer rules skills c ((Stats.inquire rules skills c).result answer) := by
  simp only [Stats.inquire, Inquiry.result_bind, Inquiry.result_pure, Scores.snd_result_inquire]
  exact ⟨rfl, rfl, rfl, rfl, rfl, rfl, rfl, rfl, rfl, rfl⟩

/-- How a block is composed does not depend on its warnings. -/
theorem IsComposed.withWarnings {answer : Question → Answer} {rules : Rules} {skills : List Skill}
    {c : Character} {s : Stats} (h : s.IsComposed answer rules skills c) (warnings : List String) :
    { s with warnings }.IsComposed answer rules skills c :=
  ⟨h.profile, h.condition, h.scores, h.skills, h.shields, h.defenses, h.health, h.offense,
    h.attacks, h.vars⟩

end Stats

/-- The block of a character is what its derivation comes to, with the warnings. -/
theorem Character.stats_derive (rules : Rules) (skills : List Skill) (c : Character) :
    (c.derive rules skills).stats =
      { (Stats.inquire rules skills c).result (Question.answer c.activeTraits) with
        warnings := (Stats.inquire rules skills c).warnings (Question.answer c.activeTraits) } := by
  rw [derive, Derivation.of, Inquiry.answeredBy_eq]

/-- The block of a character is composed of the answers of its active traits. -/
theorem Character.isComposed_derive (rules : Rules) (skills : List Skill) (c : Character) :
    (c.derive rules skills).stats.IsComposed (Question.answer c.activeTraits) rules skills c := by
  rw [stats_derive]
  exact (Stats.isComposed_result_inquire _ rules skills c).withWarnings _

/-- So is the block that is derived at a desk. -/
theorem Desk.isComposed_derive {φ : Type} [DecidableEq φ] (desk : Desk φ) (c : Character) :
    (desk.derive c).1.stats.IsComposed (Question.answer c.activeTraits) desk.rules desk.skills
      c := by
  rw [derive_fst_eq_derive]
  exact c.isComposed_derive desk.rules desk.skills

end CharacterSheet
