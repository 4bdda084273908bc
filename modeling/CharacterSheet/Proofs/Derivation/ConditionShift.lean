import CharacterSheet.Proofs.Attack.Shifted
import CharacterSheet.Proofs.Derivation.Forward
import CharacterSheet.Proofs.Derivation.Published
import CharacterSheet.Proofs.Derivation.SkillEntries
import CharacterSheet.Proofs.Value.Literal

/-!
# The condition track as one flat penalty

A step on the condition track changes rolls, skills, defenses and attack bonuses by the penalty of
the step, each of them once and up to wrapping around in 32 bits, and nothing else of these. The
defenses and the attack bonuses are published with the penalty in them; where no contribution names
a roll variable, nothing computed from a contribution takes the penalty in a second time.
-/

namespace CharacterSheet

variable (d : Int)

/-! ## Parts with another penalty -/

/-- The score with a number added to its roll, unless the character has no such score. -/
def AbilityScore.shifted (score : AbilityScore) : AbilityScore :=
  if score.skip then score else { score with roll := word (score.roll + d) }

/-- The scores with a number added to their rolls. -/
def Scores.shifted (scores : Scores) : Scores := scores.map fun _ score => score.shifted d

/-- The skill with a number added. -/
def SkillEntry.shifted (e : SkillEntry) : SkillEntry := { e with value := word (e.value + d) }

/-- The entries with a number added to each skill. -/
def SkillSheet.shiftedEntries (entries : Std.ExtTreeMap String SkillEntry) :
    Std.ExtTreeMap String SkillEntry :=
  entries.map fun _ e => e.shifted d

/-- The skills with a number added to each. -/
def SkillSheet.shifted (s : SkillSheet) : SkillSheet :=
  { s with entries := shiftedEntries d s.entries }

/-- The defense with a number added to its condition component, without the total. -/
def Defense.penalized (x : Defense) : Defense := { x with condition := x.condition + d }

/-- The defense with a number added to its condition component and so to its total. -/
def Defense.shifted (x : Defense) : Defense := { x.penalized d with total := word (x.total + d) }

/-! ## Scores -/

namespace AbilityScore

variable (score : AbilityScore)

/-- Whether a roll is skipped does not depend on the number. -/
@[simp] theorem skip_shifted : (score.shifted d).skip = score.skip := by
  rw [shifted]
  split <;> rfl

/-- The modifier does not depend on the number. -/
@[simp] theorem modifier_shifted : (score.shifted d).modifier = score.modifier := by
  rw [shifted]
  split <;> rfl

/-- The total does not depend on the number. -/
@[simp] theorem total_shifted : (score.shifted d).total = score.total := by
  rw [shifted]
  split <;> rfl

end AbilityScore

namespace Scores

/-- The score of an ability is shifted. -/
theorem getElem?_shifted (scores : Scores) (a : Ability) :
    (scores.shifted d)[a]? = scores[a]?.map (·.shifted d) :=
  Std.ExtTreeMap.getElem?_map

/-- Without scores there is nothing to shift. -/
theorem shifted_empty : Scores.shifted d ∅ = ∅ := by
  ext1 a
  simp [getElem?_shifted]

/-- Of scores with one more each is shifted. -/
theorem shifted_insert (scores : Scores) (a : Ability) (score : AbilityScore) :
    Scores.shifted d (scores.insert a score) = (scores.shifted d).insert a (score.shifted d) := by
  ext1 b
  rw [getElem?_shifted, Std.ExtTreeMap.getElem?_insert, Std.ExtTreeMap.getElem?_insert,
    getElem?_shifted]
  split <;> rfl

/-- The modifiers do not depend on the number. -/
@[simp] theorem modifier_shifted (scores : Scores) :
    (scores.shifted d).modifier = scores.modifier := by
  funext a
  rw [modifier, modifier, getElem?_shifted]
  cases scores[a]? with
  | none => rfl
  | some score => simp

/-- The totals do not depend on the number. -/
@[simp] theorem total_shifted (scores : Scores) (c : Character) (a : Ability) :
    (scores.shifted d).total c a = scores.total c a := by
  rw [total, total, getElem?_shifted]
  cases scores[a]? with
  | none => rfl
  | some score => simp

variable (answer : Question → Answer) (c : Character) (isDroid : Bool) (penalty : Int)

/-- Only the Constitution of a droid is not rolled. -/
theorem skip_result_score_iff (vars : Variables) (a : Ability) :
    ((score c isDroid penalty vars a).result answer).skip = true ↔
      a = .constitution ∧ isDroid = true := by
  rw [← decide_eq_true_iff (p := a = .constitution), ← Bool.and_eq_true]
  simp only [score, Inquiry.result_bind, Inquiry.result_pure]
  split
  · next h => exact ⟨fun _ => h, fun _ => rfl⟩
  · next h => simpa [AbilityScore.ofParts] using h

/-- A different penalty is added to the roll of a score. -/
theorem result_score_add (vars : Variables) (a : Ability) :
    (score c isDroid (penalty + d) vars a).result answer =
      ((score c isDroid penalty vars a).result answer).shifted d := by
  simp only [score, Inquiry.result_bind, Inquiry.result_pure]
  split
  · rfl
  · simp [AbilityScore.shifted, AbilityScore.ofParts, Int.add_assoc]

/-- The modifiers that are published while the scores are found have no penalty in them. -/
theorem result_inquireFrom_add (step : Nat) (scores : Scores) (vars : Variables)
    (abilities : List Ability) :
    (inquireFrom { c with condition := step } isDroid (penalty + d) (scores.shifted d) vars
        abilities).result answer =
      (((inquireFrom c isDroid penalty scores vars abilities).result answer).1.shifted d,
        ((inquireFrom c isDroid penalty scores vars abilities).result answer).2) := by
  induction abilities generalizing scores vars with
  | nil => rfl
  | cons a rest ih =>
    have hscore : score { c with condition := step } = score c := rfl
    simp only [inquireFrom, hscore, Inquiry.result_bind, result_score_add,
      AbilityScore.modifier_shifted, ← shifted_insert, ih]

end Scores

/-! ## Skills -/

namespace SkillSheet

variable (answer : Question → Answer) (c : Character) (vars : Variables)

/-- A different penalty is added to each entry. -/
theorem result_entriesFrom_add (step : Nat) (terms : Terms) (skills : List Skill) :
    (entriesFrom { c with condition := step } vars { terms with
        scores := terms.scores.shifted d
        conditionPenalty := terms.conditionPenalty + d } ∅ skills).result answer =
      shiftedEntries d ((entriesFrom c vars terms ∅ skills).result answer) := by
  refine result_entriesFrom_map answer c vars terms (fun _ e => e.shifted d)
    (fun skill => ?_) skills
  have htrained : Character.isTrained { c with condition := step } = c.isTrained := rfl
  simp only [entry, htrained, Inquiry.result_bind, Inquiry.result_pure, SkillEntry.shifted,
    Scores.modifier_shifted, SkillEntry.mk.injEq, true_and, and_true, word_word_add]
  exact congrArg word (by omega)

end SkillSheet

/-! ## Defenses -/

namespace Defense

variable (profile : Profile) (scores : Scores) (armor : Option Armor) (x : Defense)

variable {d} in
/-- A penalty in the condition component reaches the total once. -/
theorem summed_of_eq_penalized {x y : Defense} (h : y = x.penalized d) :
    y.summed = x.summed.shifted d := by
  rw [h]
  simp only [summed, penalized, shifted, Defense.mk.injEq, and_true, word_word_add]
  exact congrArg word (by omega)

/-- A penalty is added to the reflex defense once. -/
theorem reflex_penalized :
    reflex profile (scores.shifted d) armor (x.penalized d) =
      (reflex profile scores armor x).shifted d := by
  rw [reflex, reflex, Scores.modifier_shifted]
  exact summed_of_eq_penalized rfl

/-- A penalty is added to the fortitude defense once. -/
theorem fortitude_penalized :
    fortitude profile (scores.shifted d) armor (x.penalized d) =
      (fortitude profile scores armor x).shifted d := by
  rw [fortitude, fortitude, Scores.modifier_shifted]
  exact summed_of_eq_penalized rfl

/-- A penalty is added to the will defense once. -/
theorem will_penalized :
    will profile (scores.shifted d) (x.penalized d) = (will profile scores x).shifted d := by
  rw [will, will, Scores.modifier_shifted]
  exact summed_of_eq_penalized rfl

/-- A penalty in the reflex defense is in the one off one's guard as well. -/
theorem flatFooted_shifted : flatFooted (x.shifted d) = (flatFooted x).shifted d := by
  -- the total is added up anew
  have htotal : flatFooted (x.shifted d) = flatFooted (x.penalized d) := rfl
  rw [htotal]
  exact summed_of_eq_penalized rfl

/-- A different penalty is the condition component of what all defenses have in common. -/
theorem result_common_add (here : Standpoint) (penalty : Int) (name : String)
    (answer : Question → Answer) :
    (common here (penalty + d) name).result answer =
      ((common here penalty name).result answer).penalized d := by
  simp only [common, Inquiry.result_bind, Inquiry.result_pure, penalized]

end Defense

/-! ## Without roll variables -/

section Literal

variable {traits : List Trait} (h : ∀ t ∈ traits, t.IsLiteral) (c : Character) (profile : Profile)
  (scores : Scores) (vars vars' : Variables)

include h

/-- Literal contributions to the hit points do not depend on the variables. -/
theorem Health.result_inquire_withVars :
    (Health.inquire c profile scores vars').result (Question.answer traits) =
      (Health.inquire c profile scores vars).result (Question.answer traits) := by
  have hsum := Standpoint.result_number_withVars ⟨c.id, .health, vars⟩ vars' h .sum
  have hscaled := Standpoint.result_scaled_withVars ⟨c.id, .health, vars⟩ vars' h
  simp only [Health.inquire, Inquiry.result_bind, Inquiry.result_pure, Standpoint.sum, hsum,
    hscaled]

/-- A different penalty is added to each attack bonus. -/
theorem Offense.result_inquire_add (condition condition' : ConditionEffect)
    (hd : condition'.penalty = condition.penalty + d) :
    (Offense.inquire c profile condition' scores vars').result (Question.answer traits) =
      ((Offense.inquire c profile condition scores vars).result
        (Question.answer traits)).shifted d := by
  have hsum := Standpoint.result_number_withVars ⟨c.id, .offense, vars⟩ vars' h .sum
  simp only [Offense.inquire, Inquiry.result_bind, Inquiry.result_pure, Standpoint.sum, hsum, hd,
    shifted, Offense.mk.injEq, true_and, word_word_add, word_add_word]
  exact ⟨congrArg word (by omega), congrArg word (by omega), congrArg word (by omega)⟩

end Literal

/-! ## Blocks -/

namespace Stats

/-- A block and the block of the same character with a penalty that is higher by some number: who
the character is, the scores and the shields are the same, and the number is added once to each
roll, each skill and each defense, in 32 bits. -/
structure IsShifted (s s' : Stats) : Prop where
  profile : s'.profile = s.profile
  penalty : s'.condition.penalty = s.condition.penalty + d
  scores : s'.scores = s.scores.shifted d
  skip : ∀ (a : Ability) (score : AbilityScore), s.scores[a]? = some score →
    (score.skip = true ↔ a = .constitution ∧ s.profile.isDroid = true)
  skills : s'.skills = s.skills.shifted d
  shields : s'.shields = s.shields
  fortitude : s'.defenses.fortitude = s.defenses.fortitude.shifted d
  will : s'.defenses.will = s.defenses.will.shifted d
  reflex : s'.defenses.reflex = s.defenses.reflex.shifted d
  flatFooted : s'.defenses.flatFooted = s.defenses.flatFooted.shifted d

/-- The number is added once to each attack bonus and, if Weapon Finesse leaves room for it, to each
attack roll, in 32 bits. The base attack bonus, health and damage are the same. -/
structure IsShiftedInCombat (s s' : Stats) : Prop where
  health : s'.health = { s.health with condition := s'.health.condition }
  offense : s'.offense = s.offense.shifted d
  attacks : s.wielder.HasRoom d → List.Forall₂ (Attack.IsShifted d) s.attacks s'.attacks

namespace IsComposed

variable {d} {answer : Question → Answer} {rules : Rules} {skills : List Skill} {c : Character}
  {step : Nat} {s s' : Stats} (hs : s.IsComposed answer rules skills c)
  (hs' : s'.IsComposed answer rules skills { c with condition := step })
  (hd : s'.condition.penalty = s.condition.penalty + d)

include hs hs'

/-- The profile does not depend on the step. -/
theorem profile_of_condition : s'.profile = s.profile := by
  rw [hs'.profile, hs.profile]
  rfl

include hd

/-- The difference goes into the rolls of the scores. -/
theorem scores_shifted : s'.scores = s.scores.shifted d := by
  have hfrom := Scores.result_inquireFrom_add d answer c s.profile.isDroid s.condition.penalty step
    ∅ s.profile.vars Ability.all
  rw [Scores.shifted_empty] at hfrom
  rw [hs'.scores, hs.scores, profile_of_condition hs hs', Scores.inquire, hd, hfrom]
  rfl

/-- What the scores publish is the same. -/
theorem scoreVars_shifted : s'.scoreVars = s.scoreVars := by
  rw [scoreVars, scoreVars, Scores.publish, Scores.publish, profile_of_condition hs hs',
    scores_shifted hs hs' hd, Scores.modifier_shifted]

/-- The difference goes into the skills. -/
theorem skills_shifted : s'.skills = s.skills.shifted d := by
  rw [hs'.skills, hs.skills, profile_of_condition hs hs', scores_shifted hs hs' hd,
    scoreVars_shifted hs hs' hd]
  have hload : SkillSheet.loadPenalty rules { c with condition := step } (s.scores.shifted d) =
      SkillSheet.loadPenalty rules c s.scores := by
    rw [SkillSheet.loadPenalty, SkillSheet.loadPenalty, Scores.total_shifted]
    rfl
  have harmor : s.profile.armorPenalty { c with condition := step } = s.profile.armorPenalty c :=
    rfl
  simp only [SkillSheet.inquire, Inquiry.result_bind, Inquiry.result_pure, SkillSheet.shifted,
    Scores.modifier_shifted, hload, harmor, hd]
  -- the penalty is only in the terms of the entries
  rw [SkillSheet.mk.injEq]
  refine ⟨?_, rfl, rfl⟩
  exact SkillSheet.result_entriesFrom_add d answer c s.scoreVars step (SkillSheet.sharedTerms answer
    rules c s.profile s.condition s.scores s.scoreVars) skills

/-- The shields are the same. -/
theorem shields_shifted : s'.shields = s.shields := by
  rw [hs'.shields, hs.shields, scoreVars_shifted hs hs' hd]
  rfl

/-- The difference goes into all four defenses. -/
theorem defenses_shifted :
    s'.defenses.fortitude = s.defenses.fortitude.shifted d ∧
      s'.defenses.will = s.defenses.will.shifted d ∧
      s'.defenses.reflex = s.defenses.reflex.shifted d ∧
      s'.defenses.flatFooted = s.defenses.flatFooted.shifted d := by
  have harmor : Character.wornArmor? { c with condition := step } = c.wornArmor? := rfl
  rw [hs'.defenses, hs.defenses, profile_of_condition hs hs', scores_shifted hs hs' hd,
    scoreVars_shifted hs hs' hd]
  simp only [Defenses.inquire, Inquiry.result_bind, Inquiry.result_pure, harmor, hd,
    Defense.result_common_add, Defense.reflex_penalized, Defense.fortitude_penalized,
    Defense.will_penalized, Defense.flatFooted_shifted, and_self]

omit hs' hd in
/-- Only the roll of a droid's Constitution is skipped. -/
theorem skip_iff {a : Ability} {score : AbilityScore} (ha : s.scores[a]? = some score) :
    score.skip = true ↔ a = .constitution ∧ s.profile.isDroid = true := by
  obtain ⟨found, vars, hfound, hscore, -⟩ := hs.exists_score a
  rw [ha, Option.some.injEq] at hfound
  rw [hfound, hscore]
  exact Scores.skip_result_score_iff _ _ _ _ _ _

/-- Blocks whose penalties differ are shifted by the difference. -/
theorem isShifted : s.IsShifted d s' := by
  obtain ⟨hfortitude, hwill, hreflex, hflatFooted⟩ := defenses_shifted hs hs' hd
  exact ⟨profile_of_condition hs hs', hd, scores_shifted hs hs' hd, fun _ _ => skip_iff hs,
    skills_shifted hs hs' hd, shields_shifted hs hs' hd, hfortitude, hwill, hreflex, hflatFooted⟩

end IsComposed

section Literal

variable {d} {rules : Rules} {skills : List Skill} {c : Character} {step : Nat} {s s' : Stats}
  (hs : s.IsComposed (Question.answer c.activeTraits) rules skills c)
  (hs' : s'.IsComposed (Question.answer c.activeTraits) rules skills { c with condition := step })
  (hd : s'.condition.penalty = s.condition.penalty + d) (h : ∀ t ∈ c.activeTraits, t.IsLiteral)

include hs hs' hd h

/-- Where the contributions are literal, so are their attacks. -/
theorem IsComposed.isShiftedInCombat : s.IsShiftedInCombat d s' := by
  have hprofile := hs.profile_of_condition hs'
  have hscores := hs.scores_shifted hs' hd
  have hoffense : s'.offense = s.offense.shifted d := by
    rw [hs'.offense, hs.offense, hprofile, hscores]
    -- health and attack bonuses ask with the published variables, which literal answers do not read
    have hmodifier : Offense.inquire { c with condition := step } s.profile s'.condition
        (s.scores.shifted d) (s'.defenses.publish s'.scoreVars) =
        Offense.inquire c s.profile s'.condition s.scores (s'.defenses.publish s'.scoreVars) := by
      rw [Offense.inquire, Offense.inquire, Scores.modifier_shifted]
      rfl
    rw [hmodifier]
    exact Offense.result_inquire_add d h c _ _ _ _ _ _ hd
  -- attacks read the shifted totals through the wielder alone
  have hwielder : s'.wielder = s.wielder.shifted d := by
    rw [wielder, wielder, hprofile, hscores, hoffense, Scores.modifier_shifted]
    rfl
  constructor
  case health =>
    rw [hs'.health, hs.health, hprofile, hscores,
      ← Health.result_inquire_withVars h c _ _ _ (s'.defenses.publish s'.scoreVars)]
    simp only [Health.inquire, Inquiry.result_bind, Inquiry.result_pure, Scores.modifier_shifted]
  case offense => exact hoffense
  case attacks =>
    intro hroom
    rw [hs'.attacks, hs.attacks, Character.attacksWith, Character.attacksWith, hwielder,
      Wielder.strikes_shifted rules.combat hroom]
    exact Attack.isShifted_listed d _ _

end Literal

end Stats

/-! ## At a desk -/

namespace Desk

/-- A soldier whose base attack bonus is raised by a text. -/
def veteran : Character := soldier [⟨"baseAttackBonus", .text "+2", none, false⟩]

/-- A desk whose list has one skill. -/
def airfield : Desk Variables := { exact with skills := [⟨"Pilot", .dexterity, false⟩] }

/-- A soldier with Weapon Finesse who is as weak and as bad at flying as can be counted. -/
def hopeless : Character where
  id := "hero"
  traits := [
    { id := "a", name := "Soldier", kind := .classLevel
      contributions := [⟨"baseAttackBonus", .text "-1073741824", none, false⟩,
        ⟨"strengthBonus", .text "-2147483640", none, false⟩,
        ⟨"pilotSkillBonus", .text "-2147483640", none, false⟩] },
    { id := "b", name := "Weapon Finesse", kind := .feat }]

end Desk

end CharacterSheet
