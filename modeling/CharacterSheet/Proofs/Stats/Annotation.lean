import CharacterSheet.Derivation.Basic

/-!
# Tips and warnings

The tips and warnings of a stat block are for the reader only: no part of the block is computed
from the tips of another part.
-/

namespace CharacterSheet

/-! ## Parts without their tips -/

/-- The score without its tip. -/
def AbilityScore.untipped (s : AbilityScore) : AbilityScore := { s with tip := "" }

/-- The scores without their tips. -/
def Scores.untipped (scores : Scores) : Scores := scores.map fun _ s => s.untipped

/-- The entry without its tip. -/
def SkillEntry.untipped (e : SkillEntry) : SkillEntry := { e with tip := "" }

/-- The skills without the tips of their entries. -/
def SkillSheet.untipped (s : SkillSheet) : SkillSheet :=
  { s with entries := s.entries.map fun _ e => e.untipped }

/-- The defense without its tip. -/
def Defense.untipped (d : Defense) : Defense := { d with tip := "" }

/-- The defenses without their tips. -/
def Defenses.untipped (d : Defenses) : Defenses where
  fortitude := d.fortitude.untipped
  will := d.will.untipped
  reflex := d.reflex.untipped
  flatFooted := d.flatFooted.untipped
  damageThreshold := d.damageThreshold

/-- The block without its tips and warnings. -/
def Stats.unannotated (s : Stats) : Stats :=
  { s with
    scores := s.scores.untipped
    skills := s.skills.untipped
    defenses := s.defenses.untipped
    warnings := [] }

/-! ## Scores -/

namespace Scores

/-- The score of an ability loses its tip. -/
theorem getElem?_untipped (scores : Scores) (a : Ability) :
    scores.untipped[a]? = scores[a]?.map AbilityScore.untipped :=
  Std.ExtTreeMap.getElem?_map

/-- Of scores with one more each loses its tip. -/
theorem untipped_insert (scores : Scores) (a : Ability) (s : AbilityScore) :
    Scores.untipped (scores.insert a s) = scores.untipped.insert a s.untipped := by
  ext1 b
  rw [getElem?_untipped, Std.ExtTreeMap.getElem?_insert, Std.ExtTreeMap.getElem?_insert,
    getElem?_untipped]
  split <;> rfl

/-- The modifiers do not depend on tips. -/
theorem modifier_untipped (scores : Scores) (a : Ability) :
    Scores.modifier scores.untipped a = scores.modifier a := by
  rw [modifier, modifier, getElem?_untipped]
  cases scores[a]? <;> rfl

/-- The totals do not depend on tips. -/
theorem total_untipped (scores : Scores) (c : Character) (a : Ability) :
    Scores.total scores.untipped c a = scores.total c a := by
  rw [total, total, getElem?_untipped]
  cases scores[a]? <;> rfl

variable {scores scores' : Scores} (h : scores.untipped = scores'.untipped)

include h

/-- Scores that differ in tips only have the same modifiers. -/
theorem modifier_congr : scores.modifier = scores'.modifier := by
  funext a
  rw [← modifier_untipped scores, h, modifier_untipped]

/-- Scores that differ in tips only have the same totals. -/
theorem total_congr (c : Character) (a : Ability) : scores.total c a = scores'.total c a := by
  rw [← total_untipped scores, h, total_untipped]

end Scores

/-! ## Entries -/

/-- Tables that differ in tips only still do with one more entry. -/
theorem SkillSheet.untipped_entries_insert {entries entries' : Std.ExtTreeMap String SkillEntry}
    (h : entries.map (fun _ e => e.untipped) = entries'.map fun _ e => e.untipped) (key : String)
    {e e' : SkillEntry} (he : e.untipped = e'.untipped) :
    (entries.insert key e).map (fun _ e => e.untipped) =
      (entries'.insert key e').map fun _ e => e.untipped := by
  ext1 k
  have hk := congrArg (·[k]?) h
  simp only [Std.ExtTreeMap.getElem?_map, Std.ExtTreeMap.getElem?_insert] at hk ⊢
  split
  · simp [he]
  · exact hk

/-! ## What later parts read of the scores -/

section Congr

variable {scores scores' : Scores} (h : scores.untipped = scores'.untipped) (rules : Rules)
  (c : Character) (profile : Profile) (condition : ConditionEffect) (vars : Variables)

include h

/-- The entries of skills are asked for without a look at tips. -/
theorem SkillSheet.entriesFrom_congr (terms : SkillSheet.Terms)
    (entries : Std.ExtTreeMap String SkillEntry) (skills : List Skill) :
    SkillSheet.entriesFrom c vars { terms with scores } entries skills =
      SkillSheet.entriesFrom c vars { terms with scores := scores' } entries skills := by
  induction skills generalizing entries with
  | nil => rfl
  | cons skill rest ih =>
    simp only [SkillSheet.entriesFrom, SkillSheet.entry, Scores.modifier_congr h, ih]

/-- The skills are asked for without a look at tips. -/
theorem SkillSheet.inquire_congr (skills : List Skill) :
    SkillSheet.inquire rules skills c profile condition scores vars =
      SkillSheet.inquire rules skills c profile condition scores' vars := by
  have hload : SkillSheet.loadPenalty rules c scores = SkillSheet.loadPenalty rules c scores' := by
    simp only [SkillSheet.loadPenalty, Scores.total_congr h]
  simp only [SkillSheet.inquire, Scores.modifier_congr h, hload]
  -- the scores are left only in the terms of the entries, behind two questions
  refine congrArg _ (funext fun general => congrArg _ (funext fun focused => ?_))
  exact congrArg (· >>= _) (SkillSheet.entriesFrom_congr h c vars
    { halfLevel := _, scores, conditionPenalty := _, general := _, trainedBonus := _,
      focusBonus := _, physicalPenalty := _, focused := _ } ∅ skills)

/-- The defenses are asked for without a look at tips. -/
theorem Defenses.inquire_congr :
    Defenses.inquire c profile condition scores vars =
      Defenses.inquire c profile condition scores' vars := by
  simp only [Defenses.inquire, Defense.reflex, Defense.fortitude, Defense.will,
    Scores.modifier_congr h]

/-- The hit points are asked for without a look at tips. -/
theorem Health.inquire_congr :
    Health.inquire c profile scores vars = Health.inquire c profile scores' vars := by
  simp only [Health.inquire, Scores.modifier_congr h]

/-- The attack bonuses are asked for without a look at tips. -/
theorem Offense.inquire_congr :
    Offense.inquire c profile condition scores vars =
      Offense.inquire c profile condition scores' vars := by
  simp only [Offense.inquire, Scores.modifier_congr h]

end Congr

/-! ## Defenses -/

namespace Defense

/-- A total does not depend on the tip. -/
theorem total_untipped (d : Defense) : d.untipped.total = d.total := rfl

variable {d d' : Defense} (h : d.untipped = d'.untipped) (profile : Profile) (scores : Scores)
  (armor : Option Armor)

include h

/-- The reflex defense depends on a tip in its own tip only. -/
theorem untipped_reflex_congr :
    (reflex profile scores armor d).untipped = (reflex profile scores armor d').untipped :=
  congrArg (reflex profile scores armor) h

/-- The fortitude defense depends on a tip in its own tip only. -/
theorem untipped_fortitude_congr :
    (fortitude profile scores armor d).untipped = (fortitude profile scores armor d').untipped :=
  congrArg (fortitude profile scores armor) h

/-- The will defense depends on a tip in its own tip only. -/
theorem untipped_will_congr :
    (will profile scores d).untipped = (will profile scores d').untipped :=
  congrArg (will profile scores) h

/-- The defense off one's guard depends on a tip in its own tip only. -/
theorem untipped_flatFooted_congr : (flatFooted d).untipped = (flatFooted d').untipped :=
  congrArg flatFooted h

end Defense

/-! ## What is read of the defenses and of the block -/

/-- What the defenses publish does not depend on tips. -/
theorem Defenses.publish_congr {d d' : Defenses} (h : d.untipped = d'.untipped)
    (vars : Variables) : d.publish vars = d'.publish vars := by
  have hparts := h
  simp only [Defenses.untipped, Defense.untipped, Defenses.mk.injEq, Defense.mk.injEq] at hparts
  simp only [Defenses.publish, hparts]

/-- The attacks depend on neither tips nor warnings. -/
theorem Character.attacksWith_unannotated (c : Character) (stats : Stats) (rules : Rules) :
    c.attacksWith stats.unannotated rules = c.attacksWith stats rules := by
  rw [Character.attacksWith, Character.attacksWith]
  refine congrArg (fun w => Attack.listed c.id (Wielder.strikes w rules.combat c.activeTraits)) ?_
  simp only [Stats.wielder, Stats.unannotated, Scores.modifier_untipped]

/-- Attacks made from blocks that agree are the same, so the blocks agree with them too. -/
theorem Stats.unannotated_attacks_congr {s s' : Stats} (h : s.unannotated = s'.unannotated)
    (c : Character) (rules : Rules) :
    { s with attacks := c.attacksWith s rules }.unannotated =
      { s' with attacks := c.attacksWith s' rules }.unannotated := by
  have hattacks : c.attacksWith s rules = c.attacksWith s' rules := by
    rw [← c.attacksWith_unannotated s, h, c.attacksWith_unannotated]
  rw [hattacks]
  exact congrArg (fun t : Stats => { t with attacks := c.attacksWith s' rules }) h

end CharacterSheet
