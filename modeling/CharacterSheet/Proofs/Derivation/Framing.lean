import CharacterSheet.Proofs.Derivation.Inputs
import CharacterSheet.Proofs.Inquiry.Run
import Mathlib.Data.List.Basic

/-!
# What a derivation sees of the traits

Apart from the answers to its questions, a derivation reads the traits of a character without their
contributions, but for those that take the heroic training from a class level. So a change to the
other contributions leaves the questions as they are, and answers change only under keys whose
contributions do.
-/

namespace CharacterSheet

/-- A change that touches nothing of a trait but its contributions, and does not decide whether a
class level is heroic. -/
structure Trait.Retunes (f : Trait → Trait) : Prop where
  frame : ∀ t, f t = { t with contributions := (f t).contributions }
  nonheroic : ∀ t, Profile.isNonheroic (f t) = Profile.isNonheroic t

namespace Trait.Retunes

variable {f : Trait → Trait} (h : Retunes f) (t : Trait)

include h

@[simp] theorem id : (f t).id = t.id := by rw [h.frame t]

@[simp] theorem name : (f t).name = t.name := by rw [h.frame t]

@[simp] theorem kind : (f t).kind = t.kind := by rw [h.frame t]

@[simp] theorem supplier : (f t).supplier = t.supplier := by rw [h.frame t]

@[simp] theorem isSupplied : (f t).isSupplied = t.isSupplied := by rw [h.frame t]

@[simp] theorem equipped : (f t).equipped = t.equipped := by rw [h.frame t]

@[simp] theorem slot : (f t).slot = t.slot := by rw [h.frame t]

@[simp] theorem weapon : (f t).weapon = t.weapon := by rw [h.frame t]

@[simp] theorem armor : (f t).armor = t.armor := by rw [h.frame t]

@[simp] theorem weight : (f t).weight = t.weight := by rw [h.frame t]

/-- Whether a trait contributes is not retuned. -/
@[simp] theorem contributes : (f t).contributes = t.contributes := by
  simp [Trait.contributes, h.kind, h.equipped]

end Trait.Retunes

/-! ## Traits without some keys -/

/-- The trait without its contributions under some keys. -/
def Trait.withoutKeys (p : String → Bool) (t : Trait) : Trait :=
  { t with contributions := t.contributions.filter fun c => !p c.key }

/-- Leaving out contributions retunes traits, as long as those that make a level nonheroic stay. -/
theorem Trait.retunes_withoutKeys {p : String → Bool} (hp : p "isNonheroic" = false) :
    Trait.Retunes (Trait.withoutKeys p) where
  frame _ := rfl
  nonheroic t := by
    simp only [Profile.isNonheroic, withoutKeys, List.any_filter]
    apply congrArg (List.any t.contributions)
    funext c
    by_cases h : c.key = "isNonheroic" <;> simp [h, hp]

/-- The contributions to a key that stays are the same. -/
theorem Trait.filter_withoutKeys {p : String → Bool} {key : String} (hp : p key = false)
    (t : Trait) :
    (t.withoutKeys p).contributions.filter (·.key = key) =
      t.contributions.filter (·.key = key) := by
  simp only [withoutKeys, List.filter_filter]
  apply List.filter_congr
  intro c _
  by_cases hc : c.key = key <;> simp [hc, hp]

/-! ## Answers -/

namespace Sourced

variable {f : Trait → Trait}

/-- The contribution of the changed trait. -/
def retuned (f : Trait → Trait) (s : Sourced) : Sourced := (f s.1, s.2)

/-- The largest number found does not depend on anything else of the traits. -/
theorem largest?_retuned (lookup : Lookup) (best : Option Binary64) (found : List Sourced) :
    largest? lookup best (found.map (retuned f)) = largest? lookup best found := by
  induction found generalizing best with
  | nil => rfl
  | cons s rest ih =>
    simp only [List.map_cons, retuned, largest?]
    split <;> simp [ih]

/-- A reduction reads the traits of the contributions only for their names and ids. -/
theorem reduce_retuned (h : Trait.Retunes f) (lookup : Lookup) (found : List Sourced)
    (mode : Mode) : reduce lookup (found.map (retuned f)) mode = reduce lookup found mode := by
  -- only the two ways to show a contribution look at its trait
  have hdescribe : ∀ s : Sourced, describe (retuned f s) = describe s := fun s => by
    simp [describe, retuned, h.name]
  have hentry : ∀ s : Sourced, entry (retuned f s) = entry s := fun s => by
    simp [entry, retuned, h.name, h.id]
  cases mode <;>
    simp only [reduce, largest?_retuned, first?, lowerCaseValues, summary, List.map_map,
      List.any_map, List.filter_map, Function.comp_def, hdescribe, hentry] <;>
    rfl

end Sourced

namespace Pool

/-- What is found for a key that is not retuned is found in the retuned traits. -/
theorem matching_map {f : Trait → Trait} (h : Trait.Retunes f) (traits : List Trait)
    (lookup : Lookup) (key : String) (filter : Filter)
    (hkey : ∀ t, (f t).contributions.filter (·.key = key) = t.contributions.filter (·.key = key)) :
    (Pool.mk (traits.map f) lookup).matching key filter =
      ((Pool.mk traits lookup).matching key filter).map (Sourced.retuned f) := by
  have haccepts : ∀ t, filter.acceptsTrait (f t) = filter.acceptsTrait t := fun t => by
    simp [Filter.acceptsTrait, h.kind]
  -- the contributions are picked by key first, which is where the two lists of them agree
  have hfilter : ∀ cs : List Contribution,
      cs.filter (fun c => c.key = key && filter.acceptsContribution c) =
        (cs.filter (·.key = key)).filter filter.acceptsContribution := fun cs => by
    rw [List.filter_filter]
    exact List.filter_congr fun c _ => Bool.and_comm _ _
  simp only [matching, List.filter_map, Function.comp_def, haccepts, List.flatMap_map,
    List.map_flatMap, List.map_map, Sourced.retuned]
  apply List.flatMap_congr
  intro t _
  rw [hfilter, hfilter, hkey]

end Pool

/-- A change to traits leaves the answers under each key whose contributions it keeps. -/
theorem Question.answer_map {f : Trait → Trait} (h : Trait.Retunes f) (traits : List Trait)
    (q : Question)
    (hkey : ∀ t, (f t).contributions.filter (·.key = q.key) =
      t.contributions.filter (·.key = q.key)) :
    q.answer (traits.map f) = q.answer traits := by
  rw [answer, answer, Pool.reduce, Pool.reduce, Pool.matching_map h _ _ _ _ hkey,
    Sourced.reduce_retuned h]

/-! ## Characters -/

namespace Character

/-- The character with each of its traits changed. -/
def mapTraits (f : Trait → Trait) (c : Character) : Character := { c with traits := c.traits.map f }

variable {f : Trait → Trait} (h : Trait.Retunes f) (c : Character)

include h

/-- A retuned trait is an orphan if the trait was one. -/
theorem isOrphan_mapTraits (t : Trait) : (c.mapTraits f).isOrphan (f t) = c.isOrphan t := by
  simp [isOrphan, mapTraits, h.supplier, h.id, Function.comp_def]

/-- The orphans are the retuned ones. -/
theorem orphanedTraits_mapTraits : (c.mapTraits f).orphanedTraits = c.orphanedTraits.map f := by
  rw [orphanedTraits, orphanedTraits, mapTraits, List.filter_map]
  apply congrArg (List.map f)
  apply List.filter_congr
  intro t _
  exact isOrphan_mapTraits h c t

/-- The orphans have the same ids. -/
theorem orphanIds_mapTraits :
    (c.mapTraits f).orphanedTraits.map (·.id) = c.orphanedTraits.map (·.id) := by
  simp [orphanedTraits_mapTraits h, h.id, Function.comp_def]

/-- The owned traits are the retuned ones. -/
theorem ownedTraits_mapTraits : (c.mapTraits f).ownedTraits = c.ownedTraits.map f := by
  simp only [ownedTraits, orphanIds_mapTraits h]
  rw [mapTraits, List.filter_map]
  simp only [Function.comp_def, h.id]

/-- The active traits are the retuned ones. -/
theorem activeTraits_mapTraits : (c.mapTraits f).activeTraits = c.activeTraits.map f := by
  simp only [activeTraits, ownedTraits_mapTraits h, List.filter_map, Function.comp_def,
    h.contributes]

/-- The character wears the same armor. -/
theorem wornArmor?_mapTraits : (c.mapTraits f).wornArmor? = c.wornArmor? := by
  simp only [wornArmor?, activeTraits_mapTraits h, List.findSome?_map, Function.comp_def, h.armor]

end Character

/-! ## Stages -/

section Stages

variable {f : Trait → Trait} (h : Trait.Retunes f) (rules : Rules) (c : Character)

include h

namespace Profile

/-- The class levels are the retuned ones. -/
theorem classLevels_map (active : List Trait) :
    classLevels (active.map f) = (classLevels active).map f := by
  simp only [classLevels, List.filter_map, Function.comp_def, h.kind]

/-- Classes are counted by name only. -/
theorem countClasses_map (levels : List Trait) :
    countClasses (levels.map f) = countClasses levels := by
  simp only [countClasses, List.foldl_map, h.name]

/-- The names of one kind are the same. -/
theorem foldedNames_map (kind : TraitKind) (traits : List Trait) :
    foldedNames kind (traits.map f) = foldedNames kind traits := by
  simp only [foldedNames, List.filter_map, List.map_map, Function.comp_def, h.kind, h.name]

/-- A size is found by name only. -/
theorem findSize_map (contributed : Option String) (owned : List Trait) :
    findSize contributed (owned.map f) = findSize contributed owned := by
  simp only [findSize, List.findSome?_map, Function.comp_def, h.name]

/-- The same slots are taken. -/
theorem takeSlots_map (slots : Std.ExtTreeMap String Int) (owned : List Trait) :
    takeSlots slots (owned.map f) = takeSlots slots owned := by
  simp only [takeSlots, List.filterMap_map, Function.comp_def, h.isSupplied, h.slot]

/-- The profile of the retuned character is asked for in the same way. -/
theorem inquire_mapTraits : inquire rules (c.mapTraits f) = inquire rules c := by
  simp only [inquire, Character.activeTraits_mapTraits h, Character.ownedTraits_mapTraits h,
    classLevels_map h, countClasses_map h, findSize_map h, findFeats, foldedNames_map h,
    takeSlots_map h, List.filter_map, Function.comp_def, h.nonheroic, List.length_map,
    List.find?_map, h.kind, Option.map_map, h.name]
  rfl

end Profile

omit h in
/-- The scores of the retuned character are asked for in the same way. -/
theorem Scores.inquireFrom_mapTraits (isDroid : Bool) (penalty : Int) (scores : Scores)
    (vars : Variables) (abilities : List Ability) :
    Scores.inquireFrom (c.mapTraits f) isDroid penalty scores vars abilities =
      Scores.inquireFrom c isDroid penalty scores vars abilities := by
  have hscore : Scores.score (c.mapTraits f) = Scores.score c := rfl
  exact Scores.inquireFrom_of_score_eq hscore _ _ _ _ _

/-- Armor without proficiency is as heavy a penalty as before. -/
theorem Profile.armorPenalty_mapTraits (p : Profile) :
    p.armorPenalty (c.mapTraits f) = p.armorPenalty c := by
  simp only [Profile.armorPenalty, Character.wornArmor?_mapTraits h]

namespace SkillSheet

/-- The retuned traits weigh as much as the traits. -/
theorem carriedWeight_mapTraits : carriedWeight (c.mapTraits f) = carriedWeight c := by
  simp only [carriedWeight, Character.ownedTraits_mapTraits h, List.filter_map, List.foldl_map,
    Function.comp_def, h.kind, h.weight]

/-- The penalty for the load is the same. -/
theorem loadPenalty_mapTraits (scores : Scores) :
    loadPenalty rules (c.mapTraits f) scores = loadPenalty rules c scores := by
  simp only [loadPenalty, carriedWeight_mapTraits h]
  rfl

omit h in
/-- The entries of skills are asked for in the same way. -/
theorem entriesFrom_mapTraits (vars : Variables) (terms : Terms)
    (entries : Std.ExtTreeMap String SkillEntry) (skills : List Skill) :
    entriesFrom (c.mapTraits f) vars terms entries skills =
      entriesFrom c vars terms entries skills := by
  have hentry : entry (c.mapTraits f) = entry c := rfl
  exact entriesFrom_of_entry_eq hentry _ _ _ _

/-- The skills of the retuned character are asked for in the same way. -/
theorem inquire_mapTraits (skills : List Skill) (profile : Profile) (condition : ConditionEffect)
    (scores : Scores) (vars : Variables) :
    inquire rules skills (c.mapTraits f) profile condition scores vars =
      inquire rules skills c profile condition scores vars := by
  simp only [inquire, entriesFrom_mapTraits, Profile.armorPenalty_mapTraits h,
    loadPenalty_mapTraits h]
  rfl

end SkillSheet

/-- The defenses of the retuned character are asked for in the same way. -/
theorem Defenses.inquire_mapTraits (profile : Profile) (condition : ConditionEffect)
    (scores : Scores) (vars : Variables) :
    Defenses.inquire (c.mapTraits f) profile condition scores vars =
      Defenses.inquire c profile condition scores vars := by
  simp only [Defenses.inquire, Character.wornArmor?_mapTraits h]
  rfl

/-- The attack bonuses of the retuned character are asked for in the same way. -/
theorem Offense.inquire_mapTraits (profile : Profile) (condition : ConditionEffect)
    (scores : Scores) (vars : Variables) :
    Offense.inquire (c.mapTraits f) profile condition scores vars =
      Offense.inquire c profile condition scores vars := by
  simp only [Offense.inquire, Profile.armorPenalty_mapTraits h]
  rfl

/-- The same block gives the retuned character the same attacks. -/
theorem Character.attacksWith_mapTraits (stats : Stats) :
    (c.mapTraits f).attacksWith stats rules = c.attacksWith stats rules := by
  have htrait : ∀ t, stats.wielder.traitStrikes rules.combat (f t) =
      stats.wielder.traitStrikes rules.combat t := fun t => by
    simp only [Wielder.traitStrikes, h.weapon, h.name, h.id]
  simp only [Character.attacksWith, Wielder.strikes, Character.activeTraits_mapTraits h,
    List.flatMap_map, htrait]
  rfl

/-- A change to traits that keeps what a derivation reads of them without asking leaves its
questions as they are. -/
theorem Stats.inquire_mapTraits (skills : List Skill) :
    Stats.inquire rules skills (c.mapTraits f) = Stats.inquire rules skills c := by
  simp only [Stats.inquire, Profile.inquire_mapTraits h, Scores.inquire,
    Scores.inquireFrom_mapTraits, SkillSheet.inquire_mapTraits h, Defenses.inquire_mapTraits h,
    Offense.inquire_mapTraits h, Character.attacksWith_mapTraits h]
  rfl

end Stages

end CharacterSheet
