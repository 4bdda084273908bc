import CharacterSheet.Proofs.Derivation.Composition
import CharacterSheet.Proofs.Derivation.Remembering

/-!
# Published roll variables

The roll variables are published in four stages, while the block is still being computed. They can
be read off the finished block all the same: nothing that was published is changed afterwards.
-/

namespace CharacterSheet

/-- What a finished block announces as its roll variables. -/
def Stats.rollVariables (s : Stats) : List (String × Int) :=
  [("@charLevel", s.profile.level),
    ("@halfCharLevel", s.profile.level / 2),
    ("@heroicLevel", s.profile.heroicLevel),
    ("@STRMOD", s.scores.modifier .strength),
    ("@DEXMOD", s.scores.modifier .dexterity),
    ("@CONMOD", s.scores.modifier .constitution),
    ("@INTMOD", s.scores.modifier .intelligence),
    ("@WISMOD", s.scores.modifier .wisdom),
    ("@CHAMOD", s.scores.modifier .charisma),
    ("@fortDef", s.defenses.fortitude.total),
    ("@refDef", s.defenses.reflex.total),
    ("@willDef", s.defenses.will.total),
    ("@flatFooted", s.defenses.flatFooted.total),
    ("@damageThreshold", s.defenses.damageThreshold),
    ("@bab", s.offense.base),
    ("@mab", s.offense.melee),
    ("@rab", s.offense.ranged),
    ("@fab", s.offense.finesse)]

/-! ## The table of roll variables -/

/-- In a table made from a list in which each name stands once, a name has the value that the list
gives it. -/
theorem Variables.getElem?_ofList_eq_some_iff {entries : List (String × Int)}
    (hnames : (entries.map Prod.fst).Nodup) {name : String} {value : Int} :
    (Std.ExtTreeMap.ofList entries : Variables)[name]? = some value ↔ (name, value) ∈ entries := by
  -- no two entries have the same name, so that none takes another's place
  have hdistinct : entries.Pairwise fun a b => ¬ compare a.1 b.1 = .eq := by
    rw [List.Nodup, List.pairwise_map] at hnames
    exact hnames.imp fun hne heq => hne (Std.LawfulEqOrd.eq_of_compare heq)
  constructor
  · intro h
    have hmem : name ∈ entries.map Prod.fst := by
      by_contra hnot
      rw [Std.ExtTreeMap.getElem?_ofList_of_contains_eq_false (by simpa using hnot)] at h
      cases h
    obtain ⟨⟨name', value'⟩, hentry, rfl⟩ := List.mem_map.mp hmem
    rw [Std.ExtTreeMap.getElem?_ofList_of_mem Std.ReflCmp.compare_self hdistinct hentry] at h
    rwa [← Option.some.inj h]
  · exact Std.ExtTreeMap.getElem?_ofList_of_mem Std.ReflCmp.compare_self hdistinct

namespace Stats

theorem nodup_names_rollVariables (s : Stats) : (s.rollVariables.map Prod.fst).Nodup := by
  simp [rollVariables]

/-- What the parts of a block publish, one after the other, is what the block announces. -/
theorem republished_eq (s : Stats) : s.republished = .ofList s.rollVariables := by
  rw [Std.ExtTreeMap.ofList_eq_insertMany_empty]
  simp only [rollVariables, Std.ExtTreeMap.insertMany_cons, Std.ExtTreeMap.insertMany_nil,
    republished, scoreVars, Offense.publish, Defenses.publish, Scores.publish, Profile.vars,
    Profile.halfLevel, Ability.all, Ability.variableName, List.foldl_cons, List.foldl_nil,
    Variables.publish, String.reduceAppend]

end Stats

/-! ## The modifiers -/

namespace Scores

variable (answer : Question → Answer) (c : Character) (isDroid : Bool) (penalty : Int)

/-- The modifier follows from the total, but for the Constitution that a droid does not have. -/
theorem modifier_result_score (vars : Variables) (a : Ability) :
    ((score c isDroid penalty vars a).result answer).modifier =
      if a = .constitution ∧ isDroid = true then 0
      else abilityModifier ((score c isDroid penalty vars a).result answer).total := by
  simp only [score, Inquiry.result_bind, Inquiry.result_pure, Bool.and_eq_true, decide_eq_true_eq]
  split <;> rfl

/-- Each ability gets a score, and later stages read the modifier that stands in it. -/
theorem exists_score_inquireFrom (scores : Scores) (vars : Variables) {abilities : List Ability}
    (hnodup : abilities.Nodup) {a : Ability} (ha : a ∈ abilities) :
    ∃ found vars',
      ((inquireFrom c isDroid penalty scores vars abilities).result answer).1[a]? = some found ∧
        found = (score c isDroid penalty vars' a).result answer ∧
        modifier ((inquireFrom c isDroid penalty scores vars abilities).result answer).1 a =
          found.modifier := by
  induction abilities generalizing scores vars with
  | nil => cases ha
  | cons b rest ih =>
    obtain ⟨hb, hrest⟩ := List.nodup_cons.mp hnodup
    rw [inquireFrom, Inquiry.result_bind]
    rcases List.mem_cons.mp ha with rfl | ha
    · -- the scores behind it leave this one as it is
      have hkept := getElem?_inquireFrom answer c isDroid penalty
        (scores.insert a ((score c isDroid penalty vars a).result answer))
        (vars.publish a.variableName ((score c isDroid penalty vars a).result answer).modifier) hb
      have hmodifier := modifier_insert_score answer c isDroid penalty scores vars a
      rw [modifier] at hmodifier
      refine ⟨_, vars, ?_, rfl, ?_⟩
      · rw [hkept, Std.ExtTreeMap.getElem?_insert_self]
      · rw [modifier, hkept, hmodifier]
    · exact ih _ _ hrest ha

end Scores

/-! ## Blocks -/

namespace Stats.IsComposed

variable {answer : Question → Answer} {rules : Rules} {skills : List Skill} {c : Character}
  {s : Stats} (h : s.IsComposed answer rules skills c)

include h

theorem getElem?_vars_iff {name : String} {value : Int} :
    s.vars[name]? = some value ↔ (name, value) ∈ s.rollVariables := by
  rw [h.vars, republished_eq]
  exact Variables.getElem?_ofList_eq_some_iff (nodup_names_rollVariables s)

/-- Each ability has the score that its stage found. -/
theorem exists_score (a : Ability) : ∃ score vars, s.scores[a]? = some score ∧
    score = (Scores.score c s.profile.isDroid s.condition.penalty vars a).result answer ∧
    s.scores.modifier a = score.modifier := by
  have hall : a ∈ Ability.all := by cases a <;> decide
  rw [h.scores]
  exact Scores.exists_score_inquireFrom answer c _ _ ∅ _ (by decide) hall

end Stats.IsComposed

/-! ## At a desk -/

namespace Desk

variable {φ : Type} [DecidableEq φ]

/-- The roll variables of a derived block are those that the finished block announces, with these
values, and no others. Each ability has a score with the modifier that is announced, which for the
Constitution of a droid is zero. -/
theorem getElem?_vars_derive_iff (desk : Desk φ) (c : Character) :
    (∀ name value, (desk.derive c).1.stats.vars[name]? = some value ↔
        (name, value) ∈ (desk.derive c).1.stats.rollVariables) ∧
      ∀ a, ∃ score, (desk.derive c).1.stats.scores[a]? = some score ∧
        (desk.derive c).1.stats.scores.modifier a = score.modifier ∧
        score.modifier = if a = .constitution ∧ (desk.derive c).1.stats.profile.isDroid = true
          then 0 else abilityModifier score.total := by
  have hparts := desk.isComposed_derive c
  refine ⟨fun _ _ => hparts.getElem?_vars_iff, fun a => ?_⟩
  obtain ⟨score, vars, hfound, hscore, hmodifier⟩ := hparts.exists_score a
  refine ⟨score, hfound, hmodifier, ?_⟩
  rw [hscore]
  exact Scores.modifier_result_score _ _ _ _ _ _

end Desk

end CharacterSheet
