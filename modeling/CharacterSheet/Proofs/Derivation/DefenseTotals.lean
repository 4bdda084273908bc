import CharacterSheet.Proofs.Derivation.BareTraits
import Mathlib.Algebra.Ring.Int.Defs

/-!
# The breakdown of the defenses

The total of each defense is the sum of the components that are shown beside it, in 32 bits, also
where a total is taken over from another defense and patched. Of all that a character can learn only
Armored Defense and the improved talent weigh the bonus of the armor against the heroic level, and
they let the better of the two count. A better defense is a higher one as long as neither sum wraps
around.
-/

namespace CharacterSheet

/-! ## Totals -/

namespace Defense

/-- The components that are shown of a defense. -/
def components (d : Defense) : List Int :=
  [d.base, d.levelOrArmor, d.ability, d.classBonus, d.misc, d.size, d.condition]

/-- A total wraps around where the sum of the components does. -/
theorem total_summed (d : Defense) : d.summed.total = word d.summed.components.sum := by
  simp only [summed, components, List.sum_cons, List.sum_nil]
  exact congrArg word (by omega)

/-- Patching the ability and summing again takes off what the ability has lost. -/
theorem total_flatFooted (d : Defense) :
    (flatFooted d.summed).total = word (d.summed.total - max 0 d.ability) := by
  simp only [flatFooted, summed, Int.sub_eq_add_neg, word_word_add]
  exact congrArg word (by omega)

variable (profile : Profile) (scores : Scores) (armor : Option Armor) (d : Defense)

/-- Armor takes off Dexterity and adds none. -/
theorem ability_reflex_le :
    (reflex profile scores armor d).ability ≤ scores.modifier .dexterity := by
  cases hmost : armor.bind (·.maxDexterity) with
  | none => simp only [reflex, summed, hmost, Option.elim_none, le_refl]
  | some most => simp only [reflex, summed, hmost, Option.elim_some, min_le_left]

/-- Armor lets no more of Dexterity through than its maximum. -/
theorem ability_reflex_le_maximum {most : Int} (hmost : armor.bind (·.maxDexterity) = some most) :
    (reflex profile scores armor d).ability ≤ most := by
  simp only [reflex, summed, hmost, Option.elim_some, min_le_right]

end Defense

/-- Each total is the sum of its components in 32 bits; without the ability to react only a bonus of
the ability is lost; and the armor lets no more of Dexterity through than its maximum. -/
structure Defenses.AddUp (dexterity : Int) (armor : Option Armor) (d : Defenses) : Prop where
  total_eq : ∀ one ∈ [d.fortitude, d.will, d.reflex, d.flatFooted],
    one.total = word one.components.sum
  flatFooted_eq : d.flatFooted =
    { d.reflex with ability := d.flatFooted.ability, total := d.flatFooted.total }
  flatFooted_total : d.flatFooted.total = word (d.reflex.total - max 0 d.reflex.ability)
  ability_le : d.reflex.ability ≤ dexterity
  ability_le_maximum : ∀ most, armor.bind (·.maxDexterity) = some most → d.reflex.ability ≤ most

/-- The defenses of a character add up. -/
theorem Defenses.addUp_inquire (answer : Question → Answer) (c : Character) (profile : Profile)
    (condition : ConditionEffect) (scores : Scores) (vars : Variables) :
    ((inquire c profile condition scores vars).result answer).AddUp
      (scores.modifier .dexterity) c.wornArmor? := by
  simp only [inquire, Inquiry.result_bind, Inquiry.result_pure]
  exact
    { total_eq := by
        simp only [List.forall_mem_cons, List.not_mem_nil, false_implies, implies_true, and_true]
        exact ⟨Defense.total_summed _, Defense.total_summed _, Defense.total_summed _,
          Defense.total_summed _⟩
      flatFooted_eq := rfl
      flatFooted_total := Defense.total_flatFooted _
      ability_le := Defense.ability_reflex_le _ _ _ _
      ability_le_maximum := fun _ => Defense.ability_reflex_le_maximum _ _ _ _ }

/-! ## Armor talents -/

/-- The names of the talents that let the heroic level count in armor. -/
def Defense.armorTalents : List String := ["armored defense", "improved armored defense"]

/-- A talent for armor is nothing else to a profile. -/
theorem Profile.isPlain_armorTalent {name : String} (h : name ∈ Defense.armorTalents) :
    IsPlain name := by
  have hsize : ∀ name ∈ Defense.armorTalents, ∀ size : Size, size.name ≠ name := by
    intro name hname size
    revert name
    cases size <;> decide
  have htitles : ∀ name ∈ Defense.armorTalents,
      ∀ title ∈ ["weapon proficiency", "armor proficiency", "weapon focus"],
        Text.startsWith title name = false := by decide
  have hunmerged : ∀ name ∈ Defense.armorTalents, name ≠ "point-blank shot" := by decide
  exact ⟨hsize name h, grant_eq_self (htitles name h), hunmerged name h⟩

namespace Defense

variable {profile : Profile} {kind : TraitKind} {name : String}

/-- What is learned is the only thing that is new. -/
theorem hasTraining_learn (hkind : kind = .feat ∨ kind = .talent) (other : String) :
    hasTraining (profile.learn kind name) other = (name == other || hasTraining profile other) := by
  rcases hkind with rfl | rfl
  · simp only [hasTraining, Profile.learn, reduceCtorEq, if_true, if_false,
      Text.contains_insert]
    exact Bool.or_left_comm _ _ _
  · simp only [hasTraining, Profile.learn, reduceCtorEq, if_true, if_false,
      Text.contains_insert, Bool.or_assoc]

/-- An armor that has no negative bonus protects no less where the wearer is better trained: half of
the bonus on top of the level is no less than the level, if it can be added. -/
theorem armorBonus_le_learn (hkind : kind = .feat ∨ kind = .talent)
    (hname : name ∈ armorTalents) {armor : Armor} (harmor : 0 ≤ armor.reflexBonus)
    (hroom : IsWord (profile.heroicLevel + armor.reflexBonus / 2)) :
    armorBonus profile armor ≤ armorBonus (profile.learn kind name) armor := by
  have hlevel : (profile.learn kind name).heroicLevel = profile.heroicLevel := rfl
  simp only [armorTalents, List.mem_cons, List.not_mem_nil, or_false] at hname
  simp only [armorBonus, hasTraining_learn hkind, hlevel, hroom.word_eq]
  -- each talent raises the bonus over the level alone; the improved one also beats the plain one
  rcases hname with rfl | rfl
  · have hother : ("armored defense" == "improved armored defense") = false := by decide
    rw [hother, Bool.false_or, beq_self_eq_true, Bool.true_or, if_pos rfl]
    split
    · exact le_rfl
    · split
      · exact le_rfl
      · exact le_max_right _ _
  · rw [beq_self_eq_true, Bool.true_or, if_pos rfl]
    split
    · exact le_rfl
    · split
      · have hhalf : 0 ≤ armor.reflexBonus / 2 := Int.ediv_nonneg harmor (by decide)
        exact sup_le_sup_right (Int.le_add_of_nonneg_right hhalf) _
      · exact le_max_right _ _

variable (scores : Scores) (armor : Option Armor) (d : Defense)

/-- The sum of a defense is no lower, and neither is the total if the sums fit 32 bits. -/
structure IsNoLower (d d' : Defense) : Prop where
  sum_le : d.components.sum ≤ d'.components.sum
  total_le : IsWord d.components.sum → IsWord d'.components.sum → d.total ≤ d'.total

/-- Totals compare as the sums that they stand for. -/
theorem isNoLower_of_sum_le {d d' : Defense} (hd : d.total = word d.components.sum)
    (hd' : d'.total = word d'.components.sum) (h : d.components.sum ≤ d'.components.sum) :
    d.IsNoLower d' :=
  ⟨h, fun hfits hfits' => by rwa [hd, hd', hfits.word_eq, hfits'.word_eq]⟩

/-- What is learned can reach the reflex defense through the bonus of the armor only. -/
theorem isNoLower_reflex_learn (h : armor.elim profile.heroicLevel (armorBonus profile) ≤
      armor.elim profile.heroicLevel (armorBonus (profile.learn kind name))) :
    (reflex profile scores armor d).IsNoLower (reflex (profile.learn kind name) scores armor d) ∧
      (flatFooted (reflex profile scores armor d)).IsNoLower
        (flatFooted (reflex (profile.learn kind name) scores armor d)) := by
  have hlevel : (profile.learn kind name).heroicLevel = profile.heroicLevel := rfl
  have hsize : (profile.learn kind name).size = profile.size := rfl
  constructor
  all_goals
    refine isNoLower_of_sum_le (total_summed _) (total_summed _) ?_
    simp only [reflex, flatFooted, summed, components, List.sum_cons, List.sum_nil, hlevel, hsize]
    omega

end Defense

/-- The reflex defense is no lower, on one's guard and off it. -/
structure Defenses.IsNoLower (d d' : Defenses) : Prop where
  reflex : d.reflex.IsNoLower d'.reflex
  flatFooted : d.flatFooted.IsNoLower d'.flatFooted

/-- The defenses that have nothing to do with the reflex defense are the same. -/
structure Defenses.AgreesElsewhere (d d' : Defenses) : Prop where
  fortitude_eq : d'.fortitude = d.fortitude
  will_eq : d'.will = d.will
  damageThreshold_eq : d'.damageThreshold = d.damageThreshold

/-- The armor that is worn has no negative bonus, and half of its bonus can be added to a level. -/
def Character.WearsSoundArmor (c : Character) (level : Int) : Prop :=
  ∀ armor, c.wornArmor? = some armor →
    0 ≤ armor.reflexBonus ∧ IsWord (level + armor.reflexBonus / 2)

/-- What is learned can reach the reflex defense only. -/
theorem Defenses.agreesElsewhere_learn (answer : Question → Answer) (c : Character)
    (profile : Profile) (condition : ConditionEffect) (scores : Scores) (vars : Variables)
    (kind : TraitKind) (name : String) :
    ((inquire c profile condition scores vars).result answer).AgreesElsewhere
      ((inquire c (profile.learn kind name) condition scores vars).result answer) := by
  simp only [inquire, Inquiry.result_bind, Inquiry.result_pure]
  exact ⟨rfl, rfl, rfl⟩

/-- A talent for armor lowers no defense. -/
theorem Defenses.isNoLower_learn (answer : Question → Answer) {c : Character} {profile : Profile}
    (harmor : c.WearsSoundArmor profile.heroicLevel) (condition : ConditionEffect) (scores : Scores)
    (vars : Variables) {kind : TraitKind} (hkind : kind = .feat ∨ kind = .talent) {name : String}
    (hname : name ∈ Defense.armorTalents) :
    ((inquire c profile condition scores vars).result answer).IsNoLower
      ((inquire c (profile.learn kind name) condition scores vars).result answer) := by
  -- without armor the bonus is the heroic level, which no talent changes
  have hbonus : c.wornArmor?.elim profile.heroicLevel (Defense.armorBonus profile) ≤
      c.wornArmor?.elim profile.heroicLevel (Defense.armorBonus (profile.learn kind name)) := by
    cases hworn : c.wornArmor? with
    | none => exact le_rfl
    | some armor =>
      obtain ⟨hbonus, hroom⟩ := harmor armor hworn
      exact Defense.armorBonus_le_learn hkind hname hbonus hroom
  simp only [inquire, Inquiry.result_bind, Inquiry.result_pure]
  obtain ⟨hreflex, hflatFooted⟩ := Defense.isNoLower_reflex_learn scores c.wornArmor? _ hbonus
  exact ⟨hreflex, hflatFooted⟩

/-! ## Blocks -/

/-- The defenses of a derived block add up. -/
theorem Stats.IsComposed.addUp_defenses {answer : Question → Answer} {rules : Rules}
    {skills : List Skill} {c : Character} {s : Stats} (h : s.IsComposed answer rules skills c) :
    s.defenses.AddUp (s.scores.modifier .dexterity) c.wornArmor? := by
  rw [h.defenses]
  exact Defenses.addUp_inquire answer c _ _ _ _

/-- A bare talent for armor changes no defense of the block but the reflex defense, and that it does
not lower. -/
theorem Stats.IsComposed.isNoLower_withTrait {answer : Question → Answer} {rules : Rules}
    {skills : List Skill} {c : Character} {t : Trait} {s s' : Stats}
    (hs : s.IsComposed answer rules skills c)
    (hs' : s'.IsComposed answer rules skills (c.withTrait t)) (hbare : t.IsBare) (hnew : c.IsNew t)
    (hname : Text.fold t.name ∈ Defense.armorTalents) :
    s.defenses.AgreesElsewhere s'.defenses ∧
      (c.WearsSoundArmor s.profile.heroicLevel → s.defenses.IsNoLower s'.defenses) := by
  obtain ⟨hprofile, hcondition, hscores, hvars⟩ :=
    hs.scored_withTrait hs' hbare hnew (Profile.isPlain_armorTalent hname)
  rw [hs.defenses, hs'.defenses, hprofile, hcondition, hscores, hvars,
    Defenses.inquire_withTrait hbare hnew]
  exact ⟨Defenses.agreesElsewhere_learn ..,
    fun harmor => Defenses.isNoLower_learn answer harmor _ _ _ hbare.kind hname⟩

/-! ## At a desk -/

namespace Desk

/-- A soldier of the third level, quicker than the armor lets through. -/
def armored : Character where
  id := "hero"
  traits := [
    { id := "a", name := "Soldier", kind := .classLevel },
    { id := "b", name := "Soldier", kind := .classLevel },
    { id := "c", name := "Soldier", kind := .classLevel
      contributions := [⟨"dexterityBonus", .number (.ofInt 6), none, false⟩] },
    { id := "d", name := "Flight Suit", kind := .armor, equipped := true
      armor := some ⟨.light, 3, 1, some 2⟩ }]

/-- The talent that weighs half of the armor's bonus and the level against the bonus alone. -/
def improvedTalent : Trait :=
  { id := "e", name := "Improved Armored Defense", kind := .talent }

/-- A soldier in armor without a bonus, with the greatest reflex defense there is. -/
def unhittable : Character where
  id := "hero"
  traits := [
    { id := "a", name := "Soldier", kind := .classLevel
      contributions := [⟨"reflexDefenseBonus", .text "2147483637", none, false⟩] },
    { id := "b", name := "Padded Coat", kind := .armor, equipped := true
      armor := some ⟨.light, 0, 0, none⟩ }]

/-- The talent that weighs the level against the armor's bonus. -/
def armoredTalent : Trait := { id := "c", name := "Armored Defense", kind := .talent }

end Desk

end CharacterSheet
