import CharacterSheet.Proofs.Character.NewTrait
import CharacterSheet.Requirement.Basic

/-!
# Gains

A character gains by training a skill and by taking a trait whose supplier, if it has one, is at
hand. A gain can give an orphan its supplier back, but it makes no orphan of anything, so what the
character owns only grows, whatever ids the traits have. As long as the stat block stays as it is, a
requirement that is met is still met after any number of gains: it asks at most for what a character
has, and never for what it lacks.
-/

namespace CharacterSheet

namespace Character

/-- What a character has, apart from its stat block, another one has too. -/
structure Grows (c c' : Character) : Prop where
  stats : c'.stats = c.stats
  abilities : c'.abilities = c.abilities
  trainedSkills : ∀ skill ∈ c.trainedSkills, skill ∈ c'.trainedSkills
  ownedTraits : c.ownedTraits.Sublist c'.ownedTraits

/-- A character grows if nothing changes. -/
theorem Grows.refl (c : Character) : c.Grows c :=
  ⟨rfl, rfl, fun _ h => h, List.Sublist.refl _⟩

/-- Growth goes on. -/
theorem Grows.trans {c c' c'' : Character} (h : c.Grows c') (h' : c'.Grows c'') : c.Grows c'' where
  stats := h'.stats.trans h.stats
  abilities := h'.abilities.trans h.abilities
  trainedSkills := fun skill hskill => h'.trainedSkills skill (h.trainedSkills skill hskill)
  ownedTraits := h.ownedTraits.trans h'.ownedTraits

/-- The trait has no supplier, or its supplier is the trait itself or at hand. -/
def Supplies (c : Character) (t : Trait) : Prop :=
  ∀ s, t.supplier = some s → s.id = t.id ∨ ∃ other ∈ c.traits, other.id = s.id

variable {c c' : Character} {t : Trait}

/-! ## One gain -/

/-- A character grows by training. -/
theorem grows_train (c : Character) (skill : String) : c.Grows (c.train skill) where
  stats := rfl
  abilities := rfl
  trainedSkills := fun _ h => Std.ExtTreeSet.mem_insert.mpr (.inr h)
  ownedTraits := List.Sublist.refl _

/-- The traits are the earlier ones and the new one. -/
theorem mem_traits_withTrait_iff {other : Trait} :
    other ∈ (c.withTrait t).traits ↔ other ∈ c.traits ∨ other = t := by
  rw [withTrait, List.mem_append, List.mem_singleton]

/-- A new trait makes no orphan. -/
theorem isOrphan_of_withTrait {other : Trait} (h : (c.withTrait t).isOrphan other = true) :
    c.isOrphan other = true := by
  obtain ⟨s, hs, hnone⟩ := isOrphan_eq_true_iff.mp h
  refine isOrphan_eq_true_iff.mpr ⟨s, hs, ?_⟩
  rintro ⟨supplier, hsupplier, hid⟩
  exact hnone ⟨supplier, mem_traits_withTrait_iff.mpr (.inl hsupplier), hid⟩

/-- A trait whose supplier is there is no orphan. -/
theorem Supplies.isOrphan_eq_false (h : c.Supplies t) : (c.withTrait t).isOrphan t = false := by
  rw [← Bool.not_eq_true]
  intro horphan
  obtain ⟨s, hs, hnone⟩ := isOrphan_eq_true_iff.mp horphan
  refine hnone ?_
  rcases h s hs with hid | ⟨other, hother, hid⟩
  · exact ⟨t, mem_traits_withTrait_iff.mpr (.inr rfl), hid.symm⟩
  · exact ⟨other, mem_traits_withTrait_iff.mpr (.inl hother), hid⟩

/-- The new trait gives no id to an orphan that no orphan had before. -/
theorem Supplies.mem_orphanIds (h : c.Supplies t) {i : TraitId}
    (hi : i ∈ (c.withTrait t).orphanedTraits.map (·.id)) :
    i ∈ c.orphanedTraits.map (·.id) := by
  obtain ⟨orphan, hmem, horphan, hid⟩ := mem_orphanIds_iff.mp hi
  rcases mem_traits_withTrait_iff.mp hmem with hmem | rfl
  · exact mem_orphanIds_iff.mpr ⟨orphan, hmem, isOrphan_of_withTrait horphan, hid⟩
  · rw [h.isOrphan_eq_false] at horphan
    cases horphan

/-- What was owned still is. -/
theorem Supplies.ownedTraits_sublist (h : c.Supplies t) :
    c.ownedTraits.Sublist (c.withTrait t).ownedTraits := by
  have hkept :
      (c.traits.filter fun other => !(c.orphanedTraits.map (·.id)).contains other.id).Sublist
        (c.traits.filter fun other =>
          !((c.withTrait t).orphanedTraits.map (·.id)).contains other.id) := by
    -- whoever was no orphan is none now, so nobody is dropped for sharing an identity
    refine List.monotone_filter_right _ fun other hother => ?_
    simp only [Bool.not_eq_true', ← Bool.not_eq_true, List.contains_iff_mem] at hother ⊢
    exact fun hid => hother (h.mem_orphanIds hid)
  rw [ownedTraits, ownedTraits]
  refine hkept.trans ?_
  rw [withTrait, List.filter_append]
  exact List.sublist_append_left _ _

/-- A character grows by a trait whose supplier is there. -/
theorem Supplies.grows (h : c.Supplies t) : c.Grows (c.withTrait t) where
  stats := rfl
  abilities := rfl
  trainedSkills := fun _ hskill => hskill
  ownedTraits := h.ownedTraits_sublist

/-! ## Any number of gains -/

/-- A character after a series of gains. -/
inductive Gains (c : Character) : Character → Prop
  | none : Gains c c
  | train {c' : Character} (h : Gains c c') (skill : String) : Gains c (c'.train skill)
  | withTrait {c' : Character} (h : Gains c c') {t : Trait} (ht : c'.Supplies t) :
      Gains c (c'.withTrait t)

/-- A character grows by what it gains. -/
theorem Gains.grows (h : c.Gains c') : c.Grows c' := by
  induction h with
  | none => exact .refl c
  | train _ skill ih => exact ih.trans (grows_train _ skill)
  | withTrait _ ht ih => exact ih.trans ht.grows

/-! ## What grows is still had -/

namespace Grows

variable (h : c.Grows c')

include h

/-- What was trained still is. -/
theorem isTrained {skill : String} (htrained : c.isTrained skill = true) :
    c'.isTrained skill = true :=
  Std.ExtTreeSet.contains_iff_mem.mpr
    (h.trainedSkills _ (Std.ExtTreeSet.contains_iff_mem.mp htrained))

/-- The base scores are the same. -/
theorem baseAbility (a : Ability) : c'.baseAbility a = c.baseAbility a := by
  rw [Character.baseAbility, Character.baseAbility, h.abilities]

/-- What held of an owned trait still does. -/
theorem any_ownedTraits {p : Trait → Bool} (hany : c.ownedTraits.any p = true) :
    c'.ownedTraits.any p = true := by
  obtain ⟨t, ht, hp⟩ := List.any_eq_true.mp hany
  exact List.any_eq_true.mpr ⟨t, h.ownedTraits.subset ht, hp⟩

/-- What was possessed still is. -/
theorem possesses {name : String} (hname : c.possesses name = true) :
    c'.possesses name = true := by
  simp only [Character.possesses, Bool.or_eq_true, h.stats] at hname ⊢
  exact hname.imp_left (Or.imp_left h.any_ownedTraits)

/-- No fewer traits of a kind are counted. -/
theorem countNamed_le (kind : TraitKind) (part : Option String) :
    Requirement.countNamed c kind part ≤ Requirement.countNamed c' kind part :=
  (h.ownedTraits.filter _).length_le

end Grows

end Character

namespace Requirement

open Character

variable {c c' : Character}

/-- A requirement that is met is still met by a character that has all the same and more. -/
theorem isMet_of_grows (h : c.Grows c') : (r : Requirement) → r.isMet c = true → r.isMet c' = true
  | .narrative _, _ => by rw [isMet]
  | .anyOf options, hr => by
    rw [isMet, anyMet_eq_any, List.any_eq_true] at hr ⊢
    obtain ⟨option, hoption, hmet⟩ := hr
    exact ⟨option, hoption, isMet_of_grows h option hmet⟩
  | .allOf parts, hr => by
    rw [isMet, allMet_eq_all, List.all_eq_true] at hr ⊢
    exact fun part hpart => isMet_of_grows h part (hr part hpart)
  | .trainedSkill skill, hr => by
    rw [isMet, Bool.or_eq_true] at hr ⊢
    rw [h.stats]
    exact hr.imp_left h.isTrained
  | .anyKnowledgeSkill, hr => by
    rw [isMet, List.any_eq_true] at hr ⊢
    obtain ⟨skill, hskill, hknowledge⟩ := hr
    rw [Std.ExtTreeSet.mem_toList] at hskill
    exact ⟨skill, Std.ExtTreeSet.mem_toList.mpr (h.trainedSkills skill hskill), hknowledge⟩
  | .appendage count kind locomotion, hr => by
    rw [isMet, decide_eq_true_eq] at hr ⊢
    exact Nat.le_trans hr (h.countNamed_le _ _)
  | .sizeOrLarger size, hr => by
    rw [isMet] at hr ⊢
    rwa [h.stats]
  | .abilityAtLeast ability minimum, hr => by
    rw [isMet] at hr ⊢
    rwa [h.stats, h.baseAbility]
  | .baseAttackBonus minimum, hr => by
    rw [isMet] at hr ⊢
    rwa [h.stats]
  | .characterLevel limit, hr => by
    rw [isMet] at hr ⊢
    rwa [h.stats]
  | .proficient category, hr => by
    rw [isMet] at hr ⊢
    rwa [h.stats]
  | .droid expected, hr => by
    rw [isMet] at hr ⊢
    rwa [h.stats]
  | .possession name, hr => by
    rw [isMet] at hr ⊢
    exact h.possesses hr

/-- A requirement stays met after any series of gains. -/
theorem isMet_of_gains (h : c.Gains c') (r : Requirement) (hr : r.isMet c = true) :
    r.isMet c' = true :=
  isMet_of_grows h.grows r hr

/-- A requirement that is met stays met when the character is trained in a skill, and when it takes
a trait that has no supplier, or one that is the trait itself or at hand. -/
theorem isMet_train_and_withTrait (r : Requirement) (c : Character) (hr : r.isMet c = true) :
    (∀ skill, r.isMet (c.train skill) = true) ∧
      ∀ t : Trait, (∀ s, t.supplier = some s → s.id = t.id ∨ ∃ other ∈ c.traits, other.id = s.id) →
        r.isMet (c.withTrait t) = true := by
  constructor
  · exact fun skill => isMet_of_grows (grows_train c skill) r hr
  · intro t ht
    have hsupplied : c.Supplies t := ht
    exact isMet_of_grows hsupplied.grows r hr

/-- A character with one arm who is trained in stealth. Of its two feats of one id the first one is
an orphan. -/
def recruit : Character where
  id := "hero"
  trainedSkills := .ofList ["stealth"]
  traits := [
    { id := "a", name := "Left Arm", kind := .appendage },
    { id := "f", name := "Dodge", kind := .feat, supplier := some ⟨"school", "School"⟩ },
    { id := "f", name := "Mobility", kind := .feat }]

/-- What the recruit already meets. -/
def entrance : Requirement :=
  .allOf [.anyOf [.possession "mobility", .trainedSkill "Stealth"], .appendage 1 (some "arm") false]

/-- The supplier that the orphan lacks, which names itself as its supplier. -/
def school : Trait where
  id := "school"
  name := "School"
  kind := .template
  supplier := some ⟨"school", "School"⟩

/-- A recruit that meets what is asked for still does after training, and with a school that names
itself as its supplier. -/
theorem isMet_train_and_withTrait_recruit :
    entrance.isMet recruit = true ∧
      (∀ s, school.supplier = some s →
        s.id = school.id ∨ ∃ other ∈ recruit.traits, other.id = s.id) ∧
      entrance.isMet (recruit.train "Pilot") = true ∧
      entrance.isMet (recruit.withTrait school) = true := by
  have hmet : entrance.isMet recruit = true := by decide +kernel
  have hschool : ∀ s, school.supplier = some s →
      s.id = school.id ∨ ∃ other ∈ recruit.traits, other.id = s.id := by
    intro s hs
    cases hs
    exact .inl rfl
  obtain ⟨htrain, htrait⟩ := isMet_train_and_withTrait entrance recruit hmet
  exact ⟨hmet, hschool, htrain "Pilot", htrait school hschool⟩

end Requirement

end CharacterSheet
