import CharacterSheet.Proofs.Character.NewTrait
import CharacterSheet.Proofs.Derivation.Feats
import CharacterSheet.Proofs.Derivation.IdleGear
import CharacterSheet.Proofs.Text.Search
import Mathlib.Data.List.Sort

/-!
# Feats and talents that are but a name

A new feat or talent that contributes nothing can be seen in a derivation through its name alone. It
is listed on the profile. Beyond this, a name may say a size, grant a proficiency or bring in
another feat; if it is plain, the profile lists it and is the same in all else, and so is what is
computed from the parts of the profile that are.
-/

namespace CharacterSheet

/-- A feat or talent without contributions, supplier and slot that is neither a weapon nor armor. -/
structure Trait.IsBare (t : Trait) : Prop where
  kind : t.kind = .feat ∨ t.kind = .talent
  contributions : t.contributions = []
  supplier : t.supplier = none
  slot : t.slot = none
  weapon : t.weapon = none
  armor : t.armor = none

/-! ## Names in order -/

namespace Text

variable (names : Std.ExtTreeSet String) (name : String)

/-- A set with one more name contains that name and those it contained. -/
theorem contains_insert (other : String) :
    (names.insert name).contains other = (name == other || names.contains other) := by
  have heq : (compare name other == .eq) = (name == other) := by
    rw [Bool.eq_iff_iff, beq_iff_eq, beq_iff_eq]
    exact Std.LawfulEqCmp.compare_eq_iff_eq
  rw [Std.ExtTreeSet.contains_insert, heq]

/-- Names are listed in order, so one more name leaves the list of the others as it is. -/
theorem filter_toList_insert :
    (names.insert name).toList.filter (· != name) = names.toList.filter (· != name) := by
  -- both lists are sorted without repetition, so it is enough that they have the same members
  have hsorted : ∀ s : Std.ExtTreeSet String,
      (s.toList.filter (· != name)).Pairwise fun a b => compare a b = .lt := fun _ =>
    Std.ExtTreeSet.ordered_toList.filter _
  have hantisymm : Std.Antisymm fun a b : String => compare a b = .lt :=
    ⟨fun a b hlt hgt => absurd (hlt.symm.trans (Std.OrientedCmp.gt_iff_lt.mpr hgt)) nofun⟩
  have hirrefl : Std.Irrefl fun a b : String => compare a b = .lt :=
    ⟨fun a h => absurd (Std.ReflCmp.compare_self.symm.trans h) nofun⟩
  refine (hsorted _).eq_of_mem_iff (hsorted _) fun other => ?_
  simp only [List.mem_filter, Std.ExtTreeSet.mem_toList, Std.ExtTreeSet.mem_insert,
    Std.LawfulEqCmp.compare_eq_iff_eq, bne_iff_ne]
  constructor
  · rintro ⟨rfl | hmem, hne⟩
    · exact absurd rfl hne
    · exact ⟨hmem, hne⟩
  · exact fun ⟨hmem, hne⟩ => ⟨.inr hmem, hne⟩

/-- A walk through names in which one of them has no effect. -/
theorem foldl_toList_insert {α : Type} (step : α → String → α) (h : ∀ a, step a name = a) (a : α) :
    (names.insert name).toList.foldl step a = names.toList.foldl step a := by
  have hskip : ∀ l : List String, l.foldl step a = (l.filter (· != name)).foldl step a := by
    intro l
    rw [List.foldl_filter]
    congr 1
    funext b other
    by_cases hother : other = name
    · simp [hother, h]
    · simp [hother]
  rw [hskip, filter_toList_insert, ← hskip]

end Text

/-! ## Answers -/

/-- A trait without contributions changes no answer. -/
theorem Question.answer_append_bare {t : Trait} (h : t.contributions = []) (traits : List Trait) :
    Question.answer (traits ++ [t]) = Question.answer traits := by
  funext q
  -- a trait without contributions contributes nothing, whatever the filter lets through
  have hmatching : (Pool.mk (traits ++ [t]) q.vars.lookup).matching q.key q.filter =
      (Pool.mk traits q.vars.lookup).matching q.key q.filter := by
    have hnone : ([t].filter q.filter.acceptsTrait).flatMap (fun t =>
        (t.contributions.filter fun c => c.key = q.key && q.filter.acceptsContribution c).map
          (t, ·)) = [] := by
      rw [List.flatMap_eq_nil_iff]
      intro other hother
      rw [List.mem_singleton.mp (List.mem_of_mem_filter hother), h]
      rfl
    rw [Pool.matching, Pool.matching, List.filter_append, List.flatMap_append, hnone,
      List.append_nil]
  rw [answer, answer, Pool.reduce, Pool.reduce, hmatching]

/-! ## Characters -/

namespace Character

variable {c : Character} {t : Trait} (hbare : t.IsBare) (hnew : c.IsNew t)

include hbare hnew

/-- The owned traits are the earlier ones and the new one. -/
theorem ownedTraits_withTrait : (c.withTrait t).ownedTraits = c.ownedTraits ++ [t] := by
  rw [withTrait_eq_insertTrait, ownedTraits_insertTrait_of_supplier_eq_none hnew hbare.supplier,
    List.take_length, List.drop_length]
  rfl

/-- The active traits are the earlier ones and the new one. -/
theorem activeTraits_withTrait : (c.withTrait t).activeTraits = c.activeTraits ++ [t] := by
  have hcontributes : t.contributes = true := by
    rcases hbare.kind with hkind | hkind <;> rw [Trait.contributes, hkind] <;> rfl
  rw [activeTraits, ownedTraits_withTrait hbare hnew, List.filter_append, activeTraits,
    List.filter_cons_of_pos hcontributes]
  rfl

/-- All questions have the same answers. -/
theorem answer_withTrait :
    Question.answer (c.withTrait t).activeTraits = Question.answer c.activeTraits := by
  rw [activeTraits_withTrait hbare hnew, Question.answer_append_bare hbare.contributions]

/-- The same armor is worn. -/
theorem wornArmor?_withTrait : (c.withTrait t).wornArmor? = c.wornArmor? := by
  rw [wornArmor?, activeTraits_withTrait hbare hnew, List.findSome?_append, List.findSome?_cons,
    hbare.armor]
  exact Option.or_none

/-- A feat or talent has no weight. -/
theorem carriedWeight_withTrait :
    SkillSheet.carriedWeight (c.withTrait t) = SkillSheet.carriedWeight c := by
  have hgear : t.kind.isGear = false := by
    rcases hbare.kind with hkind | hkind <;> rw [hkind] <;> rfl
  rw [SkillSheet.carriedWeight, ownedTraits_withTrait hbare hnew, List.filter_append,
    List.filter_cons_of_neg (by simp [hgear]), List.filter_nil, List.append_nil]
  rfl

/-- A feat or talent is no weapon. -/
theorem attacksWith_withTrait (stats : Stats) (rules : Rules) :
    (c.withTrait t).attacksWith stats rules = c.attacksWith stats rules := by
  have hnone : [t].flatMap (stats.wielder.traitStrikes rules.combat) = [] := by
    rw [List.flatMap_singleton, Wielder.traitStrikes, hbare.weapon]
  rw [attacksWith, attacksWith, Wielder.strikes, activeTraits_withTrait hbare hnew,
    List.flatMap_append, hnone, List.append_nil]
  rfl

end Character

/-! ## The profile -/

namespace Profile

/-- The profile with one more feat or talent on its lists. -/
def learn (p : Profile) (kind : TraitKind) (name : String) : Profile :=
  { p with
    feats := if kind = .feat then p.feats.insert name else p.feats
    talents := if kind = .talent then p.talents.insert name else p.talents }

/-- A folded name that is no size, grants no proficiency and brings in no other feat. -/
structure IsPlain (name : String) : Prop where
  size : ∀ size : Size, size.name ≠ name
  grants : ∀ p, grant p name = p
  unmerged : name ≠ "point-blank shot"

/-- A name that begins otherwise has nothing in parentheses to offer. -/
theorem parenthesized?_eq_none {beginning name : String}
    (h : Text.startsWith beginning name = false) : parenthesized? beginning name = none := by
  rw [Text.startsWith, ← Bool.not_eq_true, List.isPrefixOf_iff_prefix] at h
  rw [parenthesized?, Text.after?_eq_none h]
  rfl

/-- Only three titles grant proficiencies. -/
theorem grant_eq_self {name : String}
    (h : ∀ title ∈ ["weapon proficiency", "armor proficiency", "weapon focus"],
      Text.startsWith title name = false) (p : Proficiencies) : grant p name = p := by
  simp only [List.forall_mem_cons, List.not_mem_nil, false_implies, implies_true, and_true] at h
  rw [grant, parenthesized?_eq_none h.1, parenthesized?_eq_none h.2.1,
    parenthesized?_eq_none h.2.2]

/-- One more trait is one more name of its kind. -/
theorem foldedNames_append (kind : TraitKind) (traits : List Trait) (t : Trait) :
    foldedNames kind (traits ++ [t]) =
      if t.kind = kind then (foldedNames kind traits).insert (Text.fold t.name)
      else foldedNames kind traits := by
  ext name
  rw [mem_foldedNames_iff]
  split
  · next hkind =>
    rw [Std.ExtTreeSet.mem_insert, Std.LawfulEqCmp.compare_eq_iff_eq, mem_foldedNames_iff]
    simp [hkind, or_and_right, exists_or, or_comm]
  · next hkind =>
    rw [mem_foldedNames_iff]
    simp [hkind, or_and_right, exists_or]

variable {t : Trait} (hname : IsPlain (Text.fold t.name))

include hname

/-- One more feat is one more name among the feats. -/
theorem findFeats_append (house : HouseRules) (active : List Trait) :
    findFeats house (active ++ [t]) =
      if t.kind = .feat then (findFeats house active).insert (Text.fold t.name)
      else findFeats house active := by
  -- the new name is none of those the house rule looks for
  have hmerges : mergesFeats house (active ++ [t]) = mergesFeats house active := by
    rw [mergesFeats, mergesFeats, foldedNames_append]
    split
    · rw [Text.contains_insert, beq_false_of_ne hname.unmerged, Bool.false_or]
    · rfl
  ext name
  rw [mem_findFeats_iff, hmerges]
  split
  · next hkind =>
    rw [Std.ExtTreeSet.mem_insert, Std.LawfulEqCmp.compare_eq_iff_eq, mem_findFeats_iff, ← or_assoc]
    refine or_congr ?_ Iff.rfl
    simp [hkind, or_and_right, exists_or, or_comm]
  · next hkind =>
    rw [mem_findFeats_iff]
    simp [hkind, or_and_right, exists_or]

/-- The name of a plain trait is no size. -/
theorem parse?_eq_none : Size.parse? t.name = none := by
  rw [Size.parse?, List.find?_eq_none]
  intro size _
  rw [beq_iff_eq]
  exact hname.size size

/-- A plain trait has no say in the size. -/
theorem namedSize_append (owned : List Trait) : namedSize (owned ++ [t]) = namedSize owned := by
  rw [namedSize, List.findSome?_append, List.findSome?_singleton, parse?_eq_none hname,
    Option.or_none]
  rfl

/-- A plain feat grants no proficiency. -/
theorem foldl_grant_insert (kind : TraitKind) (feats : Std.ExtTreeSet String) (p : Proficiencies) :
    (if kind = .feat then feats.insert (Text.fold t.name) else feats).toList.foldl grant p =
      feats.toList.foldl grant p := by
  split
  · exact Text.foldl_toList_insert _ _ grant hname.grants p
  · rfl

/-- A plain new feat or talent is listed, and nothing else of the profile changes. -/
theorem answeredBy_inquire_withTrait (rules : Rules) {c : Character} (hbare : t.IsBare)
    (hnew : c.IsNew t) (answer : Question → Answer) :
    (inquire rules (c.withTrait t)).answeredBy answer =
      (((inquire rules c).result answer).learn t.kind (Text.fold t.name),
        (inquire rules c).warnings answer) := by
  have hactive := Character.activeTraits_withTrait hbare hnew
  have howned := Character.ownedTraits_withTrait hbare hnew
  -- a feat or talent is neither species nor class level, so what counts those stays the same
  have hkind : ∀ kind, kind = .species ∨ kind = .classLevel → decide (t.kind = kind) = false := by
    rintro kind (rfl | rfl) <;> rcases hbare.kind with hkind | hkind <;> rw [hkind] <;> rfl
  have hlevels : classLevels (c.activeTraits ++ [t]) = classLevels c.activeTraits := by
    rw [classLevels, List.filter_append, List.filter_singleton, hkind _ (.inr rfl)]
    exact List.append_nil _
  have hspecies : (c.activeTraits ++ [t]).find? (fun t => t.kind = .species) =
      c.activeTraits.find? fun t => t.kind = .species := by
    rw [List.find?_append, List.find?_singleton, hkind _ (.inl rfl)]
    exact Option.or_none
  have htaken : ∀ slots,
      takeSlots slots (c.ownedTraits ++ [t]) = takeSlots slots c.ownedTraits := by
    intro slots
    rw [takeSlots, List.filterMap_append, List.filterMap_cons, hbare.slot, ite_self,
      List.filterMap_nil, List.append_nil, takeSlots]
  have hid : (c.withTrait t).id = c.id := rfl
  rw [Inquiry.answeredBy_eq]
  simp only [inquire, Inquiry.result_bind, Inquiry.warnings_bind, Inquiry.result_pure,
    Inquiry.warnings_pure, hactive, howned, hlevels, hspecies, htaken, hid, findSize_eq,
    namedSize_append hname, findFeats_append hname, foldl_grant_insert hname, foldedNames_append,
    learn]

end Profile

/-! ## Other stages -/

section Stages

variable (rules : Rules) {c : Character} {t : Trait}

/-- The scores are asked for as without the new trait. -/
theorem Scores.inquire_withTrait (c : Character) (t : Trait) (profile : Profile)
    (condition : ConditionEffect) :
    inquire (c.withTrait t) profile condition = inquire c profile condition := by
  have hscore : score (c.withTrait t) = score c := rfl
  exact inquireFrom_of_score_eq hscore _ _ _ _ _

/-- The entries of skills are asked for as without the new trait. -/
theorem SkillSheet.entriesFrom_withTrait (c : Character) (t : Trait) (vars : Variables)
    (terms : Terms) (entries : Std.ExtTreeMap String SkillEntry) (skills : List Skill) :
    entriesFrom (c.withTrait t) vars terms entries skills =
      entriesFrom c vars terms entries skills := by
  have hentry : entry (c.withTrait t) = entry c := rfl
  exact entriesFrom_of_entry_eq hentry _ _ _ _

variable (hbare : t.IsBare) (hnew : c.IsNew t)

include hbare hnew

/-- Armor without proficiency is as heavy a penalty as without the new trait. -/
theorem Profile.armorPenalty_withTrait (p : Profile) :
    p.armorPenalty (c.withTrait t) = p.armorPenalty c := by
  rw [armorPenalty, armorPenalty, Character.wornArmor?_withTrait hbare hnew]

/-- The skills are asked for as without the new trait. -/
theorem SkillSheet.inquire_withTrait (skills : List Skill) (profile : Profile)
    (condition : ConditionEffect) (scores : Scores) (vars : Variables) :
    inquire rules skills (c.withTrait t) profile condition scores vars =
      inquire rules skills c profile condition scores vars := by
  have hload : loadPenalty rules (c.withTrait t) scores = loadPenalty rules c scores := by
    rw [loadPenalty, loadPenalty, Character.carriedWeight_withTrait hbare hnew]
    rfl
  simp only [inquire, entriesFrom_withTrait, Profile.armorPenalty_withTrait hbare hnew, hload]
  rfl

/-- The defenses are asked for as without the new trait. -/
theorem Defenses.inquire_withTrait (profile : Profile) (condition : ConditionEffect)
    (scores : Scores) (vars : Variables) :
    inquire (c.withTrait t) profile condition scores vars =
      inquire c profile condition scores vars := by
  simp only [inquire, Character.wornArmor?_withTrait hbare hnew]
  rfl

/-- The attack bonuses are asked for as without the new trait. -/
theorem Offense.inquire_withTrait (profile : Profile) (condition : ConditionEffect)
    (scores : Scores) (vars : Variables) :
    inquire (c.withTrait t) profile condition scores vars =
      inquire c profile condition scores vars := by
  simp only [inquire, Profile.armorPenalty_withTrait hbare hnew]
  rfl

end Stages

/-- Where a plain new feat or talent is listed, the stages behind the scores start from the same. -/
theorem Stats.IsComposed.scored_withTrait {answer : Question → Answer} {rules : Rules}
    {skills : List Skill} {c : Character} {t : Trait} {s s' : Stats}
    (hs : s.IsComposed answer rules skills c)
    (hs' : s'.IsComposed answer rules skills (c.withTrait t)) (hbare : t.IsBare) (hnew : c.IsNew t)
    (hname : Profile.IsPlain (Text.fold t.name)) :
    s'.profile = s.profile.learn t.kind (Text.fold t.name) ∧ s'.condition = s.condition ∧
      s'.scores = s.scores ∧ s'.scoreVars = s.scoreVars := by
  have hprofile : s'.profile = s.profile.learn t.kind (Text.fold t.name) := by
    rw [hs'.profile, hs.profile]
    exact congrArg Prod.fst (Profile.answeredBy_inquire_withTrait hname rules hbare hnew answer)
  have hcondition : s'.condition = s.condition := hs'.condition.trans hs.condition.symm
  have hscores : s'.scores = s.scores := by
    rw [hs'.scores, hs.scores, hprofile, hcondition, Scores.inquire_withTrait]
    rfl
  refine ⟨hprofile, hcondition, hscores, ?_⟩
  rw [scoreVars, scoreVars, hscores, hprofile]
  rfl

end CharacterSheet
