import CharacterSheet.Proofs.Derivation.Inputs
import CharacterSheet.Proofs.Derivation.Composition
import CharacterSheet.Proofs.Derivation.Remembering
import CharacterSheet.Proofs.Value.Literal

/-!
# Traits in another order

What a stat block counts does not hang on the order of the traits: levels, proficiencies and open
slots are put together by steps that can be exchanged, and who is an orphan follows from ids alone.
Species and size are not counted. They are those of the first trait that has one.
-/

namespace CharacterSheet

/-! ## Who owns and who contributes -/

namespace Character

variable {c : Character} {traits : List Trait}

/-- Whether a trait is an orphan does not depend on the order. -/
theorem isOrphan_of_perm (h : traits.Perm c.traits) :
    ({ c with traits } : Character).isOrphan = c.isOrphan := by
  funext t
  have hids : ∀ s : Supplier, (traits.any fun other => other.id = s.id) =
      c.traits.any fun other => other.id = s.id := fun _ => h.any_eq
  simp only [isOrphan, hids]

/-- The orphans are the same up to their order. -/
theorem perm_orphanedTraits (h : traits.Perm c.traits) :
    ({ c with traits } : Character).orphanedTraits.Perm c.orphanedTraits := by
  rw [orphanedTraits, orphanedTraits, isOrphan_of_perm h]
  exact h.filter _

/-- The owned traits are the same up to their order. -/
theorem perm_ownedTraits (h : traits.Perm c.traits) :
    ({ c with traits } : Character).ownedTraits.Perm c.ownedTraits := by
  have hids : ∀ t : Trait,
      (({ c with traits } : Character).orphanedTraits.map (·.id)).contains t.id =
        (c.orphanedTraits.map (·.id)).contains t.id :=
    fun _ => ((perm_orphanedTraits h).map _).contains_eq
  simp only [ownedTraits, hids]
  exact h.filter _

/-- The active traits are the same up to their order. -/
theorem perm_activeTraits (h : traits.Perm c.traits) :
    ({ c with traits } : Character).activeTraits.Perm c.activeTraits :=
  (perm_ownedTraits h).filter _

end Character

/-! ## Answers -/

/-- What is found for a key is the same up to its order. -/
theorem Pool.perm_matching {traits traits' : List Trait} (h : traits.Perm traits')
    (lookup : Lookup) (key : String) (filter : Filter) :
    ((Pool.mk traits lookup).matching key filter).Perm
      ((Pool.mk traits' lookup).matching key filter) :=
  (h.filter _).flatMap_right _

namespace Standpoint

variable (here : Standpoint) {traits traits' : List Trait} (key : String) (filter : Filter)

/-- Whether anything is there does not depend on the order. -/
theorem result_any_congr (h : traits.Perm traits') :
    (here.any key filter).result (Question.answer traits) =
      (here.any key filter).result (Question.answer traits') :=
  (Pool.perm_matching h here.vars.lookup key filter).any_eq

/-- The texts are the same up to their order. -/
theorem perm_result_texts (h : traits.Perm traits') :
    ((here.texts key filter).result (Question.answer traits)).Perm
      ((here.texts key filter).result (Question.answer traits')) :=
  ((Pool.perm_matching h here.vars.lookup key filter).filter _).map _

/-- The values are the same up to their order. -/
theorem perm_result_values (h : traits.Perm traits') :
    ((here.values key filter).result (Question.answer traits)).Perm
      ((here.values key filter).result (Question.answer traits')) :=
  (Pool.perm_matching h here.vars.lookup key filter).map _

end Standpoint

/-! ## Counts -/

/-- The same texts in another order make the same set. -/
theorem Text.ofList_eq_of_perm {texts texts' : List String} (h : texts.Perm texts') :
    Std.ExtTreeSet.ofList texts = Std.ExtTreeSet.ofList texts' := by
  ext name
  rw [Std.ExtTreeSet.mem_ofList, Std.ExtTreeSet.mem_ofList, h.contains_eq]

namespace Profile

/-- A count is added to the slot of one name only. -/
theorem getElem?_addToSlot (slots : Std.ExtTreeMap String Int) (name other : String) (n : Int) :
    (addToSlot slots name n)[other]? =
      if name = other then some (word (slots[other]?.getD 0 + n)) else slots[other]? := by
  rw [addToSlot, Std.ExtTreeMap.getElem?_insert, Std.ExtTreeMap.getD_eq_getD_getElem?]
  by_cases h : name = other
  · subst h
    simp
  · simp [h]

/-- Two additions can be exchanged, whether they are to the same slot or not. -/
theorem addToSlot_comm (slots : Std.ExtTreeMap String Int) (name name' : String) (n n' : Int) :
    addToSlot (addToSlot slots name n) name' n' = addToSlot (addToSlot slots name' n') name n := by
  ext1 other
  simp only [getElem?_addToSlot]
  by_cases h : name = other
  · by_cases h' : name' = other
    · simp only [h, h', if_true, Option.getD_some]
      rw [word_word_add, word_word_add, Int.add_right_comm]
    · simp only [h, h', if_true, if_false]
  · by_cases h' : name' = other
    · simp only [h, h', if_true, if_false]
    · simp only [h, h', if_false]

variable {traits traits' : List Trait}

/-- Classes are counted in any order. -/
theorem countClasses_congr (h : traits.Perm traits') : countClasses traits = countClasses traits' :=
  h.foldl_eq' (fun t _ t' _ counts => addToSlot_comm counts t.name t'.name 1 1) ∅

/-- Names are listed in any order. -/
theorem foldedNames_congr (kind : TraitKind) (h : traits.Perm traits') :
    foldedNames kind traits = foldedNames kind traits' :=
  Text.ofList_eq_of_perm ((h.filter _).map _)

/-- Feats are found in any order. -/
theorem findFeats_congr (house : HouseRules) (h : traits.Perm traits') :
    findFeats house traits = findFeats house traits' := by
  rw [findFeats, findFeats, foldedNames_congr .feat h]

/-- Slots are taken in any order. -/
theorem takeSlots_congr (slots : Std.ExtTreeMap String Int) (h : traits.Perm traits') :
    takeSlots slots traits = takeSlots slots traits' :=
  (h.filterMap _).foldl_eq' (fun name _ name' _ slots => addToSlot_comm slots name name' _ _) slots

/-- Adds what one value provides to its slot. -/
def provide (slots : Std.ExtTreeMap String Int) (value : Value) : Std.ExtTreeMap String Int :=
  addToSlot slots (provision value.display).1 ((provision value.display).2.getD 1)

/-- What values provide is added one by one, where nulls are passed over. -/
theorem result_addProvisions (answer : Question → Answer) (slots : Std.ExtTreeMap String Int)
    (values : List Value) :
    (addProvisions slots values).result answer =
      (values.filter (!·.isNull)).foldl provide slots := by
  induction values generalizing slots with
  | nil => rfl
  | cons value rest ih =>
    rw [addProvisions]
    cases hnull : value.isNull with
    | true =>
      rw [if_pos rfl, ih, List.filter_cons_of_neg (by simp [hnull])]
    | false =>
      rw [if_neg Bool.false_ne_true, List.filter_cons_of_pos (by simp [hnull]), List.foldl_cons,
        provide]
      -- the warning about a bad count does not change what is added
      split
      · next hcount => rw [ih, hcount, Option.getD_some]
      · next hcount => rw [Inquiry.result_bind, ih, hcount, Option.getD_none]

/-- Slots are provided in any order. -/
theorem result_addProvisions_congr (answer answer' : Question → Answer)
    (slots : Std.ExtTreeMap String Int) {values values' : List Value} (h : values.Perm values') :
    (addProvisions slots values).result answer = (addProvisions slots values').result answer' := by
  rw [result_addProvisions, result_addProvisions]
  exact (h.filter _).foldl_eq' (fun v _ v' _ slots => addToSlot_comm slots _ _ _ _) slots

end Profile

/-! ## Blocks -/

/-- Two blocks agree in what is counted: in all of their profiles but species and size, and in the
effect of the condition track. -/
structure Stats.CountsAlike (s s' : Stats) : Prop where
  level : s.profile.level = s'.profile.level
  heroicLevel : s.profile.heroicLevel = s'.profile.heroicLevel
  classes : s.profile.classes = s'.profile.classes
  isDroid : s.profile.isDroid = s'.profile.isDroid
  feats : s.profile.feats = s'.profile.feats
  talents : s.profile.talents = s'.profile.talents
  proficiencies : s.profile.proficiencies = s'.profile.proficiencies
  openSlots : s.profile.openSlots = s'.profile.openSlots
  condition : s.condition = s'.condition

/-- The blocks of both orders count alike. -/
theorem Stats.IsComposed.countsAlike {rules : Rules} {skills : List Skill} {c : Character}
    {traits : List Trait} {s s' : Stats}
    (hs : s.IsComposed (Question.answer c.activeTraits) rules skills c)
    (hs' : s'.IsComposed (Question.answer ({ c with traits } : Character).activeTraits) rules
      skills { c with traits })
    (h : traits.Perm c.traits) : s'.CountsAlike s := by
  have hactive := Character.perm_activeTraits h
  have howned := Character.perm_ownedTraits h
  have hlevels : (Profile.classLevels ({ c with traits } : Character).activeTraits).Perm
      (Profile.classLevels c.activeTraits) := hactive.filter _
  -- what is kept as a set forgets the order it was found in
  have hset : ∀ key, Std.ExtTreeSet.ofList ((Standpoint.texts ⟨c.id, .traits, ∅⟩ key .all).result
      (Question.answer ({ c with traits } : Character).activeTraits)) =
        Std.ExtTreeSet.ofList ((Standpoint.texts ⟨c.id, .traits, ∅⟩ key .all).result
          (Question.answer c.activeTraits)) :=
    fun key => Text.ofList_eq_of_perm (Standpoint.perm_result_texts _ key .all hactive)
  have hdroid := Standpoint.result_any_congr ⟨c.id, .traits, ∅⟩ "isDroid" .all hactive
  have hvalues := Standpoint.perm_result_values ⟨c.id, .traits, ∅⟩ "provides" .all hactive
  have hprofile := hs.profile
  have hprofile' := hs'.profile
  simp only [Profile.inquire, Inquiry.result_bind, Inquiry.result_pure] at hprofile hprofile'
  rw [Profile.findFeats_congr rules.house hactive, Profile.foldedNames_congr .talent hactive,
    Profile.countClasses_congr hlevels, (hlevels.filter _).length_eq, hdroid, hset, hset, hset,
    Profile.result_addProvisions_congr _ (Question.answer c.activeTraits) ∅ hvalues,
    Profile.takeSlots_congr _ howned] at hprofile'
  constructor
  case condition => exact hs'.condition.trans hs.condition.symm
  all_goals rw [hprofile', hprofile]

/-! ## At a desk -/

namespace Desk

/-- A character of two species, with a slot that is provided and taken and with an orphan whose id
is that of another trait. -/
def changeling : Character where
  id := "hero"
  traits := [
    { id := "a", name := "Human", kind := .species
      contributions := [⟨"provides", .text "General Feats: 2", none, false⟩] },
    { id := "b", name := "Large", kind := .species },
    { id := "c", name := "Scout", kind := .classLevel },
    { id := "d", name := "Noble", kind := .classLevel
      contributions := [⟨"isNonheroic", .bool true, none, false⟩] },
    { id := "e", name := "Weapon Proficiency (Rifles)", kind := .feat
      slot := some "General Feats" },
    { id := "f", name := "Dodge", kind := .feat, supplier := some ⟨"gone", "Academy"⟩ },
    { id := "f", name := "Scout", kind := .classLevel }]

end Desk

end CharacterSheet
