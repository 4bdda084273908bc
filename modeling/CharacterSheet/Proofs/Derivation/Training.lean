import CharacterSheet.Proofs.Derivation.Composition
import CharacterSheet.Proofs.Derivation.Repeating
import CharacterSheet.Proofs.Text.Folding
import CharacterSheet.Requirement.Basic

/-!
# Training

Training is kept twice: in the set of trained skills of the character, and with each skill on the
stat block. A sheet lists a skill under its lower-cased name and takes its training from the set, so
a block that is up to date says of every skill it lists what the character says. Names that are
padded or listed twice do no harm: only a folded name is looked for, and every entry that is listed
under it is trained alike.
-/

namespace CharacterSheet

/-- Whether a list of skills has one under a key. -/
def Skill.listed (skills : List Skill) (key : String) : Bool := skills.any (·.key = key)

namespace SkillSheet

variable (answer : Question → Answer) (c : Character) (vars : Variables) (terms : Terms)

theorem trained_result_entry (skill : Skill) :
    ((entry c vars terms skill).result answer).trained = c.isTrained skill.key := by
  simp only [entry, Inquiry.result_bind, Inquiry.result_pure]

/-- What a table says of the training of a skill. -/
def trained? (entries : Std.ExtTreeMap String SkillEntry) (key : String) : Option Bool :=
  entries[key]?.map (·.trained)

/-- An entry is trained exactly if its key is, whatever stood under this key before. -/
theorem trained?_insert_entry (entries : Std.ExtTreeMap String SkillEntry) (skill : Skill)
    (key : String) :
    trained? (entries.insert skill.key ((entry c vars terms skill).result answer)) key =
      if skill.key = key then some (c.isTrained key) else trained? entries key := by
  rw [trained?, Std.ExtTreeMap.getElem?_insert]
  by_cases hkey : skill.key = key
  · rw [if_pos hkey, if_pos (Std.LawfulEqCmp.compare_eq_iff_eq.mpr hkey), Option.map_some,
      trained_result_entry, hkey]
  · rw [if_neg hkey, if_neg (mt Std.LawfulEqCmp.compare_eq_iff_eq.mp hkey), trained?]

/-- Once all skills are entered, the table says of those that are listed what the character says,
and of others what it said before. -/
theorem trained?_entriesFrom (entries : Std.ExtTreeMap String SkillEntry) (skills : List Skill)
    (key : String) :
    trained? ((entriesFrom c vars terms entries skills).result answer) key =
      if Skill.listed skills key then some (c.isTrained key) else trained? entries key := by
  induction skills generalizing entries with
  | nil => rfl
  | cons skill rest ih =>
    rw [entriesFrom, Inquiry.result_bind, ih, trained?_insert_entry, Skill.listed, Skill.listed,
      List.any_cons]
    by_cases hkey : skill.key = key <;> simp [hkey]

theorem isTrained_eq (s : SkillSheet) (name : String) :
    s.isTrained name = (trained? s.entries (Text.fold name)).getD false := by
  rw [isTrained, find?, trained?]
  cases s.entries[Text.fold name]? <;> rfl

end SkillSheet

/-- A character is trained in a skill exactly if it is trained in its folded name. -/
theorem Character.isTrained_fold (c : Character) (name : String) :
    c.isTrained (Text.fold name) = c.isTrained name := by
  rw [isTrained, isTrained, Text.fold_fold]

namespace Stats.IsComposed

variable {answer : Question → Answer} {rules : Rules} {skills : List Skill} {c : Character}
  {s : Stats} (h : s.IsComposed answer rules skills c)

include h

theorem trained?_entries (key : String) : SkillSheet.trained? s.skills.entries key =
    if Skill.listed skills key then some (c.isTrained key) else none := by
  rw [h.skills]
  simp only [SkillSheet.inquire, Inquiry.result_bind, Inquiry.result_pure]
  rw [SkillSheet.trained?_entriesFrom]
  rfl

/-- The block says that a skill is trained exactly if the character does and the skill is listed. -/
theorem isTrained_eq (name : String) :
    s.skills.isTrained name = (Skill.listed skills (Text.fold name) && c.isTrained name) := by
  rw [SkillSheet.isTrained_eq, h.trained?_entries, c.isTrained_fold]
  cases Skill.listed skills (Text.fold name) <;> rfl

end Stats.IsComposed

namespace Desk

variable {φ : Type} [DecidableEq φ]

/-- After an update, training in a skill is required exactly of a character that is trained in it:
the block says nothing that the character does not say. And whoever is trained in a Knowledge skill
is trained in some Knowledge skill. -/
theorem isMet_trainedSkill_update_iff (desk : Desk φ) (c : Character) (skill : String) :
    ((Requirement.trainedSkill skill).isMet (desk.update c).1 = true ↔
      (desk.update c).1.isTrained skill = true) ∧
    ((desk.update c).1.stats.skills.isTrained skill = true →
      (desk.update c).1.isTrained skill = true) ∧
    ((Requirement.trainedSkill skill).isMet (desk.update c).1 = true →
      Text.startsWith "knowledge" (Text.fold skill) = true →
      Requirement.anyKnowledgeSkill.isMet (desk.update c).1 = true) := by
  have hblock : (desk.update c).1.stats.skills.isTrained skill = true →
      (desk.update c).1.isTrained skill = true := by
    rw [update_fst, (desk.isComposed_derive c).isTrained_eq, Bool.and_eq_true]
    exact And.right
  have hiff : (Requirement.trainedSkill skill).isMet (desk.update c).1 = true ↔
      (desk.update c).1.isTrained skill = true := by
    rw [Requirement.isMet, Bool.or_eq_true]
    -- what the block holds as trained the character has trained, so the second look-up adds nothing
    exact or_iff_left_of_imp hblock
  refine ⟨hiff, hblock, fun hmet hknowledge => ?_⟩
  have htrained := hiff.mp hmet
  rw [Character.isTrained, Std.ExtTreeSet.contains_iff_mem] at htrained
  rw [Requirement.isMet, List.any_eq_true]
  exact ⟨Text.fold skill, Std.ExtTreeSet.mem_toList.mpr htrained, hknowledge⟩

/-- A character who is trained in tactics. -/
def scholar : Character where
  id := "hero"
  trainedSkills := .ofList ["knowledge (tactics)"]

/-- A desk whose list has tactics twice and once more with blanks around. -/
def careless : Desk Variables :=
  { exact with skills := [⟨"Knowledge (Tactics)", .intelligence, false⟩,
      ⟨" Knowledge (Tactics) ", .wisdom, false⟩, ⟨"KNOWLEDGE (tactics)", .charisma, true⟩] }

/-- A skill is trained under whatever spelling, and any Knowledge skill with it. -/
theorem isMet_trainedSkill_update_iff_scholar :
    (careless.update scholar).1.stats.skills.isTrained " KNOWLEDGE (Tactics)" = true ∧
      (careless.update scholar).1.isTrained " KNOWLEDGE (Tactics)" = true ∧
      Requirement.anyKnowledgeSkill.isMet (careless.update scholar).1 = true := by
  have hblock :
      (careless.update scholar).1.stats.skills.isTrained " KNOWLEDGE (Tactics)" = true := by
    decide +kernel
  obtain ⟨hiff, himp, hknowledge⟩ :=
    isMet_trainedSkill_update_iff careless scholar " KNOWLEDGE (Tactics)"
  have htrained := himp hblock
  exact ⟨hblock, htrained, hknowledge (hiff.mpr htrained) (by decide +kernel)⟩

end Desk

end CharacterSheet
