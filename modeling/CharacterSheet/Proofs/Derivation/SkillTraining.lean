import CharacterSheet.Proofs.Derivation.BareTraits
import CharacterSheet.Proofs.Derivation.Confined
import CharacterSheet.Proofs.Derivation.SkillEntries
import CharacterSheet.Proofs.Derivation.Training
import CharacterSheet.Proofs.Derivation.Warnings

/-!
# Training in a skill

No stage but that of the skills reads what a character is trained in, and there an entry asks for
the training of its own skill only. So training shows in the entries of the skill and in the
comparison with the number of skills that can be trained, and nowhere else.
-/

namespace CharacterSheet

/-! ## Two characters that differ in skills -/

/-- No stage but that of the skills can tell one character and profile from the other. -/
structure Stage.AlikeButSkills (answer : Question → Answer) (rules : Rules) (c c' : Character)
    (p p' : Profile) : Prop where
  id : c'.id = c.id
  warnings : (Profile.inquire rules c').warnings answer = (Profile.inquire rules c).warnings answer
  condition : ConditionEffect.of rules c' = .of rules c
  vars : p'.vars = p.vars
  scores : ∀ condition, Scores.inquire c' p' condition = Scores.inquire c p condition
  shields : ∀ vars, Shields.inquire c' vars = Shields.inquire c vars
  defenses : ∀ condition scores vars,
    Defenses.inquire c' p' condition scores vars = Defenses.inquire c p condition scores vars
  health : ∀ scores vars, Health.inquire c' p' scores vars = Health.inquire c p scores vars
  offense : ∀ condition scores vars,
    Offense.inquire c' p' condition scores vars = Offense.inquire c p condition scores vars
  attacks : ∀ s : Stats,
    c'.attacksWith { s with profile := p' } rules = c.attacksWith { s with profile := p } rules

namespace Stats.IsComposed

variable {answer : Question → Answer} {rules : Rules} {skills : List Skill} {c c' : Character}
  {s s' : Stats} (hs : s.IsComposed answer rules skills c)
  (hs' : s'.IsComposed answer rules skills c')
  (h : Stage.AlikeButSkills answer rules c c' s.profile s'.profile)

include hs hs' h

/-- The condition and the scores are the same. -/
theorem scored_alike : s'.condition = s.condition ∧ s'.scores = s.scores ∧
    s'.scoreVars = s.scoreVars := by
  have hcondition : s'.condition = s.condition := by rw [hs'.condition, hs.condition, h.condition]
  have hscores : s'.scores = s.scores := by rw [hs'.scores, hs.scores, hcondition, h.scores]
  exact ⟨hcondition, hscores, by rw [scoreVars, scoreVars, hscores, h.vars]⟩

/-- Blocks alike but for the skills agree in all other parts. -/
theorem agreeElsewhere_alike : { s with profile := s'.profile }.AgreeElsewhere .skills s' := by
  obtain ⟨hcondition, hscores, hvars⟩ := hs.scored_alike hs' h
  have hdefenses : s'.defenses = s.defenses := by
    rw [hs'.defenses, hs.defenses, hcondition, hscores, hvars, h.defenses]
  have hoffense : s'.offense = s.offense := by
    rw [hs'.offense, hs.offense, hcondition, hscores, hvars, hdefenses, h.offense]
  constructor
  case profile => rfl
  case condition => exact hcondition.symm
  case scores => exact hscores.symm
  case skills => exact fun hne => absurd rfl hne
  case shields => exact fun _ => by rw [hs'.shields, hs.shields, hvars, h.shields]
  case defenses => exact hdefenses.symm
  case health =>
    exact fun _ => by rw [hs'.health, hs.health, hscores, hvars, hdefenses, h.health]
  case offense => exact hoffense.symm
  case attacks =>
    have hattacks := h.attacks s'
    have hwielder : { s' with profile := s.profile }.wielder = s.wielder := by
      rw [wielder, wielder, hscores, hoffense]
    rw [hs'.attacks, hs.attacks, hattacks, Character.attacksWith, Character.attacksWith, hwielder]
  case vars => rw [hs'.vars, hs.vars, republished, republished, hoffense, hdefenses, hvars]

/-- Neither the training nor what the skills have in common is warned of. -/
theorem stageWarnings_alike :
    s'.stageWarnings answer rules skills c' = s.stageWarnings answer rules skills c := by
  obtain ⟨hcondition, hscores, hvars⟩ := hs.scored_alike hs' h
  have hdefenses : s'.defenses = s.defenses := (hs.agreeElsewhere_alike hs' h).defenses.symm
  have hskills : (SkillSheet.inquire rules skills c' s'.profile s.condition s.scores
        s.scoreVars).warnings answer =
      (SkillSheet.inquire rules skills c s.profile s.condition s.scores s.scoreVars).warnings
        answer := by
    simp only [SkillSheet.inquire, SkillSheet.entry, SkillSheet.warnings_entriesFrom,
      Inquiry.warnings_bind, Inquiry.warnings_pure, h.id]
  rw [stageWarnings, stageWarnings, hcondition, hscores, hvars, hdefenses, hskills, h.warnings,
    h.scores, h.shields, h.defenses, h.health, h.offense]

/-- The blocks of such characters differ in the skills and as the profiles do. -/
theorem eq_alike (hwarnings : s.warnings = s.stageWarnings answer rules skills c)
    (hwarnings' : s'.warnings = s'.stageWarnings answer rules skills c') :
    s' = { s with profile := s'.profile, skills := s'.skills } := by
  have hsame : s'.warnings = s.warnings := by
    rw [hwarnings', hwarnings, hs.stageWarnings_alike hs' h]
  have hskills := (hs.agreeElsewhere_alike hs' h).eq_withSkills
  rw [hsame] at hskills
  exact hskills

end Stats.IsComposed

/-! ## Training -/

/-- The entry of a skill that was trained, with a bonus that is added in 32 bits. -/
def SkillEntry.trainedBy (bonus : Int) (e : SkillEntry) : SkillEntry :=
  { e with trained := true, value := word (e.value + bonus) }

/-- A character is trained in what it trains and in what it was trained in. -/
theorem Character.isTrained_train (c : Character) (name other : String) :
    (c.train name).isTrained other = (Text.fold name == Text.fold other || c.isTrained other) := by
  rw [isTrained, train, Text.contains_insert]
  rfl

/-- No other stage has a use for training. -/
theorem Stage.alikeButSkills_train (answer : Question → Answer) (rules : Rules) (c : Character)
    (name : String) (p : Profile) : AlikeButSkills answer rules c (c.train name) p p where
  id := rfl
  warnings := rfl
  condition := rfl
  vars := rfl
  scores _ := by
    have hscore : Scores.score (c.train name) = Scores.score c := rfl
    exact Scores.inquireFrom_of_score_eq hscore _ _ _ _ _
  shields _ := rfl
  defenses _ _ _ := rfl
  health _ _ := rfl
  offense _ _ _ := rfl
  attacks _ := rfl

namespace SkillSheet

variable (answer : Question → Answer) {c : Character} {name : String}
  (hnew : c.isTrained name = false)

include hnew

/-- Training changes the entries of its skill only. -/
theorem result_entry_train (vars : Variables) (terms : Terms) (skill : Skill) :
    (entry (c.train name) vars terms skill).result answer =
      if Text.fold skill.key = Text.fold name then
        ((entry c vars terms skill).result answer).trainedBy terms.trainedBonus
      else (entry c vars terms skill).result answer := by
  have hid : (c.train name).id = c.id := rfl
  split
  -- an entry whose name is the trained one: one bonus more, added before the sum is wrapped
  · next hkey =>
    have huntrained : c.isTrained skill.key = false := by
      rw [Character.isTrained, hkey]
      exact hnew
    have htrained : (c.train name).isTrained skill.key = true := by
      rw [Character.isTrained_train, hkey, beq_self_eq_true, Bool.true_or]
    simp only [entry, Inquiry.result_bind, Inquiry.result_pure, hid, huntrained, htrained,
      SkillEntry.trainedBy, Bool.false_eq_true, if_true, if_false, SkillEntry.mk.injEq, true_and,
      and_true, word_word_add]
    exact congrArg word (by omega)
  · next hkey =>
    have hsame : (c.train name).isTrained skill.key = c.isTrained skill.key := by
      rw [Character.isTrained_train, beq_false_of_ne (Ne.symm hkey), Bool.false_or]
    simp only [entry, Inquiry.result_bind, Inquiry.result_pure, hid, hsame]

/-- Of the skills only the entries and the comparison of the counts change. -/
theorem result_inquire_train (rules : Rules) (skills : List Skill) (profile : Profile)
    (condition : ConditionEffect) (scores : Scores) (vars : Variables) :
    let sheet := (inquire rules skills c profile condition scores vars).result answer
    (inquire rules skills (c.train name) profile condition scores vars).result answer =
      { sheet with
        entries := sheet.entries.map fun key e =>
          if Text.fold key = Text.fold name then e.trainedBy rules.skills.trainedBonus else e
        allocation := .compare (word (c.train name).trainedSkills.size) sheet.trainable } := by
  have hentries := result_entriesFrom_map answer c vars
    (sharedTerms answer rules c profile condition scores vars)
    (fun key e =>
      if Text.fold key = Text.fold name then e.trainedBy rules.skills.trainedBonus else e)
    (result_entry_train answer hnew vars _) skills
  simp only [inquire, Inquiry.result_bind, Inquiry.result_pure]
  rw [SkillSheet.mk.injEq]
  exact ⟨hentries, rfl, rfl⟩

end SkillSheet

/-- The block after training in a skill. The skills of that name were untrained and are trained by
the bonus of the rules, in 32 bits. -/
structure Stats.TrainsOnly (rules : Rules) (skills : List Skill) (name : String)
    (s s' : Stats) : Prop where
  rest : s' = { s with skills := { s.skills with
    entries := s'.skills.entries, allocation := s'.skills.allocation } }
  entry : ∀ skill ∈ skills, Text.fold skill.name = name → ∃ e,
    s.skills.entries[skill.key]? = some e ∧ e.trained = false ∧
      s'.skills.entries[skill.key]? = some (e.trainedBy rules.skills.trainedBonus)
  others : ∀ key, (∀ skill ∈ skills, skill.key = key → Text.fold skill.name ≠ name) →
    s'.skills.entries[key]? = s.skills.entries[key]?

namespace Stats.IsComposed

variable {answer : Question → Answer} {rules : Rules} {skills : List Skill} {c : Character}
  {name : String} {s s' : Stats} (hs : s.IsComposed answer rules skills c)
  (hs' : s'.IsComposed answer rules skills (c.train name)) (hnew : c.isTrained name = false)

include hs hs'

/-- The profile is the same. -/
theorem profile_train : s'.profile = s.profile := hs'.profile.trans hs.profile.symm

/-- The other stages are asked for in the same way. -/
theorem alike_train : Stage.AlikeButSkills answer rules c (c.train name) s.profile s'.profile := by
  rw [hs.profile_train hs']
  exact Stage.alikeButSkills_train answer rules c name s.profile

include hnew

/-- Of the skills of the block only the entries and the comparison may change. -/
theorem skills_train : s'.skills = { s.skills with
    entries := s.skills.entries.map fun key e =>
      if Text.fold key = Text.fold name then e.trainedBy rules.skills.trainedBonus else e
    allocation := .compare (word (c.train name).trainedSkills.size) s.skills.trainable } := by
  obtain ⟨hcondition, hscores, hvars⟩ := hs.scored_alike hs' (hs.alike_train hs')
  have hsheet := SkillSheet.result_inquire_train answer hnew rules skills s.profile s.condition
    s.scores s.scoreVars
  dsimp only at hsheet
  rw [hs'.skills, hs.profile_train hs', hcondition, hscores, hvars, hsheet, ← hs.skills]

/-- The entries with the name of the skill are trained, the others are the same. -/
theorem getElem?_entries_train (key : String) :
    s'.skills.entries[key]? = s.skills.entries[key]?.map fun e =>
      if Text.fold key = Text.fold name then e.trainedBy rules.skills.trainedBonus else e := by
  rw [hs.skills_train hs' hnew]
  exact Std.ExtTreeMap.getElem?_map

/-- Training in a skill changes nothing but its entries and the comparison of the counts. -/
theorem trainsOnly (hwarnings : s.warnings = s.stageWarnings answer rules skills c)
    (hwarnings' : s'.warnings = s'.stageWarnings answer rules skills (c.train name)) :
    s.TrainsOnly rules skills (Text.fold name) s' := by
  constructor
  case rest =>
    -- apart from entries and allocation the two blocks are one, since only skills ask for training
    have hrest := hs.eq_alike hs' (hs.alike_train hs') hwarnings hwarnings'
    have hsame : s'.skills = { s.skills with
        entries := s'.skills.entries, allocation := s'.skills.allocation } := by
      rw [hs.skills_train hs' hnew]
    rw [hs.profile_train hs', hsame] at hrest
    exact hrest
  case entry =>
    intro skill hskill hname
    have hlisted : Skill.listed skills skill.key = true :=
      List.any_eq_true.mpr ⟨skill, hskill, decide_eq_true rfl⟩
    have hkey : Text.fold skill.key = Text.fold name := (Text.fold_lower _).trans hname
    have htrained := hs.trained?_entries skill.key
    rw [if_pos hlisted, Character.isTrained, hkey] at htrained
    obtain ⟨e, he, huntrained⟩ := Option.map_eq_some_iff.mp htrained
    refine ⟨e, he, huntrained.trans hnew, ?_⟩
    rw [hs.getElem?_entries_train hs' hnew, he, Option.map_some, if_pos hkey]
  case others =>
    intro key hkey
    rw [hs.getElem?_entries_train hs' hnew]
    by_cases hfold : Text.fold key = Text.fold name
    · -- a skill under this key would have the name
      have hunlisted : ¬ Skill.listed skills key = true := by
        rw [Skill.listed, List.any_eq_true]
        rintro ⟨skill, hskill, heq⟩
        rw [decide_eq_true_eq] at heq
        rw [← heq] at hfold
        exact hkey skill hskill heq ((Text.fold_lower _).symm.trans hfold)
      have htrained := hs.trained?_entries key
      rw [if_neg hunlisted, SkillSheet.trained?, Option.map_eq_none_iff] at htrained
      rw [htrained, Option.map_none]
    · simp only [if_neg hfold, Option.map_id']

end Stats.IsComposed

end CharacterSheet
