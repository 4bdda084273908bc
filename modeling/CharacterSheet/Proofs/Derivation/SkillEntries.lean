import CharacterSheet.Proofs.Derivation.Composition
import CharacterSheet.Proofs.Derivation.Inputs

/-!
# Skills side by side

A skill is entered under its own key and from what it has in common with the others, so the entries
of a list without repeated keys do not hang on one another. Another list changes nothing else on a
stat block but the warnings, to which each skill adds its own.
-/

namespace CharacterSheet

namespace Skill

/-- A list is accepted exactly if no two of its skills have the same key. -/
theorem checkDistinct_eq_ok_iff (seen : List String) (skills : List Skill) :
    checkDistinct seen skills = .ok () ↔
      (skills.map key).Nodup ∧ ∀ s ∈ skills, s.key ∉ seen := by
  induction skills generalizing seen with
  | nil => simp [checkDistinct]
  | cons s rest ih =>
    rw [checkDistinct]
    -- the first skill is rejected for a key seen before, or its key is one more to avoid
    by_cases hseen : s.key ∈ seen
    · rw [if_pos (List.contains_iff_mem.mpr hseen)]
      simp [hseen]
    · rw [if_neg (mt List.contains_iff_mem.mp hseen), ih]
      simp only [List.map_cons, List.nodup_cons, List.mem_map, List.mem_cons, not_or, not_exists,
        not_and, forall_eq_or_imp]
      constructor
      · rintro ⟨hnodup, hrest⟩
        exact ⟨⟨fun t ht => (hrest t ht).1, hnodup⟩, hseen, fun t ht => (hrest t ht).2⟩
      · rintro ⟨⟨hs, hnodup⟩, -, hrest⟩
        exact ⟨hnodup, fun t ht => ⟨hs t ht, hrest t ht⟩⟩

/-- A list of skills is accepted if no key stands twice. -/
theorem validate_eq_ok_iff (skills : List Skill) :
    validate skills = .ok skills ↔ (skills.map key).Nodup := by
  have h := checkDistinct_eq_ok_iff [] skills
  simp only [List.not_mem_nil, not_false_eq_true, implies_true, and_true] at h
  rw [← h, validate]
  cases checkDistinct [] skills <;> simp [Except.map]

end Skill

namespace SkillSheet

variable (answer : Question → Answer) (c : Character) (vars : Variables) (terms : Terms)

/-- An entry is labelled with the name of its skill. -/
theorem label_result_entry (s : Skill) :
    ((entry c vars terms s).result answer).label = s.name := by
  simp only [entry, Inquiry.result_bind, Inquiry.result_pure]

/-- An entry has the ability of its skill. -/
theorem ability_result_entry (s : Skill) :
    ((entry c vars terms s).result answer).ability = s.ability := by
  simp only [entry, Inquiry.result_bind, Inquiry.result_pure]

/-- An entry under a key that is not listed stays. -/
theorem getElem?_entriesFrom_of_not_mem (entries : Std.ExtTreeMap String SkillEntry)
    {skills : List Skill} {key : String} (h : key ∉ skills.map Skill.key) :
    ((entriesFrom c vars terms entries skills).result answer)[key]? = entries[key]? := by
  induction skills generalizing entries with
  | nil => rfl
  | cons s rest ih =>
    rw [List.map_cons, List.mem_cons, not_or] at h
    rw [entriesFrom, Inquiry.result_bind, ih _ h.2, Std.ExtTreeMap.getElem?_insert]
    simp [Ne.symm h.1]

/-- Where no key is repeated, the entry that a skill is given is not overwritten. -/
theorem getElem?_entriesFrom_of_mem (entries : Std.ExtTreeMap String SkillEntry)
    {skills : List Skill} (hnodup : (skills.map Skill.key).Nodup) {s : Skill} (hs : s ∈ skills) :
    ((entriesFrom c vars terms entries skills).result answer)[s.key]? =
      some ((entry c vars terms s).result answer) := by
  induction skills generalizing entries with
  | nil => cases hs
  | cons t rest ih =>
    obtain ⟨hfresh, hrest⟩ := List.nodup_cons.mp hnodup
    rw [entriesFrom, Inquiry.result_bind]
    rcases List.mem_cons.mp hs with rfl | hs
    · rw [getElem?_entriesFrom_of_not_mem answer c vars terms _ hfresh,
        Std.ExtTreeMap.getElem?_insert_self]
    · exact ih _ hrest hs

/-- The keys of the entries are those of the skills, if no key stands twice. -/
theorem keys_entriesFrom_perm {skills : List Skill} (hnodup : (skills.map Skill.key).Nodup) :
    ((entriesFrom c vars terms ∅ skills).result answer).keys.Perm (skills.map Skill.key) := by
  have hkeys : ((entriesFrom c vars terms ∅ skills).result answer).keys.Nodup :=
    Std.ExtTreeMap.distinct_keys.imp fun hne heq => hne (Std.LawfulEqCmp.compare_eq_iff_eq.mpr heq)
  rw [List.perm_ext_iff_of_nodup hkeys hnodup]
  intro key
  rw [Std.ExtTreeMap.mem_keys, Std.ExtTreeMap.mem_iff_isSome_getElem?]
  constructor
  · intro hsome
    by_contra hkey
    rw [getElem?_entriesFrom_of_not_mem answer c vars terms ∅ hkey] at hsome
    cases hsome
  · intro hkey
    obtain ⟨s, hs, rfl⟩ := List.mem_map.mp hkey
    rw [getElem?_entriesFrom_of_mem answer c vars terms ∅ hnodup hs]
    rfl

/-- The same skills in another order have the same entries. -/
theorem entriesFrom_congr_perm {skills skills' : List Skill} (h : skills.Perm skills')
    (hnodup : (skills.map Skill.key).Nodup) :
    (entriesFrom c vars terms ∅ skills).result answer =
      (entriesFrom c vars terms ∅ skills').result answer := by
  have hkeys := h.map Skill.key
  ext1 key
  by_cases hkey : key ∈ skills.map Skill.key
  · obtain ⟨s, hs, rfl⟩ := List.mem_map.mp hkey
    rw [getElem?_entriesFrom_of_mem answer c vars terms ∅ hnodup hs,
      getElem?_entriesFrom_of_mem answer c vars terms ∅ (hkeys.nodup_iff.mp hnodup)
        (h.mem_iff.mp hs)]
  · rw [getElem?_entriesFrom_of_not_mem answer c vars terms ∅ hkey,
      getElem?_entriesFrom_of_not_mem answer c vars terms ∅ (mt hkeys.mem_iff.mpr hkey)]

/-- Each skill warns of its own contributions, whatever skills were entered before it. -/
theorem warnings_entriesFrom (entries : Std.ExtTreeMap String SkillEntry) (skills : List Skill) :
    (entriesFrom c vars terms entries skills).warnings answer =
      skills.flatMap fun s => (entry c vars terms s).warnings answer := by
  induction skills generalizing entries with
  | nil => rfl
  | cons s rest ih => rw [entriesFrom, Inquiry.warnings_bind, ih, List.flatMap_cons]

/-- Where every skill gets another entry by one rule, the table is the other one by this rule. -/
theorem result_entriesFrom_map {c' : Character} {vars' : Variables} {terms' : Terms}
    (f : String → SkillEntry → SkillEntry)
    (hentry : ∀ s, (entry c' vars' terms' s).result answer =
      f s.key ((entry c vars terms s).result answer)) (skills : List Skill) :
    (entriesFrom c' vars' terms' ∅ skills).result answer =
      ((entriesFrom c vars terms ∅ skills).result answer).map f := by
  have hempty : (∅ : Std.ExtTreeMap String SkillEntry).map f = ∅ := by
    ext1 key
    simp
  have hinsert : ∀ (entries : Std.ExtTreeMap String SkillEntry) key e,
      (entries.insert key e).map f = (entries.map f).insert key (f key e) := by
    intro entries key e
    ext1 other
    simp only [Std.ExtTreeMap.getElem?_map, Std.ExtTreeMap.getElem?_insert]
    split
    · next heq => rw [Std.LawfulEqCmp.eq_of_compare heq, Option.map_some]
    · rfl
  -- generalized over the entries so far, which are mapped as well
  have hfrom : ∀ entries, (entriesFrom c' vars' terms' (entries.map f) skills).result answer =
      ((entriesFrom c vars terms entries skills).result answer).map f := by
    induction skills with
    | nil => exact fun _ => rfl
    | cons s rest ih =>
      intro entries
      rw [entriesFrom, entriesFrom, Inquiry.result_bind, Inquiry.result_bind, hentry, ← hinsert, ih]
  rw [← hfrom, hempty]

end SkillSheet

/-! ## Warnings around a part -/

namespace Inquiry

variable {ι α β : Type} {answer : Question → Answer}

/-- The inquiries of a family warn of the same before and behind what each warns of on its own. -/
def WarnsAround (answer : Question → Answer) (x : ι → Inquiry α) (own : ι → List String) : Prop :=
  ∃ before behind, ∀ i, (x i).warnings answer = before ++ (own i ++ behind)

/-- An inquiry that gives its own warnings only gives none around them. -/
theorem WarnsAround.of_warnings {x : ι → Inquiry α} {own : ι → List String}
    (h : ∀ i, (x i).warnings answer = own i) : WarnsAround answer x own :=
  ⟨[], [], fun i => by rw [h, List.append_nil, List.nil_append]⟩

/-- All of the family come behind the same inquiry. -/
theorem WarnsAround.bind_left (x : Inquiry α) {next : ι → α → Inquiry β} {own : ι → List String}
    (h : WarnsAround answer (fun i => next i (x.result answer)) own) :
    WarnsAround answer (fun i => x >>= next i) own := by
  obtain ⟨before, behind, h⟩ := h
  exact ⟨x.warnings answer ++ before, behind, fun i => by
    rw [warnings_bind, h, List.append_assoc]⟩

/-- All of the family come before inquiries that warn of the same. -/
theorem WarnsAround.bind_right [Inhabited ι] {x : ι → Inquiry α} {own : ι → List String}
    (h : WarnsAround answer x own) {next : α → Inquiry β}
    (hnext : ∀ a a', (next a).warnings answer = (next a').warnings answer) :
    WarnsAround answer (fun i => x i >>= next) own := by
  obtain ⟨before, behind, h⟩ := h
  refine ⟨before, behind ++ (next ((x default).result answer)).warnings answer, fun i => ?_⟩
  rw [warnings_bind, h, hnext _ ((x default).result answer), List.append_assoc, List.append_assoc]

end Inquiry

/-! ## Sheets -/

namespace SkillSheet

variable (answer : Question → Answer) (rules : Rules) (c : Character) (profile : Profile)
  (condition : ConditionEffect) (scores : Scores) (vars : Variables)

/-- What the skills of a sheet have in common, once the questions about it are answered. -/
def sharedTerms : Terms where
  halfLevel := profile.halfLevel
  scores := scores
  conditionPenalty := condition.penalty
  general := (Standpoint.sum ⟨c.id, .skills, vars⟩ "skillBonus" .all).result answer
  trainedBonus := rules.skills.trainedBonus
  focusBonus := focusBonus rules profile
  physicalPenalty := word (profile.armorPenalty c + loadPenalty rules c scores)
  focused := (Standpoint.texts ⟨c.id, .skills, vars⟩ "skillFocus" .all).result answer ++
    focusedByFeats profile.feats

/-- The entries are asked for one after the other, from the same terms. -/
theorem entries_result_inquire (skills : List Skill) :
    ((inquire rules skills c profile condition scores vars).result answer).entries =
      (entriesFrom c vars (sharedTerms answer rules c profile condition scores vars) ∅
        skills).result answer := by
  simp only [inquire, Inquiry.result_bind, Inquiry.result_pure]
  rfl

/-- Apart from the entries and the count of them, the skills do not depend on the list. -/
theorem result_inquire_congr (skills skills' : List Skill) :
    { (inquire rules skills c profile condition scores vars).result answer with entries := ∅ } =
      { (inquire rules skills' c profile condition scores vars).result answer with
        entries := ∅ } := by
  simp only [inquire, Inquiry.result_bind, Inquiry.result_pure]

/-- Whatever skills are listed, a sheet warns of the same before and behind what they warn of. -/
theorem warnsAround_inquire : ∃ own : Skill → List String, Inquiry.WarnsAround answer
    (fun skills => inquire rules skills c profile condition scores vars)
    fun skills => skills.flatMap own := by
  have hentries := fun skills => warnings_entriesFrom answer c vars
    (sharedTerms answer rules c profile condition scores vars) ∅ skills
  refine ⟨_, .bind_left _ (.bind_left _ (.bind_right (.of_warnings hentries) fun _ _ => ?_))⟩
  simp only [Inquiry.warnings_bind, Inquiry.warnings_pure]

end SkillSheet

/-! ## Blocks -/

/-- The block without the entries of its skills and without its warnings. -/
def Stats.withoutSkillEntries (s : Stats) : Stats :=
  { s with skills := { s.skills with entries := ∅ }, warnings := [] }

/-- The block lists the skills: each under its key with its name and its ability, and no other. -/
structure Stats.Lists (skills : List Skill) (s : Stats) : Prop where
  keys : s.skills.entries.keys.Perm (skills.map Skill.key)
  entries : ∀ skill ∈ skills, ∃ entry, s.skills.entries[skill.key]? = some entry ∧
    entry.label = skill.name ∧ entry.ability = skill.ability

section Blocks

variable {answer : Question → Answer} {rules : Rules} {skills skills' : List Skill}
  {c : Character} {s s' : Stats}

/-- What comes before the skills does not depend on the list. -/
theorem Stats.IsComposed.scored_eq (h : s.IsComposed answer rules skills c)
    (h' : s'.IsComposed answer rules skills' c) :
    s.profile = s'.profile ∧ s.condition = s'.condition ∧ s.scores = s'.scores ∧
      s.scoreVars = s'.scoreVars := by
  have hprofile : s.profile = s'.profile := h.profile.trans h'.profile.symm
  have hcondition : s.condition = s'.condition := h.condition.trans h'.condition.symm
  have hscores : s.scores = s'.scores := by rw [h.scores, h'.scores, hprofile, hcondition]
  exact ⟨hprofile, hcondition, hscores, by rw [scoreVars, scoreVars, hscores, hprofile]⟩

/-- Blocks of one character that list different skills agree in all else. -/
theorem Stats.IsComposed.withoutSkillEntries_eq (h : s.IsComposed answer rules skills c)
    (h' : s'.IsComposed answer rules skills' c) :
    s.withoutSkillEntries = s'.withoutSkillEntries := by
  obtain ⟨hprofile, hcondition, hscores, hscoreVars⟩ := h.scored_eq h'
  have hskills : { s.skills with entries := ∅ } = { s'.skills with entries := ∅ } := by
    rw [h.skills, h'.skills, hprofile, hcondition, hscores, hscoreVars]
    exact SkillSheet.result_inquire_congr _ _ _ _ _ _ _ _ _
  have hshields : s.shields = s'.shields := by rw [h.shields, h'.shields, hscoreVars]
  have hdefenses : s.defenses = s'.defenses := by
    rw [h.defenses, h'.defenses, hprofile, hcondition, hscores, hscoreVars]
  have hhealth : s.health = s'.health := by
    rw [h.health, h'.health, hprofile, hscores, hdefenses, hscoreVars]
  have hoffense : s.offense = s'.offense := by
    rw [h.offense, h'.offense, hprofile, hcondition, hscores, hdefenses, hscoreVars]
  -- the attacks read the rest of the block through the wielder, which no skill enters
  have hattacks : s.attacks = s'.attacks := by
    rw [h.attacks, h'.attacks, Character.attacksWith, Character.attacksWith, wielder, wielder,
      hprofile, hscores, hoffense]
  have hvars : s.vars = s'.vars := by
    rw [h.vars, h'.vars, republished, republished, hoffense, hdefenses, hscoreVars]
  simp only [withoutSkillEntries, hprofile, hcondition, hscores, hskills, hshields, hdefenses,
    hhealth, hoffense, hattacks, hvars]

/-- The entries of such blocks are made from the same terms. -/
theorem Stats.IsComposed.entries_eq (h : s.IsComposed answer rules skills c)
    (h' : s'.IsComposed answer rules skills' c) :
    ∃ terms, s.skills.entries =
        (SkillSheet.entriesFrom c s.scoreVars terms ∅ skills).result answer ∧
      s'.skills.entries =
        (SkillSheet.entriesFrom c s.scoreVars terms ∅ skills').result answer := by
  obtain ⟨hprofile, hcondition, hscores, hscoreVars⟩ := h.scored_eq h'
  refine ⟨SkillSheet.sharedTerms answer rules c s.profile s.condition s.scores s.scoreVars, ?_, ?_⟩
  · rw [h.skills, SkillSheet.entries_result_inquire]
  · rw [h'.skills, SkillSheet.entries_result_inquire, ← hprofile, ← hcondition, ← hscores,
      ← hscoreVars]

/-- Each skill is listed under its key with its name and its ability, and nothing else is. -/
theorem Stats.IsComposed.lists (h : s.IsComposed answer rules skills c)
    (hnodup : (skills.map Skill.key).Nodup) : s.Lists skills := by
  obtain ⟨terms, hentries, -⟩ := h.entries_eq h
  constructor
  · rw [hentries]
    exact SkillSheet.keys_entriesFrom_perm _ _ _ _ hnodup
  · intro skill hskill
    rw [hentries]
    exact ⟨_, SkillSheet.getElem?_entriesFrom_of_mem _ _ _ _ _ hnodup hskill,
      SkillSheet.label_result_entry _ _ _ _ _, SkillSheet.ability_result_entry _ _ _ _ _⟩

/-- The warnings of a derivation are those of its skills, with others around that do not depend on
the list. -/
theorem Stats.warnsAround_inquire (answer : Question → Answer) (rules : Rules) (c : Character) :
    ∃ own : Skill → List String, Inquiry.WarnsAround answer
      (fun skills => Stats.inquire rules skills c) fun skills => skills.flatMap own := by
  unfold Stats.inquire
  cases hscored : (Scores.inquire c ((Profile.inquire rules c).result answer)
    (ConditionEffect.of rules c)).result answer with
  | mk scores vars =>
    obtain ⟨own, hsheet⟩ := SkillSheet.warnsAround_inquire answer rules c
      ((Profile.inquire rules c).result answer) (ConditionEffect.of rules c) scores vars
    refine ⟨own, .bind_left _ (.bind_left _ ?_)⟩
    simp only [hscored]
    refine hsheet.bind_right fun _ _ => ?_
    simp only [Inquiry.warnings_bind, Inquiry.warnings_pure]

end Blocks

/-! ## At a desk -/

namespace Desk

variable {φ : Type} [DecidableEq φ]

/-- What a desk derives for a character when it lists the given skills. -/
def deriveListing (desk : Desk φ) (c : Character) (skills : List Skill) : Derivation :=
  ({ desk with skills }.derive c).1

/-- A character with a bonus to computers that cannot be read. -/
def slicer : Character where
  id := "hero"
  trainedSkills := .ofList ["use computer"]
  traits := [
    { id := "t", name := "Gimmick", kind := .talent
      contributions := [⟨"useComputerSkillBonus", .text "lots", none, false⟩] }]

end Desk

end CharacterSheet
