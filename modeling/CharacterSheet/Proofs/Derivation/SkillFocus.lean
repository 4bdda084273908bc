import CharacterSheet.Proofs.Derivation.DefenseTotals
import CharacterSheet.Proofs.Derivation.Proficiency
import CharacterSheet.Proofs.Derivation.SkillTraining

/-!
# Skill Focus

The stages look for feats by their whole names or by how these begin. Only the stage of the skills
looks for names that begin like Skill Focus, and what stands in the parentheses behind is the key of
one skill. So the feat shows on the list of feats and in the entry of this skill, and nowhere else.
-/

namespace CharacterSheet

/-! ## Feats that only the skills read -/

/-- The feats that are looked for when a character attacks. -/
def Wielder.soughtFeats : List String :=
  ["weapon finesse", "martial arts i", "martial arts ii", "martial arts iii",
    "dual weapon mastery i", "dual weapon mastery ii", "dual weapon mastery iii"]

/-- Strikes depend on the feats that are sought only. -/
theorem Wielder.strikes_of_feats (w : Wielder) {feats : Std.ExtTreeSet String}
    (h : ∀ name ∈ soughtFeats, feats.contains name = w.feats.contains name) (rules : CombatRules)
    (active : List Trait) : { w with feats }.strikes rules active = w.strikes rules active := by
  simp only [soughtFeats, List.forall_mem_cons, List.not_mem_nil, false_implies, implies_true,
    and_true] at h
  obtain ⟨hfinesse, hfirst, hsecond, hthird, hmastery⟩ := h
  -- the feats are read in these four places only, each of them about names that are sought
  have htier : { w with feats }.martialTier = w.martialTier := by
    simp only [martialTier, List.filter, hfirst, hsecond, hthird]
  have hlight : { w with feats }.lightBonus = w.lightBonus := by
    rw [lightBonus, hasFinesse, hfinesse]
    rfl
  have hpenalty : { w with feats }.multiAttackPenalty rules = w.multiAttackPenalty rules := by
    funext proficient
    simp only [multiAttackPenalty, hmastery]
  have hbonus : { w with feats }.weaponBonus rules = w.weaponBonus rules := by
    funext weapon ranged
    simp only [weaponBonus, weaponSum, hlight]
    rfl
  have hunarmed : { w with feats }.unarmedStrike rules = w.unarmedStrike rules := by
    simp only [unarmedStrike, htier, hlight]
  have htraits : { w with feats }.traitStrikes rules = w.traitStrikes rules := by
    funext t
    simp only [traitStrikes, weaponStrikes, normalStrikes, hpenalty, hbonus]
    rfl
  rw [strikes, strikes, hunarmed, htraits]

/-- A feat or talent that no strike seeks changes no attack. -/
theorem Character.attacksWith_learn (c : Character) (s : Stats) (rules : Rules) {kind : TraitKind}
    {name : String} (h : name ∉ Wielder.soughtFeats) (p : Profile) :
    c.attacksWith { s with profile := p.learn kind name } rules =
      c.attacksWith { s with profile := p } rules := by
  have hfeats : ∀ other ∈ Wielder.soughtFeats,
      (p.learn kind name).feats.contains other = p.feats.contains other := by
    intro other hother
    rw [Profile.learn]
    split
    · rw [Text.contains_insert, beq_false_of_ne (ne_of_mem_of_not_mem hother h).symm,
        Bool.false_or]
    · rfl
  exact congrArg (Attack.listed c.id)
    (Wielder.strikes_of_feats { s with profile := p }.wielder hfeats rules.combat c.activeTraits)

/-- A feat or talent that is none for armor changes no defense. -/
theorem Defenses.inquire_learn (c : Character) (p : Profile) {kind : TraitKind}
    (hkind : kind = .feat ∨ kind = .talent) {name : String} (h : name ∉ Defense.armorTalents)
    (condition : ConditionEffect) (scores : Scores) (vars : Variables) :
    inquire c (p.learn kind name) condition scores vars = inquire c p condition scores vars := by
  have htraining : ∀ other ∈ Defense.armorTalents,
      Defense.hasTraining (p.learn kind name) other = Defense.hasTraining p other := by
    intro other hother
    rw [Defense.hasTraining_learn hkind, beq_false_of_ne (ne_of_mem_of_not_mem hother h).symm,
      Bool.false_or]
  simp only [Defense.armorTalents, List.forall_mem_cons, List.not_mem_nil, false_implies,
    implies_true, and_true] at htraining
  have hbonus : Defense.armorBonus (p.learn kind name) = Defense.armorBonus p := by
    funext armor
    rw [Defense.armorBonus, Defense.armorBonus, htraining.1, htraining.2]
    rfl
  simp only [inquire, Defense.reflex, hbonus]
  rfl

/-- Where a plain feat or talent is new that no other stage looks for, only the skills may tell. -/
theorem Stage.alikeButSkills_withTrait (answer : Question → Answer) (rules : Rules) {c : Character}
    {t : Trait} (hbare : t.IsBare) (hnew : c.IsNew t) (hplain : Profile.IsPlain (Text.fold t.name))
    (harmor : Text.fold t.name ∉ Defense.armorTalents)
    (hfeats : Text.fold t.name ∉ Wielder.soughtFeats) (p : Profile) :
    AlikeButSkills answer rules c (c.withTrait t) p (p.learn t.kind (Text.fold t.name)) where
  id := rfl
  warnings := by
    have hpair := Profile.answeredBy_inquire_withTrait hplain rules hbare hnew answer
    rw [Inquiry.answeredBy_eq] at hpair
    exact (Prod.mk.inj hpair).2
  condition := rfl
  vars := rfl
  scores _ := Scores.inquire_withTrait c t _ _
  shields _ := rfl
  defenses condition scores vars := by
    rw [Defenses.inquire_withTrait hbare hnew, Defenses.inquire_learn c p hbare.kind harmor]
  health _ _ := rfl
  offense _ _ _ := Offense.inquire_withTrait hbare hnew _ _ _ _
  attacks s := by
    rw [Character.attacksWith_withTrait hbare hnew, Character.attacksWith_learn c s rules hfeats]

/-! ## The feat -/

namespace SkillSheet

/-- The name of the feat that focuses on a skill. -/
def focusFeat (skill : String) : String := "Skill Focus" ++ (" (" ++ skill ++ ")")

/-- The folded name of a Skill Focus. -/
theorem fold_focusFeat (skill : String) :
    Text.fold (focusFeat skill) = "skill focus" ++ (" (" ++ Text.lower skill ++ ")") := by
  have hne : "Skill Focus".toList ≠ [] := by decide
  have htrimmed : Text.trimStartChars "Skill Focus".toList = "Skill Focus".toList := by decide
  have hlower : Text.lower "Skill Focus" = "skill focus" := by decide +kernel
  rw [focusFeat, Text.fold_parenthesized hne htrimmed, hlower]

/-- What stands in the parentheses is the key of the skill. -/
theorem parenthesized?_focusFeat (skill : String) :
    Profile.parenthesized? "skill focus" (Text.fold (focusFeat skill)) =
      some (Text.fold skill) := by
  rw [fold_focusFeat, Profile.parenthesized?_append, Text.trim_lower_eq_fold]

/-- A name that begins otherwise is not that of a Skill Focus. -/
theorem fold_focusFeat_ne {skill name : String}
    (h : Text.startsWith "skill focus" name = false) : Text.fold (focusFeat skill) ≠ name := by
  rintro rfl
  rw [fold_focusFeat, Text.startsWith_append] at h
  cases h

/-- A Skill Focus is nothing else to a profile. -/
theorem isPlain_focusFeat (skill : String) : Profile.IsPlain (Text.fold (focusFeat skill)) where
  size size := (fold_focusFeat_ne (by cases size <;> decide)).symm
  grants := by
    refine Profile.grant_eq_self fun title htitle => ?_
    have hdiverge : ∀ title ∈ ["weapon proficiency", "armor proficiency", "weapon focus"],
        Text.Diverge title "skill focus" := by decide
    rw [fold_focusFeat]
    exact (hdiverge title htitle).startsWith_append _
  unmerged := fold_focusFeat_ne (by decide)

/-- A Skill Focus is not among names that begin otherwise. -/
theorem fold_focusFeat_not_mem {skill : String} {names : List String}
    (h : ∀ name ∈ names, Text.startsWith "skill focus" name = false) :
    Text.fold (focusFeat skill) ∉ names :=
  fun hmem => fold_focusFeat_ne (h _ hmem) rfl

/-- One more feat focuses on one more skill. -/
theorem contains_focusedByFeats_insert {name key : String}
    (h : Profile.parenthesized? "skill focus" name = some key) (texts : List String)
    (feats : Std.ExtTreeSet String) (other : String) :
    (texts ++ focusedByFeats (feats.insert name)).contains other =
      (key == other || (texts ++ focusedByFeats feats).contains other) := by
  rw [Bool.eq_iff_iff]
  simp only [focusedByFeats, Bool.or_eq_true, beq_iff_eq, List.contains_iff_mem, List.mem_append,
    List.mem_filterMap, Std.ExtTreeSet.mem_toList, Std.ExtTreeSet.mem_insert,
    Std.LawfulEqCmp.compare_eq_iff_eq, or_and_right, exists_or, exists_eq_left', h,
    Option.some.injEq]
  exact or_left_comm

end SkillSheet

/-! ## Focused skills -/

/-- The entry of a skill that is focused on, if it was not focused already, with a bonus that is
added in 32 bits. -/
def SkillEntry.focusedBy (bonus : Int) (e : SkillEntry) : SkillEntry :=
  if e.focus then e else { e with focus := true, value := word (e.value + bonus) }

namespace SkillSheet

variable (answer : Question → Answer) (c : Character)

/-- One more focus changes the entry under its key only. -/
theorem result_entry_focus (vars : Variables) (terms : Terms) {focused : List String} {key : String}
    (hfocused : ∀ other, focused.contains other = (key == other || terms.focused.contains other))
    (skill : Skill) :
    (entry c vars { terms with focused } skill).result answer =
      if skill.key = key then ((entry c vars terms skill).result answer).focusedBy terms.focusBonus
      else (entry c vars terms skill).result answer := by
  by_cases hkey : skill.key = key
  · rw [if_pos hkey]
    simp only [entry, Inquiry.result_bind, Inquiry.result_pure, hfocused, hkey, beq_self_eq_true,
      Bool.true_or]
    -- a focus the rules or a contribution gave already is not added twice
    cases terms.focused.contains key with
    | true => rfl
    | false =>
      simp only [SkillEntry.focusedBy, Bool.false_eq_true, if_true, if_false, SkillEntry.mk.injEq,
        true_and, and_true, word_word_add]
      exact congrArg word (by omega)
  · rw [if_neg hkey]
    simp only [entry, Inquiry.result_bind, Inquiry.result_pure, hfocused,
      beq_false_of_ne (Ne.symm hkey), Bool.false_or]

/-- A new Skill Focus changes the entry under its key only. -/
theorem result_inquire_focus (rules : Rules) (skills : List Skill) (profile : Profile)
    {name key : String} (hname : Profile.parenthesized? "skill focus" name = some key)
    (condition : ConditionEffect) (scores : Scores) (vars : Variables) :
    (inquire rules skills c (profile.learn .feat name) condition scores vars).result answer =
      { (inquire rules skills c profile condition scores vars).result answer with
        entries := ((inquire rules skills c profile condition scores vars).result
          answer).entries.map fun other e =>
            if other = key then e.focusedBy (focusBonus rules profile) else e } := by
  have hentries := result_entriesFrom_map answer c vars
    (sharedTerms answer rules c profile condition scores vars)
    (fun other e => if other = key then e.focusedBy (focusBonus rules profile) else e)
    (result_entry_focus answer c vars _ (contains_focusedByFeats_insert hname _ profile.feats))
    skills
  simp only [inquire, Inquiry.result_bind, Inquiry.result_pure]
  rw [SkillSheet.mk.injEq]
  exact ⟨hentries, rfl, rfl⟩

end SkillSheet

/-- The block with one more feat that focuses on the skill of a key, if there is one: the skill is
focused by the bonus, unless it was before. -/
structure Stats.FocusesOnly (rules : Rules) (feat key : String) (s s' : Stats) : Prop where
  rest : s' = { s with
    profile := { s.profile with feats := s.profile.feats.insert feat }
    skills := { s.skills with entries := s'.skills.entries } }
  entry : s'.skills.entries[key]? =
    s.skills.entries[key]?.map (·.focusedBy (SkillSheet.focusBonus rules s.profile))
  others : ∀ other, other ≠ key → s'.skills.entries[other]? = s.skills.entries[other]?

namespace Stats.IsComposed

variable {answer : Question → Answer} {rules : Rules} {skills : List Skill} {c : Character}
  {t : Trait} {skill : String} {s s' : Stats} (hs : s.IsComposed answer rules skills c)
  (hs' : s'.IsComposed answer rules skills (c.withTrait t)) (hbare : t.IsBare)
  (hkind : t.kind = .feat) (hnew : c.IsNew t)
  (hname : Text.fold t.name = Text.fold (SkillSheet.focusFeat skill))

include hs hs' hbare hkind hnew hname

/-- The profile has learned the feat. -/
theorem profile_focus : s'.profile = s.profile.learn .feat (Text.fold t.name) := by
  have hplain := SkillSheet.isPlain_focusFeat skill
  rw [← hname] at hplain
  rw [← hkind]
  exact (hs.scored_withTrait hs' hbare hnew hplain).1

/-- No other stage has a use for the feat. -/
theorem alike_focus :
    Stage.AlikeButSkills answer rules c (c.withTrait t) s.profile s'.profile := by
  have hplain := SkillSheet.isPlain_focusFeat skill
  have harmor : Text.fold (SkillSheet.focusFeat skill) ∉ Defense.armorTalents :=
    SkillSheet.fold_focusFeat_not_mem (by decide)
  have hfeats : Text.fold (SkillSheet.focusFeat skill) ∉ Wielder.soughtFeats :=
    SkillSheet.fold_focusFeat_not_mem (by decide)
  rw [← hname] at hplain harmor hfeats
  rw [hs.profile_focus hs' hbare hkind hnew hname, ← hkind]
  exact Stage.alikeButSkills_withTrait answer rules hbare hnew hplain harmor hfeats s.profile

/-- Of the skills only the entries may change. -/
theorem skills_focus : s'.skills = { s.skills with
    entries := s.skills.entries.map fun key e =>
      if key = Text.fold skill then e.focusedBy (SkillSheet.focusBonus rules s.profile)
      else e } := by
  obtain ⟨hcondition, hscores, hvars⟩ :=
    hs.scored_alike hs' (hs.alike_focus hs' hbare hkind hnew hname)
  have hkey := SkillSheet.parenthesized?_focusFeat skill
  rw [← hname] at hkey
  rw [hs'.skills, hs.profile_focus hs' hbare hkind hnew hname, hcondition, hscores, hvars,
    SkillSheet.inquire_withTrait rules hbare hnew,
    SkillSheet.result_inquire_focus answer c rules skills s.profile hkey, ← hs.skills]

/-- A new Skill Focus changes nothing but the list of feats and the entry of its skill. -/
theorem focusesOnly (hwarnings : s.warnings = s.stageWarnings answer rules skills c)
    (hwarnings' : s'.warnings = s'.stageWarnings answer rules skills (c.withTrait t)) :
    s.FocusesOnly rules (Text.fold t.name) (Text.fold skill) s' := by
  have hskills := hs.skills_focus hs' hbare hkind hnew hname
  have hentries : ∀ key, s'.skills.entries[key]? = s.skills.entries[key]?.map fun e =>
      if key = Text.fold skill then e.focusedBy (SkillSheet.focusBonus rules s.profile)
      else e := by
    intro key
    rw [hskills]
    exact Std.ExtTreeMap.getElem?_map
  constructor
  case rest =>
    -- apart from the entries the two blocks are one, since no other stage looks for the feat's name
    have hrest := hs.eq_alike hs' (hs.alike_focus hs' hbare hkind hnew hname) hwarnings hwarnings'
    have hsame : s'.skills = { s.skills with entries := s'.skills.entries } := by rw [hskills]
    rw [hs.profile_focus hs' hbare hkind hnew hname, hsame] at hrest
    exact hrest
  case entry => simp only [hentries, if_true]
  case others =>
    intro key hkey
    simp only [hentries, if_neg hkey, Option.map_id']

end Stats.IsComposed

/-! ## At a desk -/

namespace Desk

/-- A character who has not learned anything. -/
def novice : Character := { id := "hero" }

/-- A feat whose name is in mixed case, with blanks inside the parentheses and further ones. -/
def tacticsFocus : Trait :=
  { id := "f", name := "skill FOCUS ( Knowledge (Tactics) )", kind := .feat }

/-- A character who is almost as good at tactics as can be counted. -/
def strategist : Character where
  id := "hero"
  traits := [
    { id := "a", name := "Human", kind := .species
      contributions := [⟨"knowledgeTacticsSkillBonus", .text "2147483645", none, false⟩] }]

end Desk

end CharacterSheet
