import CharacterSheet.Proofs.Derivation.Asked
import CharacterSheet.Proofs.Derivation.Loss
import CharacterSheet.Proofs.Stats.Annotation

/-!
# A bad contribution loses only its own key

A number or a list of factors that cannot be resolved is left out of the stat block as if nobody
contributed under its key: apart from tips and warnings the block is that of the character without
these contributions, and there is one warning more for each read of the key.
-/

namespace CharacterSheet

open Inquiry (Loses)

/-! ## Keys -/

/-- The keys whose contributions reduce to a number. -/
def numberKeys (skills : List Skill) : List String :=
  Ability.all.map Ability.bonusKey ++ skills.map Skill.bonusKey ++
    ["skillBonus", "classTrainedSkills", "trainedSkills", "shieldRating", "shieldRatingBonus",
      "reflexDefenseClassBonus", "reflexDefenseBonus", "fortitudeDefenseClassBonus",
      "fortitudeDefenseBonus", "willDefenseClassBonus", "willDefenseBonus", "damageThresholdBonus",
      "hitPoints", "hitPointBonus", "baseAttackBonus"]

/-- The keys whose contributions are factors. -/
def factorKeys : List String := ["damageThresholdHardenedMultiplier", "healthMultiplier"]

/-- The keys that are read for something else than a number or a factor. -/
def otherKeys : List String :=
  ["isNonheroic", "isDroid", "size", "weaponProficiency", "armorProficiency", "weaponFocus",
    "provides", "skillFocus"]

/-- A key of numbers or factors is read in no other way. -/
theorem not_mem_otherKeys {skills : List Skill} {key : String}
    (h : key ∈ numberKeys skills ++ factorKeys) : key ∉ otherKeys := by
  have hfixed : ∀ k ∈ Ability.all.map Ability.bonusKey ++ numberKeys [] ++ factorKeys,
      k ∉ otherKeys := by decide
  -- the keys of skills are not listed, but end as none of the other keys does
  have hskill : ∀ k ∈ otherKeys, Reading.isSkillKey k = false := by decide
  simp only [numberKeys, List.mem_append] at h
  rcases h with ((h | h) | h) | h
  · exact hfixed key (by simp [h])
  · obtain ⟨skill, -, rfl⟩ := List.mem_map.mp h
    intro hmem
    have := hskill _ hmem
    rw [skill.isSkillKey_bonusKey] at this
    cases this
  · exact hfixed key (by simp only [numberKeys, List.mem_append]; exact .inl (.inr (.inr h)))
  · exact hfixed key (by simp [h])

/-! ## Stages -/

section Stages

variable {key : String} (hkey : key ∉ otherKeys) {traits : List Trait} (rules : Rules)
  (c : Character) (profile : Profile) (condition : ConditionEffect)

include hkey

/-- The key is not the one that makes a level nonheroic. -/
theorem ne_isNonheroic : key ≠ "isNonheroic" := by
  rintro rfl
  exact hkey (by decide)

/-- The profile loses nothing. -/
theorem Profile.loses :
    Loses key traits Eq (Profile.inquire rules c) (Profile.inquire rules c) := by
  apply Loses.of_ne (ne_isNonheroic hkey)
  intro q hq heq
  apply hkey
  rw [Profile.questions_inquire] at hq
  rw [← heq]
  revert q
  simp [otherKeys]

/-- Scores that agree up to their tips, with the same roll variables. -/
def Scores.Agree (s s' : Scores × Variables) : Prop := s.1.untipped = s'.1.untipped ∧ s.2 = s'.2

/-- A score loses its tip at most. -/
theorem Scores.loses_score (isDroid : Bool) (penalty : Int) (vars : Variables) (a : Ability) :
    Loses key traits (fun s s' => s.untipped = s'.untipped)
      (Scores.score c isDroid penalty vars a) (Scores.score c isDroid penalty vars a) := by
  unfold Scores.score
  refine Loses.bind_eq (Loses.of_ne (ne_isNonheroic hkey) (Scores.base c a) ?_) fun base => ?_
  · simp [Scores.questions_base]
  refine Loses.bind_eq (Standpoint.loses_sum _ (ne_isNonheroic hkey) _ _) fun bonus => ?_
  refine Loses.bind (Standpoint.loses_summary _ _ _) fun sources sources' _ => ?_
  apply Loses.pure
  split <;> rfl

/-- The scores lose their tips at most. -/
theorem Scores.loses_inquireFrom (isDroid : Bool) (penalty : Int) {scores scores' : Scores}
    (hscores : scores.untipped = scores'.untipped) (vars : Variables) (abilities : List Ability) :
    Loses key traits Scores.Agree
      (Scores.inquireFrom c isDroid penalty scores vars abilities)
      (Scores.inquireFrom c isDroid penalty scores' vars abilities) := by
  induction abilities generalizing scores scores' vars with
  | nil => exact Loses.pure ⟨hscores, rfl⟩
  | cons a rest ih =>
    unfold Scores.inquireFrom
    refine Loses.bind (Scores.loses_score hkey c isDroid penalty vars a) fun s s' hs => ?_
    have hmodifier : s.modifier = s'.modifier := congrArg (·.modifier) hs
    rw [hmodifier]
    exact ih (by rw [Scores.untipped_insert, Scores.untipped_insert, hscores, hs]) _

/-- The scores lose their tips at most, starting from none. -/
theorem Scores.loses :
    Loses key traits Scores.Agree (Scores.inquire c profile condition)
      (Scores.inquire c profile condition) :=
  Scores.loses_inquireFrom hkey c _ _ rfl _ _

/-- The entries of skills lose their tips at most. -/
theorem SkillSheet.loses_entriesFrom (vars : Variables) (terms : SkillSheet.Terms)
    {entries entries' : Std.ExtTreeMap String SkillEntry}
    (h : entries.map (fun _ e => e.untipped) = entries'.map fun _ e => e.untipped)
    (skills : List Skill) :
    Loses key traits (fun e e' => e.map (fun _ e => e.untipped) = e'.map fun _ e => e.untipped)
      (SkillSheet.entriesFrom c vars terms entries skills)
      (SkillSheet.entriesFrom c vars terms entries' skills) := by
  -- induction on the skills still to be entered; the sheets so far differ in the tips alone
  induction skills generalizing entries entries' with
  | nil => exact Loses.pure h
  | cons skill rest ih =>
    unfold SkillSheet.entriesFrom
    refine Loses.bind (R := fun e e' => e.untipped = e'.untipped) ?_ fun e e' he =>
      ih (SkillSheet.untipped_entries_insert h _ he)
    unfold SkillSheet.entry
    refine Loses.bind_eq (Standpoint.loses_sum _ (ne_isNonheroic hkey) _ _) fun specific => ?_
    refine Loses.bind (Standpoint.loses_summary _ _ _) fun tip tip' _ => ?_
    exact Loses.pure rfl

/-- The skills lose their tips at most. -/
theorem SkillSheet.loses (skills : List Skill) (scores : Scores) (vars : Variables) :
    Loses key traits (fun s s' => s.untipped = s'.untipped)
      (SkillSheet.inquire rules skills c profile condition scores vars)
      (SkillSheet.inquire rules skills c profile condition scores vars) := by
  have hne := ne_isNonheroic hkey
  unfold SkillSheet.inquire
  refine Loses.bind_eq (Standpoint.loses_sum _ hne _ _) fun general => ?_
  have hfocus : "skillFocus" ≠ key := by
    rintro rfl
    exact hkey (by decide)
  refine Loses.bind_eq (Loses.of_single_ne hne (Standpoint.questions_texts _ _ _ _) hfocus)
    fun focused => ?_
  refine Loses.bind (SkillSheet.loses_entriesFrom hkey c vars _ rfl skills) fun e e' he => ?_
  refine Loses.bind_eq (Standpoint.loses_max _ hne _ _) fun classBase => ?_
  refine Loses.bind_eq (Standpoint.loses_sum _ hne _ _) fun extra => ?_
  exact Loses.pure (by simp only [SkillSheet.untipped, he])

/-- The shields lose nothing. -/
theorem Shields.loses (vars : Variables) :
    Loses key traits Eq (Shields.inquire c vars) (Shields.inquire c vars) := by
  have hne := ne_isNonheroic hkey
  unfold Shields.inquire
  refine Loses.bind_eq (Standpoint.loses_max _ hne _ _) fun rating => ?_
  refine Loses.bind_eq (Standpoint.loses_sum _ hne _ _) fun bonus => ?_
  exact Loses.pure rfl

/-- What all defenses have in common loses its tip at most. -/
theorem Defense.loses_common (here : Standpoint) (penalty : Int) (name : String) :
    Loses key traits (fun d d' => d.untipped = d'.untipped)
      (Defense.common here penalty name) (Defense.common here penalty name) := by
  have hne := ne_isNonheroic hkey
  unfold Defense.common
  refine Loses.bind_eq (Standpoint.loses_max _ hne _ _) fun classBonus => ?_
  refine Loses.bind_eq (Standpoint.loses_sum _ hne _ _) fun misc => ?_
  refine Loses.bind (Standpoint.loses_summary _ _ _) fun tip tip' _ => ?_
  exact Loses.pure rfl

/-- The defenses lose their tips at most. -/
theorem Defenses.loses (scores : Scores) (vars : Variables) :
    Loses key traits (fun d d' => d.untipped = d'.untipped)
      (Defenses.inquire c profile condition scores vars)
      (Defenses.inquire c profile condition scores vars) := by
  have hne := ne_isNonheroic hkey
  unfold Defenses.inquire
  refine Loses.bind (Defense.loses_common hkey _ _ _) fun reflex reflex' hreflex => ?_
  refine Loses.bind (Defense.loses_common hkey _ _ _) fun fortitude fortitude' hfortitude => ?_
  refine Loses.bind (Defense.loses_common hkey _ _ _) fun will will' hwill => ?_
  refine Loses.bind_eq (Standpoint.loses_sum _ hne _ _) fun bonus => ?_
  have hreflex := Defense.untipped_reflex_congr hreflex profile scores c.wornArmor?
  have hfortitude := Defense.untipped_fortitude_congr hfortitude profile scores c.wornArmor?
  have hwill := Defense.untipped_will_congr hwill profile scores
  -- the damage threshold reads the fortitude total, which has no tip
  have htotal := congrArg Defense.total hfortitude
  simp only [Defense.total_untipped] at htotal
  rw [htotal]
  refine Loses.bind_eq (Standpoint.loses_scaled _ hne _ _) fun threshold => ?_
  apply Loses.pure
  simp only [Defenses.untipped, hreflex, hfortitude, hwill,
    Defense.untipped_flatFooted_congr hreflex]

/-- The hit points lose nothing. -/
theorem Health.loses (scores : Scores) (vars : Variables) :
    Loses key traits Eq (Health.inquire c profile scores vars)
      (Health.inquire c profile scores vars) := by
  have hne := ne_isNonheroic hkey
  unfold Health.inquire
  refine Loses.bind_eq (Standpoint.loses_sum _ hne _ _) fun rolled => ?_
  refine Loses.bind_eq (Standpoint.loses_sum _ hne _ _) fun bonus => ?_
  refine Loses.bind_eq (Standpoint.loses_scaled _ hne _ _) fun scaled => ?_
  exact Loses.pure rfl

/-- The attack bonuses lose nothing. -/
theorem Offense.loses (scores : Scores) (vars : Variables) :
    Loses key traits Eq (Offense.inquire c profile condition scores vars)
      (Offense.inquire c profile condition scores vars) := by
  have hne := ne_isNonheroic hkey
  unfold Offense.inquire
  refine Loses.bind_eq (Standpoint.loses_sum _ hne _ _) fun base => ?_
  exact Loses.pure rfl

/-- Two runs of the whole derivation agree up to tips. -/
theorem Stats.loses (skills : List Skill) :
    Loses key traits (fun s s' => s.unannotated = s'.unannotated)
      (Stats.inquire rules skills c) (Stats.inquire rules skills c) := by
  unfold Stats.inquire
  refine Loses.bind_eq (Profile.loses hkey rules c) fun profile => ?_
  refine Loses.bind (Scores.loses hkey c profile _) ?_
  rintro ⟨scores, vars⟩ ⟨scores', vars'⟩ ⟨hscores, hvars⟩
  dsimp only at hscores hvars ⊢
  subst hvars
  -- the later stages read totals and modifiers of the abilities, which the tips leave the same
  rw [SkillSheet.inquire_congr hscores, Defenses.inquire_congr hscores]
  refine Loses.bind (SkillSheet.loses hkey rules c profile _ skills scores' vars)
    fun sheet sheet' hsheet => ?_
  refine Loses.bind_eq (Shields.loses hkey c vars) fun shields => ?_
  refine Loses.bind (Defenses.loses hkey c profile _ scores' vars)
    fun defenses defenses' hdefenses => ?_
  rw [Defenses.publish_congr hdefenses, Health.inquire_congr hscores,
    Offense.inquire_congr hscores]
  refine Loses.bind_eq (Health.loses hkey c profile scores' _) fun health => ?_
  refine Loses.bind_eq (Offense.loses hkey c profile _ scores' _) fun offense => ?_
  have hstats :
      ({ profile, condition := .of rules c, scores, skills := sheet, shields, defenses, health,
         offense, vars := offense.publish (defenses'.publish vars) } : Stats).unannotated =
      ({ profile, condition := .of rules c, scores := scores', skills := sheet', shields,
         defenses := defenses', health, offense,
         vars := offense.publish (defenses'.publish vars) } : Stats).unannotated := by
    simp only [Stats.unannotated, hscores, hsheet, hdefenses]
  exact Loses.pure (Stats.unannotated_attacks_congr hstats c rules)

end Stages

/-! ## The stat block without a key -/

/-- The character without the contributions of its traits under a key. -/
def Character.withoutKey (c : Character) (key : String) : Character :=
  c.mapTraits (Trait.withoutKey key)

/-- Up to annotations a derivation has the block that was asked for. -/
theorem Derivation.unannotated_stats_of (c : Character) (result : Stats × List String) :
    (Derivation.of c result).stats.unannotated = result.1.unannotated := rfl

/-- A derivation has the warnings that were given. -/
theorem Derivation.warnings_stats_of (c : Character) (result : Stats × List String) :
    (Derivation.of c result).stats.warnings = result.2 := rfl

/-- Up to tips one derivation is another one with extra warnings. -/
structure Derivation.WarnsMore (full bare : Derivation) (extra : List String) : Prop where
  stats : full.stats.unannotated = bare.stats.unannotated
  orphans : full.orphans = bare.orphans
  kept : bare.stats.warnings.Sublist full.stats.warnings
  warnings : full.stats.warnings.Perm (bare.stats.warnings ++ extra)

/-- If the contributions under a key fail to resolve, then each read of the key warns, and apart
from tips and these warnings the derivation is the one without the contributions under the key. -/
theorem Character.derive_withoutKey_of_failing (rules : Rules) (skills : List Skill)
    (c : Character) {key : String} (hkey : key ∈ numberKeys skills ++ factorKeys)
    (hfails : ∃ q ∈ c.asked rules skills,
      q.Reads key ∧ (q.complaint? c.activeTraits).isSome) :
    ∃ extra : List String,
      ((c.asked rules skills).filter (·.Reads key)).map (·.complaint? c.activeTraits) =
          extra.map some ∧
        (c.derive rules skills).WarnsMore ((c.withoutKey key).derive rules skills) extra := by
  have hother := not_mem_otherKeys hkey
  have hretunes := Trait.retunes_withoutKey (ne_isNonheroic hother)
  -- one read fails, and there is no other question under the key
  have hall : ∀ q ∈ c.asked rules skills, q.Reads key → (q.complaint? c.activeTraits).isSome := by
    obtain ⟨q₀, hmem₀, hreads₀, hsome₀⟩ := hfails
    intro q hmem hreads
    have hsame : q.key = q₀.key := hreads.1.trans hreads₀.1.symm
    rwa [c.eq_of_mem_asked rules skills hmem hmem₀ hsame hreads.2 hreads₀.2]
  have hbare : (c.withoutKey key).derive rules skills =
      .of (c.withoutKey key) ((Stats.inquire rules skills c).answeredBy
        (Question.answer (c.activeTraits.map (Trait.withoutKey key)))) := by
    rw [Character.derive, Character.withoutKey, Stats.inquire_mapTraits hretunes,
      Character.activeTraits_mapTraits hretunes]
  obtain ⟨hstats, hsub, hperm⟩ := Stats.loses hother rules c skills hall
  refine ⟨_, Question.map_complaint?_eq hall, ?_⟩
  rw [hbare, Character.derive]
  constructor
  · rw [Derivation.unannotated_stats_of, Derivation.unannotated_stats_of]
    exact hstats
  · exact (Character.orphanIds_mapTraits hretunes c).symm
  · rw [Derivation.warnings_stats_of, Derivation.warnings_stats_of]
    exact hsub
  · rw [Derivation.warnings_stats_of, Derivation.warnings_stats_of]
    exact hperm

/-- A character with a bonus that refers to a variable published only later, and with class levels
whose hit points are no number. -/
def Character.miswritten : Character where
  id := "hero"
  traits := [
    { id := "a", name := "Scout", kind := .classLevel
      contributions := [⟨"hitPoints", .text "eight", none, false⟩] },
    { id := "b", name := "Sneak", kind := .talent
      contributions := [⟨"stealthSkillBonus", .ofInt 2, none, false⟩,
        ⟨"stealthSkillBonus", .text "@refDef", none, false⟩] }]

/-- A bonus that is written wrong is read by two skills, with a warning for each, and by no other.
-/
theorem Character.derive_withoutKey_miswritten :
    let skills : List Skill := [⟨"Stealth", .dexterity, true⟩, ⟨"stealth", .charisma, false⟩]
    "stealthSkillBonus" ∈ numberKeys skills ++ factorKeys ∧
      (∃ q ∈ miswritten.asked {} skills,
        q.Reads "stealthSkillBonus" ∧ (q.complaint? miswritten.activeTraits).isSome) ∧
      ∃ extra : List String,
        ((miswritten.asked {} skills).filter (·.Reads "stealthSkillBonus")).map
            (·.complaint? miswritten.activeTraits) = extra.map some ∧
          (miswritten.derive {} skills).WarnsMore
            ((miswritten.withoutKey "stealthSkillBonus").derive {} skills) extra := by
  intro skills
  have hkey : "stealthSkillBonus" ∈ numberKeys skills ++ factorKeys := by decide +kernel
  have hfails : ∃ q ∈ miswritten.asked {} skills,
      q.Reads "stealthSkillBonus" ∧ (q.complaint? miswritten.activeTraits).isSome := by
    decide +kernel
  exact ⟨hkey, hfails, derive_withoutKey_of_failing {} skills miswritten hkey hfails⟩

end CharacterSheet
