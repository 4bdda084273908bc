import CharacterSheet.Proofs.Derivation.Asked

/-!
# Which stage reads a key

Every question of a stage, those for a summary included, is about a key that this stage is known to
read. So what is contributed under a key can change the answers in one stage only.
-/

namespace CharacterSheet

/-! ## Readers -/

namespace Stage

/-- The stage that reads the contributions under a key, if one does. The key of training without
heroics is the only one that is read without a question. -/
def reader? (skills : List Skill) (key : String) : Option Stage :=
  if key = "isNonheroic" then some .traits
  else if skills.any fun skill => skill.bonusKey = key then some .skills
  else (Reading.table.lookup key).map (·.stage)

variable (skills : List Skill)

/-- The first stage reads whether a level is heroic. -/
theorem reader?_isNonheroic : reader? skills "isNonheroic" = some .traits := if_pos rfl

/-- A key of the table is read by the stage that stands there. -/
theorem reader?_of_table {key : String} {stage : Stage}
    (h : (Reading.table.lookup key).map (·.stage) = some stage) :
    reader? skills key = some stage := by
  have hmem : key ∈ Reading.table.map (·.1) := by
    obtain ⟨reading, hlookup, -⟩ := Option.map_eq_some_iff.mp h
    obtain ⟨before, behind, htable, -⟩ := List.lookup_eq_some_iff.mp hlookup
    simp [htable]
  have hne : key ≠ "isNonheroic" := fun heq => by
    rw [heq] at hmem
    exact absurd hmem (by decide)
  -- no key of the table ends like the key of a skill
  have hskill : ¬ skills.any fun skill => skill.bonusKey = key := fun hany => by
    obtain ⟨skill, -, hkey⟩ := List.any_eq_true.mp hany
    have htable : ∀ k ∈ Reading.table.map (·.1), Reading.isSkillKey k = false := by decide
    have hends := skill.isSkillKey_bonusKey
    rw [of_decide_eq_true hkey, htable key hmem] at hends
    cases hends
  rw [reader?, if_neg hne, if_neg hskill, h]

/-- The bonus key of an ability is read in the stage of abilities. -/
theorem reader?_bonusKey_ability (a : Ability) : reader? skills a.bonusKey = some .abilities := by
  cases a <;> exact reader?_of_table skills (by decide)

/-- The bonus key of a listed skill is read in the stage of skills. -/
theorem reader?_bonusKey_skill {skill : Skill} (h : skill ∈ skills) :
    reader? skills skill.bonusKey = some .skills := by
  have hne : skill.bonusKey ≠ "isNonheroic" := fun heq => by
    have hends := skill.isSkillKey_bonusKey
    rw [heq] at hends
    exact absurd hends (by decide)
  have hany : skills.any fun other => other.bonusKey = skill.bonusKey :=
    List.any_eq_true.mpr ⟨skill, h, decide_eq_true rfl⟩
  rw [reader?, if_neg hne, if_pos hany]

end Stage

/-! ## What each stage asks about -/

section Stages

variable (skills : List Skill) (answer : Question → Answer) (rules : Rules) (c : Character)
  (profile : Profile) (condition : ConditionEffect) (scores : Scores) (vars : Variables)

/-- All questions for the profile are read in the first stage. -/
theorem Profile.reader?_of_mem_questions :
    ∀ q ∈ (Profile.inquire rules c).questions answer,
      Stage.reader? skills q.key = some .traits := by
  rw [Profile.questions_inquire]
  simp only [List.forall_mem_cons, List.not_mem_nil, false_implies, implies_true, and_true]
  refine ⟨?_, ?_, ?_, ?_, ?_, ?_⟩ <;> exact Stage.reader?_of_table skills (by decide)

/-- All questions for scores are read in the stage of abilities. -/
theorem Scores.reader?_of_mem_questions_inquireFrom (isDroid : Bool) (penalty : Int)
    (abilities : List Ability) :
    ∀ q ∈ (Scores.inquireFrom c isDroid penalty scores vars abilities).questions answer,
      Stage.reader? skills q.key = some .abilities := by
  induction abilities generalizing scores vars with
  | nil => exact fun q hq => absurd hq List.not_mem_nil
  | cons a rest ih =>
    intro q hq
    simp only [Scores.inquireFrom, Inquiry.questions_bind, Scores.questions_score, List.mem_append,
      List.mem_pair] at hq
    rcases hq with (rfl | rfl) | hq
    · exact Stage.reader?_bonusKey_ability skills a
    · exact Stage.reader?_bonusKey_ability skills a
    · exact ih _ _ q hq

/-- All questions for all scores are read in the stage of abilities. -/
theorem Scores.reader?_of_mem_questions :
    ∀ q ∈ (Scores.inquire c profile condition).questions answer,
      Stage.reader? skills q.key = some .abilities :=
  Scores.reader?_of_mem_questions_inquireFrom skills answer c _ _ _ _ _

/-- All questions for skills are read in their stage. -/
theorem SkillSheet.reader?_of_mem_questions :
    ∀ q ∈ (SkillSheet.inquire rules skills c profile condition scores vars).questions answer,
      Stage.reader? skills q.key = some .skills := by
  rw [SkillSheet.questions_inquire]
  simp only [List.forall_mem_append, List.forall_mem_flatMap, List.forall_mem_cons,
    List.not_mem_nil, false_implies, implies_true, and_true]
  refine ⟨⟨⟨?_, ?_⟩, fun skill hskill => ⟨?_, ?_⟩⟩, ?_, ?_⟩
  · exact Stage.reader?_of_table skills (by decide)
  · exact Stage.reader?_of_table skills (by decide)
  · exact Stage.reader?_bonusKey_skill skills hskill
  · exact Stage.reader?_bonusKey_skill skills hskill
  · exact Stage.reader?_of_table skills (by decide)
  · exact Stage.reader?_of_table skills (by decide)

/-- All questions for shields are read in their stage. -/
theorem Shields.reader?_of_mem_questions :
    ∀ q ∈ (Shields.inquire c vars).questions answer,
      Stage.reader? skills q.key = some .shields := by
  rw [Shields.questions_inquire]
  simp only [List.forall_mem_cons, List.not_mem_nil, false_implies, implies_true, and_true]
  refine ⟨?_, ?_⟩ <;> exact Stage.reader?_of_table skills (by decide)

/-- All questions for defenses are read in their stage. -/
theorem Defenses.reader?_of_mem_questions :
    ∀ q ∈ (Defenses.inquire c profile condition scores vars).questions answer,
      Stage.reader? skills q.key = some .defenses := by
  rw [Defenses.questions_inquire]
  simp only [List.forall_mem_cons, List.not_mem_nil, false_implies, implies_true, and_true]
  refine ⟨?_, ?_, ?_, ?_, ?_, ?_, ?_, ?_, ?_, ?_, ?_⟩ <;>
    exact Stage.reader?_of_table skills (by decide)

/-- All questions for hit points are read in their stage. -/
theorem Health.reader?_of_mem_questions :
    ∀ q ∈ (Health.inquire c profile scores vars).questions answer,
      Stage.reader? skills q.key = some .health := by
  rw [Health.questions_inquire]
  simp only [List.forall_mem_cons, List.not_mem_nil, false_implies, implies_true, and_true]
  refine ⟨?_, ?_, ?_⟩ <;> exact Stage.reader?_of_table skills (by decide)

/-- All questions for attack bonuses are read in their stage. -/
theorem Offense.reader?_of_mem_questions :
    ∀ q ∈ (Offense.inquire c profile condition scores vars).questions answer,
      Stage.reader? skills q.key = some .offense := by
  rw [Offense.questions_inquire]
  simp only [List.forall_mem_cons, List.not_mem_nil, false_implies, implies_true, and_true]
  exact Stage.reader?_of_table skills (by decide)

/-- A derivation asks about no key but those that some stage before the attacks reads. -/
theorem Stats.reader?_of_mem_questions :
    ∀ q ∈ (Stats.inquire rules skills c).questions answer,
      ∃ reader, Stage.reader? skills q.key = some reader ∧ reader ≠ .attacks := by
  intro q hq
  simp only [Stats.inquire, Inquiry.questions_bind, Inquiry.questions_pure, List.append_nil,
    List.mem_append] at hq
  rcases hq with hq | hq | hq | hq | hq | hq | hq
  · exact ⟨_, Profile.reader?_of_mem_questions skills _ _ _ q hq, by decide⟩
  · exact ⟨_, Scores.reader?_of_mem_questions skills _ _ _ _ q hq, by decide⟩
  · exact ⟨_, SkillSheet.reader?_of_mem_questions skills _ _ _ _ _ _ _ q hq, by decide⟩
  · exact ⟨_, Shields.reader?_of_mem_questions skills _ _ _ q hq, by decide⟩
  · exact ⟨_, Defenses.reader?_of_mem_questions skills _ _ _ _ _ _ q hq, by decide⟩
  · exact ⟨_, Health.reader?_of_mem_questions skills _ _ _ _ _ q hq, by decide⟩
  · exact ⟨_, Offense.reader?_of_mem_questions skills _ _ _ _ _ _ q hq, by decide⟩

end Stages

end CharacterSheet
