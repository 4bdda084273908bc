import CharacterSheet.Proofs.Derivation.Composition
import CharacterSheet.Proofs.Derivation.Framing
import CharacterSheet.Proofs.Derivation.Inputs
import CharacterSheet.Proofs.Derivation.Readers
import CharacterSheet.Proofs.Derivation.Remembering

/-!
# Information flows forward only

What earlier stages write is the same for two characters that differ only in contributions that
later ones read, although all stages share the roll variables, the warnings and the memo table. What
is contributed under a key that no stage reads is not seen at all.
-/

namespace CharacterSheet

/-! ## The order of the stages -/

namespace Stage

/-- The place of a stage in the order in which they run. -/
def rank (stage : Stage) : Nat := all.idxOf stage

/-- Whether the contributions under a key are read in a stage or later. -/
def readsFrom (skills : List Skill) (stage : Stage) (key : String) : Bool :=
  (reader? skills key).any fun reader => stage.rank ≤ reader.rank

/-- Only the attacks come behind the attack bonuses. -/
theorem rank_le_offense {stage : Stage} (h : stage ≠ .attacks) :
    stage.rank ≤ Stage.offense.rank := by
  revert h
  cases stage <;> decide

variable {skills : List Skill}

/-- What an earlier stage reads is not read from this stage on. -/
theorem readsFrom_of_lt {stage reader : Stage} {key : String}
    (hreader : reader? skills key = some reader) (hlt : reader.rank < stage.rank) :
    readsFrom skills stage key = false := by
  rw [readsFrom, hreader, Option.any_some, decide_eq_false (Nat.not_le_of_lt hlt)]

/-- Whether a level is heroic is read in the first stage. -/
theorem readsFrom_isNonheroic (skills : List Skill) {stage : Stage} (h : stage ≠ .traits) :
    readsFrom skills stage "isNonheroic" = false := by
  apply readsFrom_of_lt (reader?_isNonheroic skills)
  revert h
  cases stage <;> decide

end Stage

/-! ## Characters that differ under some keys -/

/-- Two characters agree on everything except what they contribute under some keys. -/
def Character.SameExcept (p : String → Bool) (c c' : Character) : Prop :=
  c.mapTraits (Trait.withoutKeys p) = c'.mapTraits (Trait.withoutKeys p)

instance (p : String → Bool) (c c' : Character) : Decidable (c.SameExcept p c') :=
  inferInstanceAs (Decidable (_ = _))

namespace Character.SameExcept

variable {p : String → Bool} {c c' : Character} (h : c.SameExcept p c')
  (hp : p "isNonheroic" = false)

include h hp

/-- A derivation is the same inquiry for both characters. -/
theorem inquire (rules : Rules) (skills : List Skill) :
    Stats.inquire rules skills c = Stats.inquire rules skills c' := by
  rw [← Stats.inquire_mapTraits (Trait.retunes_withoutKeys hp),
    ← Stats.inquire_mapTraits (Trait.retunes_withoutKeys hp) rules c', h]

/-- A question with a key that is not changed has the same answer. -/
theorem answer {q : Question} (hq : p q.key = false) :
    q.answer c.activeTraits = q.answer c'.activeTraits := by
  have hretunes := Trait.retunes_withoutKeys hp
  rw [← Question.answer_map hretunes _ q (Trait.filter_withoutKeys hq),
    ← Question.answer_map hretunes c'.activeTraits q (Trait.filter_withoutKeys hq),
    ← activeTraits_mapTraits hretunes, ← activeTraits_mapTraits hretunes, h]

/-- Both characters have the same orphans. -/
theorem orphanIds : c.orphanedTraits.map (·.id) = c'.orphanedTraits.map (·.id) := by
  have hretunes := Trait.retunes_withoutKeys hp
  rw [← orphanIds_mapTraits hretunes, ← orphanIds_mapTraits hretunes c', h]

end Character.SameExcept

/-! ## What earlier stages write -/

/-- Two blocks agree in all that stages before the given one write. The roll variables are published
by several stages, each of them under its own names; together with the warnings they are complete
once the attack bonuses are there. -/
structure Stats.AgreeBefore (stage : Stage) (s s' : Stats) : Prop where
  profile : Stage.traits.rank < stage.rank → s.profile = s'.profile
  condition : Stage.traits.rank < stage.rank → s.condition = s'.condition
  scores : Stage.abilities.rank < stage.rank → s.scores = s'.scores
  skills : Stage.skills.rank < stage.rank → s.skills = s'.skills
  shields : Stage.shields.rank < stage.rank → s.shields = s'.shields
  defenses : Stage.defenses.rank < stage.rank → s.defenses = s'.defenses
  health : Stage.health.rank < stage.rank → s.health = s'.health
  offense : Stage.offense.rank < stage.rank → s.offense = s'.offense
  published : ∀ publisher : Stage, publisher.rank < stage.rank → ∀ name ∈ publisher.published,
    s.vars.published? name = s'.vars.published? name
  vars : Stage.offense.rank < stage.rank → s.vars = s'.vars
  warnings : Stage.offense.rank < stage.rank → s.warnings = s'.warnings

/-- Nothing comes before the first stage. -/
theorem Stats.agreeBefore_traits (s s' : Stats) : s.AgreeBefore .traits s' := by
  have hfirst : ∀ stage : Stage, ¬ stage.rank < Stage.traits.rank := fun _ => Nat.not_lt_zero _
  constructor
  case published => exact fun publisher h => absurd h (hfirst publisher)
  all_goals exact fun h => absurd h (hfirst _)

/-! ## Two runs -/

/-- The same answers under all keys that are read come to the same block and the same warnings. -/
theorem Stats.answeredBy_inquire_congr (rules : Rules) (skills : List Skill) (c : Character)
    {answer answer' : Question → Answer}
    (h : ∀ q reader, Stage.reader? skills q.key = some reader → reader ≠ .attacks →
      answer q = answer' q) :
    (Stats.inquire rules skills c).answeredBy answer =
      (Stats.inquire rules skills c).answeredBy answer' := by
  apply Inquiry.answeredBy_congr
  intro q hq
  obtain ⟨reader, hreader, hne⟩ := Stats.reader?_of_mem_questions skills answer rules c q hq
  exact h q reader hreader hne

/-- Questions about keys that stages before the given one read are answered alike. -/
def Stage.AnsweredAlike (stage : Stage) (skills : List Skill) (answer answer' : Question → Answer) :
    Prop :=
  ∀ q reader, reader? skills q.key = some reader → reader.rank < stage.rank → answer q = answer' q

/-- What is asked by an earlier stage has the same result. -/
theorem Stage.AnsweredAlike.result_eq {stage : Stage} {skills : List Skill}
    {answer answer' : Question → Answer} (h : stage.AnsweredAlike skills answer answer') {α : Type}
    {x : Inquiry α} {reader : Stage} (hlt : reader.rank < stage.rank)
    (hx : ∀ q ∈ x.questions answer, reader? skills q.key = some reader) :
    x.result answer = x.result answer' :=
  congrArg Prod.fst (x.answeredBy_congr fun q hq => h q reader (hx q hq) hlt)

/-- Once the attack bonuses are there, nothing more is asked. -/
theorem Stage.AnsweredAlike.answeredBy_inquire_eq {stage : Stage} {skills : List Skill}
    {answer answer' : Question → Answer} (h : stage.AnsweredAlike skills answer answer')
    (rules : Rules) (c : Character) (hlt : Stage.offense.rank < stage.rank) :
    (Stats.inquire rules skills c).answeredBy answer =
      (Stats.inquire rules skills c).answeredBy answer' :=
  Stats.answeredBy_inquire_congr rules skills c fun q reader hreader hne =>
    h q reader hreader (Nat.lt_of_le_of_lt (rank_le_offense hne) hlt)

namespace Stats.IsComposed

variable {rules : Rules} {skills : List Skill} {c : Character} {answer answer' : Question → Answer}
  {stage : Stage} {s s' : Stats} (hs : s.IsComposed answer rules skills c)
  (hs' : s'.IsComposed answer' rules skills c) (h : stage.AnsweredAlike skills answer answer')

include hs hs' h

/-- Behind the first stage the profiles are the same. -/
theorem profile_congr (hlt : Stage.traits.rank < stage.rank) : s.profile = s'.profile := by
  rw [hs.profile, hs'.profile]
  exact h.result_eq hlt (Profile.reader?_of_mem_questions skills answer rules c)

omit h in
/-- The effects of the condition are the same. -/
theorem condition_congr : s.condition = s'.condition := hs.condition.trans hs'.condition.symm

/-- Behind the second stage the scores are the same. -/
theorem scores_congr (hlt : Stage.abilities.rank < stage.rank) : s.scores = s'.scores := by
  have hprofile := profile_congr hs hs' h (Nat.lt_trans (by decide) hlt)
  rw [hs.scores, hs'.scores, hprofile, condition_congr hs hs']
  exact congrArg Prod.fst (h.result_eq hlt (Scores.reader?_of_mem_questions skills answer c _ _))

/-- What the stages behind the scores start from. -/
theorem start_congr (hlt : Stage.abilities.rank < stage.rank) :
    s.profile = s'.profile ∧ s.condition = s'.condition ∧ s.scores = s'.scores ∧
      s.scoreVars = s'.scoreVars := by
  have hprofile := profile_congr hs hs' h (Nat.lt_trans (by decide) hlt)
  have hscores := scores_congr hs hs' h hlt
  exact ⟨hprofile, condition_congr hs hs', hscores, by rw [scoreVars, scoreVars, hscores, hprofile]⟩

/-- Behind the third stage the skills are the same. -/
theorem skills_congr (hlt : Stage.skills.rank < stage.rank) : s.skills = s'.skills := by
  obtain ⟨hprofile, hcondition, hscores, hvars⟩ :=
    start_congr hs hs' h (Nat.lt_trans (by decide) hlt)
  rw [hs.skills, hs'.skills, hprofile, hcondition, hscores, hvars]
  exact h.result_eq hlt (SkillSheet.reader?_of_mem_questions skills answer rules c _ _ _ _)

/-- Behind the fourth stage the shields are the same. -/
theorem shields_congr (hlt : Stage.shields.rank < stage.rank) : s.shields = s'.shields := by
  obtain ⟨-, -, -, hvars⟩ := start_congr hs hs' h (Nat.lt_trans (by decide) hlt)
  rw [hs.shields, hs'.shields, hvars]
  exact h.result_eq hlt (Shields.reader?_of_mem_questions skills answer c _)

/-- Behind the fifth stage the defenses are the same. -/
theorem defenses_congr (hlt : Stage.defenses.rank < stage.rank) : s.defenses = s'.defenses := by
  obtain ⟨hprofile, hcondition, hscores, hvars⟩ :=
    start_congr hs hs' h (Nat.lt_trans (by decide) hlt)
  rw [hs.defenses, hs'.defenses, hprofile, hcondition, hscores, hvars]
  exact h.result_eq hlt (Defenses.reader?_of_mem_questions skills answer c _ _ _ _)

/-- Behind the sixth stage the hit points are the same. -/
theorem health_congr (hlt : Stage.health.rank < stage.rank) : s.health = s'.health := by
  obtain ⟨hprofile, -, hscores, hvars⟩ := start_congr hs hs' h (Nat.lt_trans (by decide) hlt)
  have hdefenses := defenses_congr hs hs' h (Nat.lt_trans (by decide) hlt)
  rw [hs.health, hs'.health, hprofile, hscores, hvars, hdefenses]
  exact h.result_eq hlt (Health.reader?_of_mem_questions skills answer c _ _ _)

/-- Behind the seventh stage the attack bonuses are the same. -/
theorem offense_congr (hlt : Stage.offense.rank < stage.rank) : s.offense = s'.offense := by
  obtain ⟨hprofile, hcondition, hscores, hvars⟩ :=
    start_congr hs hs' h (Nat.lt_trans (by decide) hlt)
  have hdefenses := defenses_congr hs hs' h (Nat.lt_trans (by decide) hlt)
  rw [hs.offense, hs'.offense, hprofile, hcondition, hscores, hvars, hdefenses]
  exact h.result_eq hlt (Offense.reader?_of_mem_questions skills answer c _ _ _ _)

/-- The roll variables are complete once the attack bonuses are there. -/
theorem vars_congr (hlt : Stage.offense.rank < stage.rank) : s.vars = s'.vars := by
  obtain ⟨-, -, -, hvars⟩ := start_congr hs hs' h (Nat.lt_trans (by decide) hlt)
  have hdefenses := defenses_congr hs hs' h (Nat.lt_trans (by decide) hlt)
  have hoffense := offense_congr hs hs' h hlt
  rw [hs.vars, hs'.vars, republished, republished, hoffense, hdefenses, hvars]

/-- Before that, what was published by earlier stages is there already, and later ones publish under
other names. -/
theorem published?_congr {publisher : Stage} (hlt : publisher.rank < stage.rank) {name : String}
    (hname : name ∈ publisher.published) : s.vars.published? name = s'.vars.published? name := by
  -- only one stage publishes the name, so what the later ones publish leaves it alone
  have hother : ∀ {other : Stage}, publisher ≠ other → name ∉ other.published :=
    Stage.not_mem_published hname
  have hbehind : ∀ s : Stats, publisher ≠ .offense → s.republished.published? name =
      (s.defenses.publish s.scoreVars).published? name := fun s hne =>
    Offense.published?_publish _ _ (hother hne)
  have hbetween : ∀ s : Stats, publisher ≠ .offense → publisher ≠ .defenses →
      s.republished.published? name = s.scoreVars.published? name := fun s hne hne' =>
    (hbehind s hne).trans (Defenses.published?_publish _ _ (hother hne'))
  rw [hs.vars, hs'.vars]
  cases publisher with
  | traits =>
    have hstart : ∀ s : Stats, s.scoreVars.published? name = s.profile.vars.published? name :=
      fun s => Scores.published?_publish _ _ _ (hother (by decide : Stage.traits ≠ .abilities))
    rw [hbetween s nofun nofun, hbetween s' nofun nofun, hstart, hstart,
      profile_congr hs hs' h hlt]
  | abilities =>
    obtain ⟨-, -, -, hvars⟩ := start_congr hs hs' h hlt
    rw [hbetween s nofun nofun, hbetween s' nofun nofun, hvars]
  | defenses =>
    obtain ⟨-, -, -, hvars⟩ := start_congr hs hs' h (Nat.lt_trans (by decide) hlt)
    rw [hbehind s nofun, hbehind s' nofun, defenses_congr hs hs' h hlt, hvars]
  | offense => rw [← hs.vars, ← hs'.vars, vars_congr hs hs' h hlt]
  | skills | shields | health | attacks => exact absurd hname List.not_mem_nil

/-- The same answers under the keys that earlier stages read come to the same in these stages: each
of them starts from what the ones before it found. -/
theorem agreeBefore (hwarnings : Stage.offense.rank < stage.rank → s.warnings = s'.warnings) :
    s.AgreeBefore stage s' where
  profile := profile_congr hs hs' h
  condition := fun _ => condition_congr hs hs'
  scores := scores_congr hs hs' h
  skills := skills_congr hs hs' h
  shields := shields_congr hs hs' h
  defenses := defenses_congr hs hs' h
  health := health_congr hs hs' h
  offense := offense_congr hs hs' h
  published := fun _ hlt _ => published?_congr hs hs' h hlt
  vars := vars_congr hs hs' h
  warnings := hwarnings

end Stats.IsComposed

namespace Character.SameExcept

variable {c c' : Character} {skills : List Skill}

/-- Characters that differ in what later stages read have blocks that agree before. -/
theorem agreeBefore_derive (rules : Rules) {stage : Stage}
    (h : c.SameExcept (Stage.readsFrom skills stage) c') :
    (c.derive rules skills).stats.AgreeBefore stage (c'.derive rules skills).stats := by
  by_cases hfirst : stage = .traits
  · rw [hfirst]
    exact Stats.agreeBefore_traits _ _
  -- from here on the class levels are heroic alike
  have hheroic := Stage.readsFrom_isNonheroic skills hfirst
  have halike : stage.AnsweredAlike skills (Question.answer c.activeTraits)
      (Question.answer c'.activeTraits) := fun q reader hreader hlt =>
    h.answer hheroic (Stage.readsFrom_of_lt hreader hlt)
  rw [stats_derive, stats_derive, ← h.inquire hheroic]
  exact ((Stats.isComposed_result_inquire _ rules skills c).withWarnings _).agreeBefore
    ((Stats.isComposed_result_inquire _ rules skills c).withWarnings _) halike fun hlt =>
      congrArg Prod.snd (halike.answeredBy_inquire_eq rules c hlt)

/-- Characters that differ in what no stage reads have the same derivation. -/
theorem derive_eq (rules : Rules)
    (h : c.SameExcept (fun key => (Stage.reader? skills key).isNone) c') :
    c.derive rules skills = c'.derive rules skills := by
  have hheroic : (Stage.reader? skills "isNonheroic").isNone = false := by
    rw [Stage.reader?_isNonheroic]
    rfl
  have hanswer : ∀ (q : Question) reader, Stage.reader? skills q.key = some reader →
      reader ≠ .attacks → q.answer c.activeTraits = q.answer c'.activeTraits :=
    fun q reader hreader _ => h.answer hheroic (by rw [hreader]; rfl)
  have hrun := Stats.answeredBy_inquire_congr rules skills c hanswer
  rw [derive, derive, Derivation.of, Derivation.of, hrun, h.inquire hheroic, h.orphanIds hheroic]

end Character.SameExcept

/-! ## At a desk -/

namespace Desk

variable {φ : Type} [DecidableEq φ]

/-- A character with one class level, to which something is contributed. -/
def soldier (contributions : List Contribution) : Character where
  id := "hero"
  traits := [{
    id := "a", name := "Soldier", kind := .classLevel
    contributions := ⟨"baseAttackBonus", .number (.ofInt 1), none, false⟩ :: contributions }]

end Desk

end CharacterSheet
