import CharacterSheet.Attack.Strikes
import CharacterSheet.Derivation.Health

/-!
# Deriving the stat block

The parts of the block are computed one after the other, each from the character, the rules, the
parts before it and the roll variables published by then. Nothing is read from the block that the
character already has.

`Character.derive` answers every question afresh. A `Desk` does the same for one character after
another and keeps the answers of the present derivation in a memo table.
-/

namespace CharacterSheet

/-- The attacks of a character with a stat block. -/
def Character.attacksWith (c : Character) (stats : Stats) (rules : Rules) : List Attack :=
  Attack.listed c.id (stats.wielder.strikes rules.combat c.activeTraits)

/-- The attacks of a character with the stat block it has. -/
def Character.attacks (c : Character) (rules : Rules) : List Attack :=
  c.attacksWith c.stats rules

/-- The stat block of a character, still without the warnings met on the way. -/
def Stats.inquire (rules : Rules) (skills : List Skill) (c : Character) : Inquiry Stats := do
  let condition := ConditionEffect.of rules c
  let profile ← Profile.inquire rules c
  let (scores, vars) ← Scores.inquire c profile condition
  let skillSheet ← SkillSheet.inquire rules skills c profile condition scores vars
  let shields ← Shields.inquire c vars
  let defenses ← Defenses.inquire c profile condition scores vars
  let vars := defenses.publish vars
  let health ← Health.inquire c profile scores vars
  let offense ← Offense.inquire c profile condition scores vars
  let stats : Stats := {
    profile, condition, scores, skills := skillSheet, shields, defenses, health, offense
    vars := offense.publish vars }
  return { stats with attacks := c.attacksWith stats rules }

/-- What deriving a stat block comes to. -/
structure Derivation where
  stats : Stats
  /-- The traits whose supplier is gone, which should be deleted. -/
  orphans : List TraitId
deriving DecidableEq

/-- Puts the result of an inquiry together with the warnings and the orphans. -/
def Derivation.of (c : Character) (result : Stats × List String) : Derivation :=
  ⟨{ result.1 with warnings := result.2 }, c.orphanedTraits.map (·.id)⟩

/-- Derives the stat block of a character. -/
def Character.derive (rules : Rules) (skills : List Skill) (c : Character) : Derivation :=
  .of c ((Stats.inquire rules skills c).answeredBy (Question.answer c.activeTraits))

/-- Rules and skills, and a table of the questions answered for the character at hand. In the keys
of the table a fingerprint stands for the roll variables. -/
structure Desk (φ : Type) where
  rules : Rules
  skills : List Skill
  fingerprint : Variables → φ
  memo : Memo (QuestionKey φ) Answer := {}

namespace Desk

variable {φ : Type} [DecidableEq φ]

/-- Derives the stat block of a character in a new cycle of the memo table. -/
def derive (desk : Desk φ) (c : Character) : Derivation × Desk φ :=
  let (result, memo) :=
    (Stats.inquire desk.rules desk.skills c).remembering (Question.keyBy desk.fingerprint)
      (Question.answer c.activeTraits) desk.memo.beginCycle
  (.of c result, { desk with memo })

/-- Derives the stat block of a character and puts it into the character; also answers the
orphans. -/
def update (desk : Desk φ) (c : Character) : Character × List TraitId × Desk φ :=
  let (derivation, desk) := desk.derive c
  ({ c with stats := derivation.stats }, derivation.orphans, desk)

end Desk

end CharacterSheet
