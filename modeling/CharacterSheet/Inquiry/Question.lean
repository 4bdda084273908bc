import CharacterSheet.Reduction.Basic

/-!
# Questions

While a stat block is computed, every number on it comes from questions to the character's traits:
what do the contributions under this key reduce to, given the roll variables published so far?
-/

namespace CharacterSheet

/-- A part of the computation of a stat block, in the order in which they run. -/
inductive Stage where
  | traits
  | abilities
  | skills
  | shields
  | defenses
  | health
  | offense
  | attacks
deriving DecidableEq, Repr

namespace Stage

/-- All stages in order. -/
def all : List Stage :=
  [traits, abilities, skills, shields, defenses, health, offense, attacks]

/-- The name of the stage. -/
def name : Stage → String
  | traits => "traits"
  | abilities => "abilities"
  | skills => "skills"
  | shields => "shields"
  | defenses => "defenses"
  | health => "health"
  | offense => "offense"
  | attacks => "attacks"

/-- Reads a stage from data. -/
def ofData? : Data → Option Stage := Data.named? all name

end Stage

/-- A question about the traits of a character. -/
structure Question where
  stage : Stage
  key : String
  mode : Mode
  filter : Filter
  character : String
  /-- The roll variables that the contributions may refer to. -/
  vars : Variables
deriving DecidableEq

/-- What a question is answered with. -/
abbrev Answer := Except ResolveError Reduced

/-- What a memo table keeps the answer to a question under: the question, with a fingerprint in
place of its roll variables. -/
structure QuestionKey (φ : Type) where
  stage : Stage
  key : String
  mode : Mode
  filter : Filter
  character : String
  fingerprint : φ
deriving DecidableEq

/-- The key of a question, by a way to take fingerprints. -/
def Question.keyBy {φ : Type} (fingerprint : Variables → φ) (q : Question) : QuestionKey φ :=
  ⟨q.stage, q.key, q.mode, q.filter, q.character, fingerprint q.vars⟩

/-- The answer that a list of traits gives to a question. -/
def Question.answer (traits : List Trait) (q : Question) : Answer :=
  (Pool.mk traits q.vars.lookup).reduce q.key q.mode q.filter

end CharacterSheet
