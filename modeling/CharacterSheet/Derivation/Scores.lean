import CharacterSheet.Derivation.Profile

/-!
# Ability scores
-/

namespace CharacterSheet.Scores

/-- The base score of an ability; where it cannot be resolved, zero with a warning. -/
def base (c : Character) (a : Ability) : Inquiry Int :=
  match c.baseAbility a with
  | .ok n => pure n
  | .error e => do
    Inquiry.warning (a.name ++ " base score: " ++ e.message ++ "; using 0")
    return 0

/-- What the sheet says on where a score comes from. -/
def tip (base : Int) (sources : String) : String :=
  if sources = "" then "Base: " ++ toString base
  else "Base: " ++ toString base ++ ", " ++ sources

/-- A score that the character does not have. -/
def skipped (score : AbilityScore) : AbilityScore :=
  { score with skip := true, modifier := 0, roll := 0 }

/-- One score. A droid has no Constitution. -/
def score (c : Character) (isDroid : Bool) (penalty : Int) (vars : Variables) (a : Ability) :
    Inquiry AbilityScore := do
  let here : Standpoint := ⟨c.id, .abilities, vars⟩
  let base ← base c a
  let bonus ← here.sum a.bonusKey .plain
  let sources ← here.summary a.bonusKey .plain
  let score := { AbilityScore.ofParts base bonus penalty with tip := tip base sources }
  return if a = .constitution && isDroid then skipped score else score

/-- The scores of a list of abilities, added to those before. Each modifier is published as soon as
it is known, so the next ability's bonuses may refer to it. -/
def inquireFrom (c : Character) (isDroid : Bool) (penalty : Int) (scores : Scores)
    (vars : Variables) : List Ability → Inquiry (Scores × Variables)
  | [] => pure (scores, vars)
  | a :: rest => do
    let score ← score c isDroid penalty vars a
    inquireFrom c isDroid penalty (scores.insert a score)
      (vars.publish a.variableName score.modifier) rest

/-- The scores of a character, and the roll variables with their modifiers published. -/
def inquire (c : Character) (profile : Profile) (condition : ConditionEffect) :
    Inquiry (Scores × Variables) :=
  inquireFrom c profile.isDroid condition.penalty ∅ profile.vars Ability.all

/-- The total of an ability. Without a score it is the base score, and zero if that cannot be
resolved. -/
def total (scores : Scores) (c : Character) (a : Ability) : Int :=
  match scores[a]? with
  | some score => score.total
  | none => (c.baseAbility a).toOption.getD 0

end CharacterSheet.Scores
