import CharacterSheet.Stats.Data
import CharacterSheet.Value.Resolve

/-!
# Characters

A character as its player keeps it: base scores, training, present condition, and the traits it
owns, together with the stat block that was last computed from them.
-/

namespace CharacterSheet

/-- A character. -/
structure Character where
  id : String
  name : String := ""
  /-- Base scores before any bonus, as entered. -/
  abilities : Std.ExtTreeMap Ability Value := ∅
  /-- Names of trained skills, as kept by the player. -/
  trainedSkills : Std.ExtTreeSet String := ∅
  /-- The step on the condition track. -/
  condition : Nat := 0
  currentHealth : Option Int := none
  temporaryHealth : Int := 0
  currentShields : Option Int := none
  shieldsActive : Bool := false
  traits : List Trait := []
  stats : Stats := {}
deriving DecidableEq

namespace Character

/-- A character with a base score of ten in every ability. -/
def make (id name : String) : Character :=
  { id, name, abilities := .ofList (Ability.all.map (·, Value.ofInt 10)) }

/-- The character with another base score. -/
def withAbility (c : Character) (a : Ability) (score : Int) : Character :=
  { c with abilities := c.abilities.insert a (Value.ofInt score) }

/-- The character with one more trait. -/
def withTrait (c : Character) (t : Trait) : Character := { c with traits := c.traits ++ [t] }

/-- The character without the traits that have one of some ids. -/
def withoutTraits (c : Character) (ids : List TraitId) : Character :=
  { c with traits := c.traits.filter fun t => !ids.contains t.id }

/-- The character with all traits of an id equipped, or not. -/
def withEquipped (c : Character) (id : TraitId) (equipped : Bool) : Character :=
  { c with traits := c.traits.map fun t => if t.id = id then { t with equipped } else t }

/-- The character trained in a skill, which is kept in folded form. -/
def train (c : Character) (skill : String) : Character :=
  { c with trainedSkills := c.trainedSkills.insert (Text.fold skill) }

/-- The character without the training that is kept under exactly this text. -/
def untrain (c : Character) (skill : String) : Character :=
  { c with trainedSkills := c.trainedSkills.erase skill }

/-- Whether the character is trained in a skill. -/
def isTrained (c : Character) (skill : String) : Bool :=
  c.trainedSkills.contains (Text.fold skill)

/-- The base score of an ability: ten when none was entered. -/
def baseAbility (c : Character) (a : Ability) : Except ResolveError Int :=
  match c.abilities[a]? with
  | some value => (value.resolveOne noVariables).map fun x => x.elim 10 Binary64.toWhole
  | none => .ok 10

/-- The first trait with an id. -/
def findTrait? (c : Character) (id : TraitId) : Option Trait := c.traits.find? fun t => t.id = id

/-! ## Ownership

A trait whose supplier is gone is an orphan. Orphans count for nothing, and neither does any trait
that shares its id with one.
-/

/-- Whether a trait names a supplier that is not among the traits. -/
def isOrphan (c : Character) (t : Trait) : Bool :=
  t.supplier.any fun s => !(c.traits.any fun other => other.id = s.id)

/-- The traits whose supplier is gone. -/
def orphanedTraits (c : Character) : List Trait := c.traits.filter c.isOrphan

/-- The traits that are owned: those whose id is not the id of an orphan. -/
def ownedTraits (c : Character) : List Trait :=
  let orphans := c.orphanedTraits.map (·.id)
  c.traits.filter fun t => !orphans.contains t.id

/-- The traits that contribute: owned ones, and of gear what is equipped. -/
def activeTraits (c : Character) : List Trait := c.ownedTraits.filter (·.contributes)

/-- Whether the character has a trait of this name, or a feat or talent on its stat block. -/
def possesses (c : Character) (name : String) : Bool :=
  let name := Text.fold name
  c.ownedTraits.any (·.nameMatches name) || c.stats.profile.feats.contains name ||
    c.stats.profile.talents.contains name

/-! ## Data -/

/-- Reads a character from data. -/
def ofData? (d : Data) : Option Character := do
  let fields ← d.fields? ["id", "name", "abilities", "trainedSkills", "condition", "currentHealth",
    "temporaryHealth", "currentShields", "shieldsActive", "traits", "stats"]
  return {
    id := ← fields.required "id" Data.text?
    name := ← fields.orElse "name" Data.text? ""
    abilities := ← fields.orElse "abilities" (Data.table? Ability.ofName? Value.ofData?) ∅
    trainedSkills := ← fields.orElse "trainedSkills" Data.textSet? ∅
    condition := ← fields.orElse "condition" (Data.natUpTo? 255) 0
    currentHealth := ← fields.optional "currentHealth" Data.int32?
    temporaryHealth := ← fields.orElse "temporaryHealth" Data.int32? 0
    currentShields := ← fields.optional "currentShields" Data.int32?
    shieldsActive := ← fields.orElse "shieldsActive" Data.bool? false
    traits := ← fields.orElse "traits" (Data.list? Trait.ofData?) []
    stats := ← fields.orElse "stats" Stats.ofData? {} }

/-- The data of a character. -/
def toData (c : Character) : Data :=
  .record [("id", .text c.id),
    ("name", .text c.name),
    ("abilities", .ofTable Ability.name Value.toData c.abilities),
    ("trainedSkills", .ofTextSet c.trainedSkills),
    ("condition", .int c.condition),
    ("currentHealth", .ofOption .int c.currentHealth),
    ("temporaryHealth", .int c.temporaryHealth),
    ("currentShields", .ofOption .int c.currentShields),
    ("shieldsActive", .bool c.shieldsActive),
    ("traits", .list (c.traits.map Trait.toData)),
    ("stats", c.stats.toData)]

end Character

end CharacterSheet
