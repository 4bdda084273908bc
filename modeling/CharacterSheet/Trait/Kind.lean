import CharacterSheet.Data.Basic

/-!
# Kinds of traits
-/

namespace CharacterSheet

/-- What a trait represents on the character. -/
inductive TraitKind where
  | species
  | classLevel
  | feat
  | talent
  | trait
  | forcePower
  | appendage
  | locomotion
  | weapon
  | armor
  | equipment
  | template
deriving DecidableEq, Repr

namespace TraitKind

/-- All kinds. -/
def all : List TraitKind :=
  [species, classLevel, feat, talent, trait, forcePower, appendage, locomotion, weapon, armor,
    equipment, template]

/-- The position in the list of kinds. -/
def rank : TraitKind → Nat
  | species => 0
  | classLevel => 1
  | feat => 2
  | talent => 3
  | trait => 4
  | forcePower => 5
  | appendage => 6
  | locomotion => 7
  | weapon => 8
  | armor => 9
  | equipment => 10
  | template => 11

/-- The name by which data refers to the kind. -/
def name : TraitKind → String
  | species => "species"
  | classLevel => "class"
  | feat => "feat"
  | talent => "talent"
  | trait => "trait"
  | forcePower => "forcePower"
  | appendage => "appendage"
  | locomotion => "locomotion"
  | weapon => "weapon"
  | armor => "armor"
  | equipment => "equipment"
  | template => "template"

/-- Gear contributes only while it is equipped. -/
def isGear : TraitKind → Bool
  | weapon | armor | equipment => true
  | _ => false

/-- Reads a kind from data. -/
def ofData? : Data → Option TraitKind := Data.named? all name

end TraitKind

end CharacterSheet
