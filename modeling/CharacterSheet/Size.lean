import CharacterSheet.Data.Basic
import CharacterSheet.Text.Basic

/-!
# Sizes

The size scale of creatures and weapons, smallest first, and what a creature's size does to its
defenses.
-/

namespace CharacterSheet

/-- A size of a creature or a weapon. -/
inductive Size where
  | fine
  | diminutive
  | tiny
  | small
  | medium
  | large
  | huge
  | gargantuan
  | colossal
deriving DecidableEq, Repr

namespace Size

/-- All sizes, smallest first. -/
def all : List Size :=
  [fine, diminutive, tiny, small, medium, large, huge, gargantuan, colossal]

/-- The name, in lower case. -/
def name : Size → String
  | fine => "fine"
  | diminutive => "diminutive"
  | tiny => "tiny"
  | small => "small"
  | medium => "medium"
  | large => "large"
  | huge => "huge"
  | gargantuan => "gargantuan"
  | colossal => "colossal"

/-- The position on the scale. -/
def step : Size → Int
  | fine => 0
  | diminutive => 1
  | tiny => 2
  | small => 3
  | medium => 4
  | large => 5
  | huge => 6
  | gargantuan => 7
  | colossal => 8

/-- How many steps one size is above another; negative when it is smaller. -/
def stepsAbove (s other : Size) : Int := s.step - other.step

/-- Reads a name in any case, with blanks around it. -/
def parse? (s : String) : Option Size :=
  let s := Text.fold s
  all.find? fun size => size.name == s

/-- What the size adds to the reflex defense. -/
def reflexModifier : Size → Int
  | fine => 10
  | diminutive => 5
  | tiny => 2
  | small => 1
  | medium => 0
  | large => -1
  | huge => -2
  | gargantuan => -5
  | colossal => -10

/-- What the size adds to the damage threshold. -/
def thresholdModifier : Size → Int
  | large => 5
  | huge => 10
  | gargantuan => 20
  | colossal => 50
  | _ => 0

/-- Reads a size from data: its name, in lower case. -/
def ofData? : Data → Option Size := Data.named? all name

end Size

end CharacterSheet
