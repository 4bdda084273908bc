import CharacterSheet.Data.Basic
import CharacterSheet.Text.Basic

/-!
# Abilities

The six abilities in sheet order, with the names and abbreviations by which clauses and attribute
keys refer to them.
-/

namespace CharacterSheet

/-- One of the six abilities. -/
inductive Ability where
  | strength
  | dexterity
  | constitution
  | intelligence
  | wisdom
  | charisma
deriving DecidableEq, Repr

namespace Ability

/-- All abilities in sheet order. -/
def all : List Ability := [strength, dexterity, constitution, intelligence, wisdom, charisma]

/-- The position in sheet order. -/
def rank : Ability → Nat
  | strength => 0
  | dexterity => 1
  | constitution => 2
  | intelligence => 3
  | wisdom => 4
  | charisma => 5

theorem rank_injective {a b : Ability} (h : a.rank = b.rank) : a = b := by
  cases a <;> cases b <;> simp_all [rank]

instance : Ord Ability := ⟨fun a b => compare a.rank b.rank⟩

instance : Std.TransOrd Ability := inferInstanceAs (Std.TransCmp (compareOn rank))

instance : Std.LawfulEqOrd Ability where
  eq_of_compare h := rank_injective (Std.LawfulEqOrd.eq_of_compare (α := Nat) h)

/-- The full name, in lower case. -/
def name : Ability → String
  | strength => "strength"
  | dexterity => "dexterity"
  | constitution => "constitution"
  | intelligence => "intelligence"
  | wisdom => "wisdom"
  | charisma => "charisma"

/-- The first three letters of the name. -/
def abbreviation : Ability → String
  | strength => "str"
  | dexterity => "dex"
  | constitution => "con"
  | intelligence => "int"
  | wisdom => "wis"
  | charisma => "cha"

/-- The attribute key under which contributions raise the ability. -/
def bonusKey (a : Ability) : String := a.name ++ "Bonus"

/-- The name under which the modifier is published as a roll variable. -/
def variableName : Ability → String
  | strength => "STRMOD"
  | dexterity => "DEXMOD"
  | constitution => "CONMOD"
  | intelligence => "INTMOD"
  | wisdom => "WISMOD"
  | charisma => "CHAMOD"

/-- Reads a name or an abbreviation in any case, with blanks around it. -/
def parse? (s : String) : Option Ability :=
  let s := Text.fold s
  all.find? fun a => a.name == s || a.abbreviation == s

/-- Reads an ability from data: its full name, in lower case. -/
def ofData? : Data → Option Ability := Data.named? all name

/-- The ability that a full name in lower case spells. -/
def ofName? (s : String) : Option Ability := all.find? fun a => a.name == s

end Ability

end CharacterSheet
