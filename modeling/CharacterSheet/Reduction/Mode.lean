import CharacterSheet.Trait.Basic

/-!
# Modes of reduction

The ways in which the contributions to one attribute are brought together, and what comes out.
-/

namespace CharacterSheet

/-- How contributions are brought together. -/
inductive Mode where
  | sum
  | max
  | or
  | first
  | values
  | lowerCaseValues
  | numericValues
  | mapped
  | summary
deriving DecidableEq, Repr

namespace Mode

/-- All modes. -/
def all : List Mode :=
  [sum, max, or, first, values, lowerCaseValues, numericValues, mapped, summary]

/-- The position in the list of modes. -/
def rank : Mode → Nat
  | sum => 0
  | max => 1
  | or => 2
  | first => 3
  | values => 4
  | lowerCaseValues => 5
  | numericValues => 6
  | mapped => 7
  | summary => 8

theorem rank_injective {a b : Mode} (h : a.rank = b.rank) : a = b := by
  cases a <;> cases b <;> simp_all [rank]

instance : Ord Mode := ⟨fun a b => compare a.rank b.rank⟩

instance : Std.TransOrd Mode := inferInstanceAs (Std.TransCmp (compareOn rank))

instance : Std.LawfulEqOrd Mode where
  eq_of_compare h := rank_injective (Std.LawfulEqOrd.eq_of_compare (α := Nat) h)

/-- The name by which data refers to the mode. -/
def name : Mode → String
  | sum => "SUM"
  | max => "MAX"
  | or => "OR"
  | first => "FIRST"
  | values => "VALUES"
  | lowerCaseValues => "VALUES_TO_LOWERCASE"
  | numericValues => "NUMERIC_VALUES"
  | mapped => "MAPPED"
  | summary => "SUMMARY"

/-- Reads a mode from data. -/
def ofData? : Data → Option Mode := Data.named? all name

end Mode

/-- A value together with the trait that contributes it. -/
structure SourcedValue where
  source : String
  sourceId : TraitId
  value : Value
  modifier : Option String
  situational : Bool
deriving DecidableEq, Repr

/-- What a reduction comes to. -/
inductive Reduced where
  | number (n : Int)
  | flag (b : Bool)
  | value (v : Option Value)
  | values (vs : List Value)
  | texts (ss : List String)
  | mapped (entries : List SourcedValue)
  | summary (s : String)
deriving DecidableEq, Repr

namespace Reduced

/-- The number of a numeric reduction. -/
def number? : Reduced → Option Int
  | number n => some n
  | _ => none

/-- The text of a summary. -/
def summary? : Reduced → Option String
  | summary s => some s
  | _ => none

end Reduced

end CharacterSheet
