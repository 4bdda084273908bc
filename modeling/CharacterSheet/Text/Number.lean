import CharacterSheet.Binary64.Decimal

/-!
# Whole numbers in text
-/

namespace CharacterSheet.Text

/-- The natural number that Latin digits write, if it is at most `high`. -/
def natUpTo? (high : Nat) (digits : List Char) : Option Nat :=
  if digits.isEmpty || !digits.all Decimal.isDigit then none
  else if Decimal.ofDigits digits ≤ high then some (Decimal.ofDigits digits)
  else none

/-- The whole number of 32 bits that a text writes with an optional sign and Latin digits. -/
def int32? (s : List Char) : Option Int :=
  let (negative, digits) := Decimal.sign s
  if negative then (natUpTo? 2147483648 digits).map fun n => -(n : Int)
  else (natUpTo? 2147483647 digits).map fun n => (n : Int)

end CharacterSheet.Text
