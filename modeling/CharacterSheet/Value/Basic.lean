import CharacterSheet.Binary64.Decimal
import CharacterSheet.Data.Basic
import CharacterSheet.Text.Basic

/-!
# Values

What a contribution carries toward an attribute: a truth value, a number, a text, or nothing.
-/

namespace CharacterSheet

/-- The value of a contribution. -/
inductive Value where
  | bool (b : Bool)
  | number (x : Binary64)
  | text (s : String)
  | null
deriving DecidableEq, Repr, Inhabited

namespace Value

/-- A whole number as a value. -/
def ofInt (n : Int) : Value := number (Binary64.ofInt n)

/-- Whether there is no value. -/
def isNull : Value → Bool
  | null => true
  | _ => false

/-- Whether the value switches something on. A text does unless it is blank, `0`, or `false` in any
case. -/
def isTruthy : Value → Bool
  | bool b => b
  | number x => !x.isZero
  | text s =>
    let s := Text.trim s
    s ≠ "" && !Text.sameLatin s "false" && s ≠ "0"
  | null => false

/-- The number that a text writes: blanks around it and one plus sign before it are passed over,
and what remains is a finite decimal. -/
def parseNumber? (s : String) : Option Binary64 :=
  let s := Text.trimChars s.toList
  let s := match s with
    | '+' :: rest => rest
    | _ => s
  match Decimal.read? s with
  | some d => if d.nearest.isFinite then some d.nearest else none
  | none => none

/-- The number that a value is or writes, without directives and variables. -/
def number? : Value → Option Binary64
  | number x => some x
  | text s => parseNumber? s
  | _ => none

/-- The text of a text value. -/
def text? : Value → Option String
  | text s => some s
  | _ => none

/-- A number as the sheet shows it: a whole one as an integer of 64 bits, any other one with the
fewest digits that read back the same. -/
def displayNumber (x : Binary64) : String :=
  match x with
  | .finite q =>
    if q.den = 1 then
      toString (x.floorWithin (-9223372036854775808) 9223372036854775807)
    else x.positional
  | .negZero => "0"
  | x => x.positional

/-- A value as the sheet shows it. -/
def display : Value → String
  | bool b => if b then "true" else "false"
  | number x => displayNumber x
  | text s => s
  | null => ""

/-- Reads a value from data; lists and records are none. -/
def ofData? : Data → Option Value
  | .null => some null
  | .bool b => some (bool b)
  | .int n => some (ofInt n)
  | .float x => some (number x)
  | .text s => some (text s)
  | _ => none

/-- The data of a value. -/
def toData : Value → Data
  | bool b => .bool b
  | number x => .float x
  | text s => .text s
  | null => .null

end Value

end CharacterSheet
