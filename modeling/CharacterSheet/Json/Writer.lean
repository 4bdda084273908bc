import CharacterSheet.Data.Basic
import CharacterSheet.Binary64.Decimal

/-!
# Writing JSON

The compact JSON text of a document. Characters outside the Latin script are written as they are;
quotes, backslashes and control characters are escaped.
-/

namespace CharacterSheet.Json

/-- A hexadecimal digit, in lower case. -/
def hexDigit (n : Nat) : Char := Nat.digitChar (n % 16)

/-- A character inside a quoted text. -/
def escape (c : Char) : List Char :=
  match c with
  | '"' => ['\\', '"']
  | '\\' => ['\\', '\\']
  | '\x08' => ['\\', 'b']
  | '\x0c' => ['\\', 'f']
  | '\n' => ['\\', 'n']
  | '\r' => ['\\', 'r']
  | '\t' => ['\\', 't']
  | c =>
    if c.toNat < 0x20 then ['\\', 'u', '0', '0', hexDigit (c.toNat / 16), hexDigit c.toNat]
    else [c]

/-- A text in quotes. -/
def quote (s : String) : String := String.ofList ('"' :: s.toList.flatMap escape ++ ['"'])

/-- A decimal as a JSON number with a point or an exponent: positional while the first digit stands
at most sixteen places before and four behind the point, otherwise with an exponent. -/
def decimalText (d : Decimal) : String :=
  let digits := Nat.toDigits 10 d.significand
  let places : Int := digits.length + d.exponent
  if 0 ≤ d.exponent ∧ places ≤ 16 then d.positional ++ ".0"
  else if -5 < places ∧ places ≤ 16 then d.positional
  else
    let mantissa := match digits with
      | [] => []
      | [c] => [c]
      | c :: rest => c :: '.' :: rest
    (if d.negative then "-" else "") ++ String.ofList mantissa ++ "e" ++ toString (places - 1)

/-- A number with the fewest digits that read back the same; what is not finite has no JSON form
and becomes null. -/
def numberText : Binary64 → String
  | .finite q => decimalText (Decimal.shortest .even q)
  | .negZero => "-0.0"
  | _ => "null"

mutual

/-- The JSON text of a document. -/
def write : Data → String
  | .null => "null"
  | .bool b => if b then "true" else "false"
  | .int n => toString n
  | .float x => numberText x
  | .text s => quote s
  | .list items => "[" ++ writeItems items ++ "]"
  | .record fields => "\x7b" ++ writeFields fields ++ "\x7d"

/-- The items of a list, separated by commas. -/
def writeItems : List Data → String
  | [] => ""
  | [d] => write d
  | d :: rest => write d ++ "," ++ writeItems rest

/-- The fields of a record, separated by commas. -/
def writeFields : List (String × Data) → String
  | [] => ""
  | [(name, value)] => quote name ++ ":" ++ write value
  | (name, value) :: rest => quote name ++ ":" ++ write value ++ "," ++ writeFields rest

end

end CharacterSheet.Json
