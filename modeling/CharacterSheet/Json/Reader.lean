import CharacterSheet.Data.Basic
import CharacterSheet.Binary64.Decimal

/-!
# Reading JSON

`Json.read?` reads one JSON text. Of several fields with one name the last counts, lists and
records may be nested 127 deep, and a number too large for double precision is refused.

A number without point and exponent that fits 64 bits is whole. Any other number is read with its
leading digits, as many as fit 64 bits, and scaled once by a power of ten; both steps round, so
such a number can differ from the nearest one in its last binary place.
-/

namespace CharacterSheet.Json

/-- White space between tokens. -/
def isSpace (c : Char) : Bool := c == ' ' || c == '\n' || c == '\t' || c == '\r'

/-- The text from its first token on. -/
def skipSpace (s : List Char) : List Char := s.dropWhile isSpace

/-- The value of a hexadecimal digit. -/
def hexDigit? (c : Char) : Option Nat :=
  if '0' ≤ c ∧ c ≤ '9' then some (c.toNat - '0'.toNat)
  else if 'a' ≤ c ∧ c ≤ 'f' then some (c.toNat - 'a'.toNat + 10)
  else if 'A' ≤ c ∧ c ≤ 'F' then some (c.toNat - 'A'.toNat + 10)
  else none

/-- The value of four hexadecimal digits. -/
def hex4? (a b c d : Char) : Option Nat := do
  return ((← hexDigit? a) * 16 + (← hexDigit? b)) * 256 + (← hexDigit? c) * 16 + (← hexDigit? d)

/-- The character that a one-letter escape stands for. -/
def escape? : Char → Option Char
  | '"' => some '"'
  | '\\' => some '\\'
  | '/' => some '/'
  | 'b' => some '\x08'
  | 'f' => some '\x0c'
  | 'n' => some '\n'
  | 'r' => some '\r'
  | 't' => some '\t'
  | _ => none

/-- Reads a text behind its opening quote, up to and with the closing one. A code point outside the
first plane is escaped as a pair of surrogates, and a surrogate without its partner is refused. -/
def readText? : List Char → Option (List Char × List Char)
  | [] => none
  | '"' :: rest => some ([], rest)
  | '\\' :: 'u' :: a :: b :: c :: d :: rest =>
    match hex4? a b c d with
    | none => none
    | some high =>
      if 0xD800 ≤ high ∧ high < 0xDC00 then
        match rest with
        | '\\' :: 'u' :: e :: f :: g :: h :: rest =>
          match hex4? e f g h with
          | none => none
          | some low =>
            if 0xDC00 ≤ low ∧ low < 0xE000 then
              (readText? rest).map fun (text, rest) =>
                (Char.ofNat (0x10000 + (high - 0xD800) * 0x400 + (low - 0xDC00)) :: text, rest)
            else none
        | _ => none
      else if 0xDC00 ≤ high ∧ high < 0xE000 then none
      else (readText? rest).map fun (text, rest) => (Char.ofNat high :: text, rest)
  | '\\' :: c :: rest =>
    match escape? c with
    | none => none
    | some c => (readText? rest).map fun (text, rest) => (c :: text, rest)
  | c :: rest =>
    if c.toNat < 0x20 ∨ c = '\\' then none
    else (readText? rest).map fun (text, rest) => (c :: text, rest)

/-- Appends digits to a significand as long as it fits 64 bits; answers how many were taken. -/
def absorb (significand : Nat) : List Char → Nat × Nat
  | [] => (significand, 0)
  | c :: rest =>
    let next := 10 * significand + (c.toNat - '0'.toNat)
    if next < 0x10000000000000000 then
      let (significand, taken) := absorb next rest
      (significand, taken + 1)
    else (significand, 0)

/-- A power of ten in double precision. -/
def powerOfTen (n : Nat) : Binary64 := Binary64.round ((10 : Rat) ^ n)

/-- Scales a number by a power of ten, at most 308 places at a time; no number when the result is
too large. Three steps down bring every significand of 64 bits to zero. -/
def scale? : Nat → Binary64 → Int → Option Binary64
  | 0, _, _ => some 0
  | steps + 1, x, exponent =>
    if exponent.natAbs ≤ 308 then
      if 0 ≤ exponent then
        let y := x.mul (powerOfTen exponent.toNat)
        if y.isFinite then some y else none
      else some (x.div (powerOfTen exponent.natAbs))
    else if x.isZero then some 0
    else if 0 ≤ exponent then none
    else scale? steps (x.div (powerOfTen 308)) (exponent + 308)

/-- The number that the parts of a JSON number write. -/
def number? (negative : Bool) (whole : List Char) (fraction : Option (List Char))
    (exponent : Option Int) : Option Data :=
  let value := Decimal.ofDigits whole
  if fraction.isNone && exponent.isNone && value < 0x10000000000000000 &&
      (!negative || (0 < value && value ≤ 0x8000000000000000)) then
    some (.int (if negative then -(value : Int) else value))
  else
    let (significand, taken) := absorb 0 whole
    let (significand, behind) := absorb significand (fraction.getD [])
    let places : Int := (whole.length : Int) - taken - behind + exponent.getD 0
    (scale? 4 (Binary64.ofInt significand) places).map fun x =>
      .float (if negative then x.neg else x)

/-- Reads the exponent of a number, if there is one: `e`, an optional sign and digits. -/
def readExponent? : List Char → Option (Option Int × List Char)
  | c :: rest =>
    if c = 'e' ∨ c = 'E' then
      let (negative, rest) := Decimal.sign rest
      let digits := rest.takeWhile Decimal.isDigit
      if digits.isEmpty then none
      else
        let value : Int := Decimal.ofDigits digits
        some (some (if negative then -value else value), rest.dropWhile Decimal.isDigit)
    else some (none, c :: rest)
  | [] => some (none, [])

/-- Reads a number. A whole part longer than one digit does not begin with zero, and digits follow
a point. -/
def readNumber? (s : List Char) : Option (Data × List Char) := do
  let (negative, s) := match s with
    | '-' :: rest => (true, rest)
    | _ => (false, s)
  let whole := s.takeWhile Decimal.isDigit
  let rest := s.dropWhile Decimal.isDigit
  if whole.isEmpty || (whole.head? == some '0' && whole.length ≠ 1) then none
  let (fraction, rest) ← match rest with
    | '.' :: rest =>
      let digits := rest.takeWhile Decimal.isDigit
      if digits.isEmpty then none else some (some digits, rest.dropWhile Decimal.isDigit)
    | _ => some (none, rest)
  let (exponent, rest) ← readExponent? rest
  return (← number? negative whole fraction exponent, rest)

/-- Puts a field into a record. A field of that name which is already there is replaced. -/
def putField (name : String) (value : Data) : List (String × Data) → List (String × Data)
  | [] => [(name, value)]
  | field :: fields =>
    if field.1 = name then (name, value) :: fields else field :: putField name value fields

mutual

/-- Reads a value behind white space. `fuel` bounds the recursion and `depth` counts how many
lists and records may still be opened. -/
def readValue? : Nat → Nat → List Char → Option (Data × List Char)
  | 0, _, _ => none
  | fuel + 1, depth, s =>
    match skipSpace s with
    | 'n' :: 'u' :: 'l' :: 'l' :: rest => some (.null, rest)
    | 't' :: 'r' :: 'u' :: 'e' :: rest => some (.bool true, rest)
    | 'f' :: 'a' :: 'l' :: 's' :: 'e' :: rest => some (.bool false, rest)
    | '"' :: rest => (readText? rest).map fun (text, rest) => (.text (String.ofList text), rest)
    | '[' :: rest =>
      match depth, skipSpace rest with
      | 0, _ => none
      | _ + 1, ']' :: rest => some (.list [], rest)
      | depth + 1, rest => readItems? fuel depth rest
    | '{' :: rest =>
      match depth, skipSpace rest with
      | 0, _ => none
      | _ + 1, '}' :: rest => some (.record [], rest)
      | depth + 1, rest => readFields? fuel depth [] rest
    | s => readNumber? s

/-- Reads the items of a list up to and with its closing bracket. -/
def readItems? : Nat → Nat → List Char → Option (Data × List Char)
  | 0, _, _ => none
  | fuel + 1, depth, s =>
    match readValue? fuel depth s with
    | none => none
    | some (item, rest) =>
      match skipSpace rest with
      | ']' :: rest => some (.list [item], rest)
      | ',' :: rest =>
        match readItems? fuel depth rest with
        | some (.list items, rest) => some (.list (item :: items), rest)
        | _ => none
      | _ => none

/-- Reads the fields of a record up to and with its closing brace; `fields` were read before. -/
def readFields? : Nat → Nat → List (String × Data) → List Char → Option (Data × List Char)
  | 0, _, _, _ => none
  | fuel + 1, depth, fields, s =>
    match skipSpace s with
    | '"' :: rest =>
      match readText? rest with
      | none => none
      | some (name, rest) =>
        match skipSpace rest with
        | ':' :: rest =>
          match readValue? fuel depth rest with
          | none => none
          | some (value, rest) =>
            let fields := putField (String.ofList name) value fields
            match skipSpace rest with
            | '}' :: rest => some (.record fields, rest)
            | ',' :: rest => readFields? fuel depth fields rest
            | _ => none
        | _ => none
    | _ => none

end

/-- Reads a JSON text: one value with nothing but white space around it. Every step of the
recursion but the opening of a list or record passes a character, which bounds the fuel. -/
def read? (s : String) : Option Data :=
  let chars := s.toList
  match readValue? (2 * chars.length + 2) 127 chars with
  | some (value, rest) => if (skipSpace rest).isEmpty then some value else none
  | none => none

end CharacterSheet.Json
