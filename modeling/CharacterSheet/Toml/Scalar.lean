import CharacterSheet.Data.Basic
import CharacterSheet.Binary64.Decimal
import CharacterSheet.Json.Reader

/-!
# TOML scalars

Strings, keys, numbers and dates. A reader takes the characters from where it stands and answers
what it read together with the characters behind it.
-/

namespace CharacterSheet.Toml

/-- A blank within a line. -/
def isBlank (c : Char) : Bool := c == ' ' || c == '\t'

/-- The text behind blanks of the line. -/
def skipBlanks (s : List Char) : List Char := s.dropWhile isBlank

/-- A character that may stand in a comment or a string as it is. -/
def isPlain (c : Char) : Bool := c == '\t' || (0x20 ≤ c.toNat && c.toNat ≠ 0x7F)

/-- Passes over a line break. -/
def newline? : List Char → Option (List Char)
  | '\n' :: rest => some rest
  | '\r' :: '\n' :: rest => some rest
  | _ => none

/-- Passes over the rest of a comment up to the end of its line. -/
def skipComment : List Char → List Char
  | '#' :: rest => rest.dropWhile isPlain
  | s => s

/-- Passes over blanks, comments and line breaks; `fuel` bounds the number of lines. -/
def skipLines : Nat → List Char → List Char
  | 0, s => s
  | fuel + 1, s =>
    match newline? (skipComment (skipBlanks s)) with
    | some rest => skipLines fuel rest
    | none => skipComment (skipBlanks s)

/-! ## Strings -/

/-- The value of a row of hexadecimal digits. -/
def hexValue? (digits : List Char) : Option Nat :=
  digits.foldlM (fun n c => (Json.hexDigit? c).map (16 * n + ·)) 0

/-- The character with a code point, unless that is a surrogate or out of range. -/
def scalar? (n : Nat) : Option Char :=
  if n < 0xD800 ∨ (0xE000 ≤ n ∧ n < 0x110000) then some (Char.ofNat n) else none

/-- Reads an escape behind its backslash. -/
def escape? : List Char → Option (Char × List Char)
  | 'b' :: rest => some ('\x08', rest)
  | 't' :: rest => some ('\t', rest)
  | 'n' :: rest => some ('\n', rest)
  | 'f' :: rest => some ('\x0c', rest)
  | 'r' :: rest => some ('\r', rest)
  | '"' :: rest => some ('"', rest)
  | '\\' :: rest => some ('\\', rest)
  | 'u' :: rest => coded 4 rest
  | 'U' :: rest => coded 8 rest
  | _ => none
where
  /-- Reads a code point written with a number of hexadecimal digits. -/
  coded (count : Nat) (s : List Char) : Option (Char × List Char) := do
    let digits := s.take count
    if digits.length ≠ count then none
    return (← scalar? (← hexValue? digits), s.drop count)

/-- Reads a basic string behind its quote, on one line. -/
def basic? : Nat → List Char → Option (List Char × List Char)
  | _, '"' :: rest => some ([], rest)
  | fuel + 1, '\\' :: rest => do
    let (c, rest) ← escape? rest
    let (text, rest) ← basic? fuel rest
    return (c :: text, rest)
  | fuel + 1, c :: rest =>
    if isPlain c then (basic? fuel rest).map fun (text, rest) => (c :: text, rest) else none
  | _, _ => none

/-- Reads a literal string behind its quote, on one line. -/
def literal? : List Char → Option (List Char × List Char)
  | '\'' :: rest => some ([], rest)
  | c :: rest =>
    if isPlain c then (literal? rest).map fun (text, rest) => (c :: text, rest) else none
  | [] => none

/-- The quotes at the end of a string of several lines: up to two belong to the text before the
three that close it. Any more quotes are behind the string, where none can stand. -/
def closing? (quote : Char) (s : List Char) : Option (List Char × List Char) :=
  let count := min (s.takeWhile (· == quote)).length 5
  if count < 3 then none else some (List.replicate (count - 3) quote, s.drop count)

/-- Passes over the blank rest of a line behind a backslash and over all blanks and line breaks up
to the next other character. -/
def joinLines? (s : List Char) : Option (List Char) := do
  let rest ← newline? (skipBlanks s)
  return skipAll (rest.length + 1) rest
where
  /-- Passes over blanks and line breaks; `fuel` bounds the number of lines. -/
  skipAll : Nat → List Char → List Char
    | 0, s => s
    | fuel + 1, s =>
      match newline? (skipBlanks s) with
      | some rest => skipAll fuel rest
      | none => skipBlanks s

/-- Reads a string of several lines in which escapes are read. -/
def longBasic? : Nat → List Char → Option (List Char × List Char)
  | 0, _ => none
  | fuel + 1, s =>
    match closing? '"' s with
    | some closed => some closed
    | none =>
      match s with
      | '\\' :: rest =>
        match joinLines? rest with
        | some rest => longBasic? fuel rest
        | none => do
          let (c, rest) ← escape? rest
          let (text, rest) ← longBasic? fuel rest
          return (c :: text, rest)
      | s =>
        match newline? s, s with
        | some rest, _ => (longBasic? fuel rest).map fun (text, rest) => ('\n' :: text, rest)
        | none, c :: rest =>
          if isPlain c then (longBasic? fuel rest).map fun (text, rest) => (c :: text, rest)
          else none
        | none, [] => none

/-- Reads a string of several lines in which nothing is escaped. -/
def longLiteral? : Nat → List Char → Option (List Char × List Char)
  | 0, _ => none
  | fuel + 1, s =>
    match closing? '\'' s with
    | some closed => some closed
    | none =>
      match newline? s, s with
      | some rest, _ => (longLiteral? fuel rest).map fun (text, rest) => ('\n' :: text, rest)
      | none, c :: rest =>
        if isPlain c then (longLiteral? fuel rest).map fun (text, rest) => (c :: text, rest)
        else none
      | none, [] => none

/-- Reads a string of any of the four forms. A line break right behind the quotes that open a
string of several lines does not count. -/
def string? (s : List Char) : Option (List Char × List Char) :=
  let fuel := s.length + 1
  match s with
  | '"' :: '"' :: '"' :: rest => longBasic? fuel ((newline? rest).getD rest)
  | '\'' :: '\'' :: '\'' :: rest => longLiteral? fuel ((newline? rest).getD rest)
  | '"' :: rest => basic? fuel rest
  | '\'' :: rest => literal? rest
  | _ => none

/-! ## Keys -/

/-- A character of a key without quotes. -/
def isBare (c : Char) : Bool :=
  ('a' ≤ c && c ≤ 'z') || ('A' ≤ c && c ≤ 'Z') || Decimal.isDigit c || c == '-' || c == '_'

/-- Reads a key without dots. -/
def simpleKey? : List Char → Option (String × List Char)
  | '"' :: rest =>
    (basic? (rest.length + 1) rest).map fun (text, rest) => (String.ofList text, rest)
  | '\'' :: rest => (literal? rest).map fun (text, rest) => (String.ofList text, rest)
  | s =>
    let key := s.takeWhile isBare
    if key.isEmpty then none else some (String.ofList key, s.dropWhile isBare)

/-- Reads a key of at most `count` parts with dots between, and the blanks around them. -/
def keyParts? : (count : Nat) → List Char → Option (List String × List Char)
  | 0, _ => none
  | count + 1, s => do
    let (part, rest) ← simpleKey? (skipBlanks s)
    match skipBlanks rest with
    | '.' :: rest =>
      let (parts, rest) ← keyParts? count rest
      return (part :: parts, rest)
    | rest => return ([part], rest)

/-- Reads a key, as the list of its parts. It has at most 79 of them. -/
def key? (s : List Char) : Option (List String × List Char) := keyParts? 79 s

/-! ## Numbers -/

/-- The digits of a row in which underscores may stand between digits. -/
def digits? (isDigit : Char → Bool) : List Char → Option (List Char)
  | [] => none
  | [c] => if isDigit c then some [c] else none
  | c :: '_' :: rest => if isDigit c then (digits? isDigit rest).map (c :: ·) else none
  | c :: rest => if isDigit c then (digits? isDigit rest).map (c :: ·) else none

/-- The digits of a decimal row that does not begin with a superfluous zero. -/
def decimal? (s : List Char) : Option (List Char) := do
  let digits ← digits? Decimal.isDigit s
  if digits.head? = some '0' ∧ digits.length ≠ 1 then none else some digits

/-- A whole number of 64 bits. -/
def int64? (n : Int) : Option Data :=
  if -9223372036854775808 ≤ n ∧ n ≤ 9223372036854775807 then some (.int n) else none

/-- The value of digits in a base up to sixteen, with underscores. -/
def based? (base : Nat) (s : List Char) : Option Data := do
  let isDigit (c : Char) : Bool := (Json.hexDigit? c).any (· < base)
  let digits ← digits? isDigit s
  int64? (digits.foldl (fun n c => base * n + (Json.hexDigit? c).getD 0) 0 : Nat)

/-- A whole number. -/
def integer? (s : List Char) : Option Data :=
  match s with
  | '0' :: 'x' :: rest => based? 16 rest
  | '0' :: 'o' :: rest => based? 8 rest
  | '0' :: 'b' :: rest => based? 2 rest
  | s => do
    let (negative, body) := Decimal.sign s
    let n : Int := Decimal.ofDigits (← decimal? body)
    int64? (if negative then -n else n)

/-- The exponent of a number behind the letter. -/
def exponent? (s : List Char) : Option Int := do
  let (negative, body) := Decimal.sign s
  let n : Int := Decimal.ofDigits (← digits? Decimal.isDigit body)
  return if negative then -n else n

/-- A number with a point, an exponent or both, or one of the names of what is not finite. A number
that is too large is refused. -/
def float? (s : List Char) : Option Data := do
  let (negative, body) := Decimal.sign s
  if body = "inf".toList then return .float (.infinite negative)
  if body = "nan".toList then return .float .nan
  let isMark (c : Char) : Bool := c == 'e' || c == 'E'
  let mantissa := body.takeWhile (!isMark ·)
  let tail := body.dropWhile (!isMark ·)
  let exponent ← match tail with
    | [] => some 0
    | _ :: rest => exponent? rest
  let whole ← decimal? (mantissa.takeWhile (· ≠ '.'))
  let fraction ← match mantissa.dropWhile (· ≠ '.') with
    | [] => if tail.isEmpty then none else some []
    | _ :: rest => digits? Decimal.isDigit rest
  let x := (Decimal.mk negative (Decimal.ofDigits (whole ++ fraction))
    (exponent - fraction.length)).nearest
  if x = .infinite false then none else some (.float x)

/-! ## Dates -/

/-- The value of a row of exactly `count` digits. -/
def fixed? (count : Nat) (s : List Char) : Option Nat :=
  if s.length = count && s.all Decimal.isDigit then some (Decimal.ofDigits s) else none

/-- How many days a month has. -/
def daysIn (year month : Nat) : Nat :=
  if month = 2 then
    if year % 4 = 0 ∧ (year % 100 ≠ 0 ∨ year % 400 = 0) then 29 else 28
  else if month = 4 ∨ month = 6 ∨ month = 9 ∨ month = 11 then 30
  else 31

/-- Whether a text is a date: year, month and day. -/
def isDate (s : List Char) : Bool :=
  match fixed? 4 (s.take 4), fixed? 2 ((s.drop 5).take 2), fixed? 2 (s.drop 8) with
  | some year, some month, some day =>
    s[4]? = some '-' && s[7]? = some '-' && 1 ≤ month && month ≤ 12 && 1 ≤ day &&
      day ≤ daysIn year month
  | _, _, _ => false

/-- Whether a text is a time of day: hours, minutes, seconds and perhaps a fraction. -/
def isTime (s : List Char) : Bool :=
  match fixed? 2 (s.take 2), fixed? 2 ((s.drop 3).take 2), fixed? 2 ((s.drop 6).take 2) with
  | some hour, some minute, some second =>
    s[2]? = some ':' && s[5]? = some ':' && hour < 24 && minute < 60 && second ≤ 60 &&
      match s.drop 8 with
      | [] => true
      | '.' :: rest => !rest.isEmpty && rest.all Decimal.isDigit
      | _ => false
  | _, _, _ => false

/-- Whether a text is an offset from universal time. -/
def isOffset (s : List Char) : Bool :=
  match s with
  | [c] => c == 'Z' || c == 'z'
  | c :: rest =>
    (c == '+' || c == '-') && rest[2]? = some ':' &&
      (fixed? 2 (rest.take 2)).any (· < 24) && (fixed? 2 (rest.drop 3)).any (· < 60)
  | [] => false

/-- Whether a text is a time of day, perhaps with an offset. -/
def isTimeWithOffset (s : List Char) : Bool :=
  let isTimeCharacter (c : Char) : Bool := Decimal.isDigit c || c == ':' || c == '.'
  let offset := s.dropWhile isTimeCharacter
  isTime (s.takeWhile isTimeCharacter) && (offset.isEmpty || isOffset offset)

/-- A date, a time of day, or both with a `T` or a blank between. -/
def isDateTime (s : List Char) : Bool :=
  isDate s || isTime s ||
    (isDate (s.take 10) && ((s[10]?).any fun c => c == 'T' || c == 't' || c == ' ') &&
      isTimeWithOffset (s.drop 11))

/-- The data of a date or time. -/
def dateTime? (s : List Char) : Option Data :=
  if isDateTime s then some (.record [("datetime", .text (String.ofList s))]) else none

/-- A character of a number, a date or a name of a value. -/
def isScalarCharacter (c : Char) : Bool := isBare c || c == '+' || c == '.' || c == ':'

/-- Reads a scalar that is no string. A blank behind a date belongs to it if a digit follows. -/
def scalarValue? (s : List Char) : Option (Data × List Char) := do
  let head := s.takeWhile isScalarCharacter
  let rest := s.dropWhile isScalarCharacter
  let (word, rest) := match rest with
    | ' ' :: c :: tail =>
      if isDate head && Decimal.isDigit c then
        (head ++ ' ' :: (c :: tail).takeWhile isScalarCharacter,
          (c :: tail).dropWhile isScalarCharacter)
      else (head, rest)
    | _ => (head, rest)
  let value ←
    if word = "true".toList then some (.bool true)
    else if word = "false".toList then some (.bool false)
    else dateTime? word <|> integer? word <|> float? word
  return (value, rest)

end CharacterSheet.Toml
