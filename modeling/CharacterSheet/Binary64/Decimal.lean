import CharacterSheet.Binary64.Basic

/-!
# Decimal forms of a number

A decimal is a whole significand times a power of ten. `Decimal.read?` reads one from text and
`Decimal.nearest` rounds it to a number. In the other direction `Decimal.shortest` finds, for a
number, the decimal with the fewest digits that reads back as the same number and, among those,
the one nearest to it.
-/

namespace CharacterSheet

/-- The decimal `significand * 10 ^ exponent`, below zero when `negative`. -/
structure Decimal where
  negative : Bool
  significand : Nat
  exponent : Int
deriving DecidableEq, Repr

namespace Decimal

/-- One of the ten digits of the Latin script. -/
def isDigit (c : Char) : Bool := '0' ≤ c && c ≤ '9'

/-- The natural number that a row of digits writes, most significant digit first. -/
def ofDigits (digits : List Char) : Nat :=
  digits.foldl (fun n c => 10 * n + (c.toNat - '0'.toNat)) 0

/-- How many decimal digits a natural number has; zero has one. -/
def digitCount (n : Nat) : Nat := (Nat.toDigits 10 n).length

/-- Splits a sign off a text. -/
def sign : List Char → Bool × List Char
  | '-' :: rest => (true, rest)
  | '+' :: rest => (false, rest)
  | s => (false, s)

/-- Reads the exponent behind a significand: nothing, or `e`, an optional sign and digits. -/
def readExponent? : List Char → Option Int
  | [] => some 0
  | c :: rest =>
    if c = 'e' ∨ c = 'E' then
      let (negative, digits) := sign rest
      if digits.isEmpty || !digits.all isDigit then none
      else some (if negative then -(ofDigits digits : Int) else ofDigits digits)
    else none

/-- Reads an optional sign, digits with at most one point among, before or behind them, and an
optional exponent. At least one digit has to stand before the exponent. -/
def read? (s : List Char) : Option Decimal :=
  let (negative, body) := sign s
  let whole := body.takeWhile isDigit
  let rest := body.dropWhile isDigit
  let (fraction, rest) := match rest with
    | '.' :: rest => (rest.takeWhile isDigit, rest.dropWhile isDigit)
    | rest => ([], rest)
  if whole.isEmpty && fraction.isEmpty then none
  else (readExponent? rest).map fun exponent =>
    ⟨negative, ofDigits (whole ++ fraction), exponent - fraction.length⟩

/-- The number nearest to a decimal. Beyond 400 places before or behind the point no power of ten
is computed: the decimal is far outside the range of numbers there. A zero keeps its sign. -/
def nearest (d : Decimal) : Binary64 :=
  if d.significand = 0 then .zero d.negative
  else
    let places := digitCount d.significand + d.exponent
    if 400 < places then .infinite d.negative
    else if places < -400 then .zero d.negative
    else
      let magnitude : Rat := d.significand * (10 : Rat) ^ d.exponent
      Binary64.round (if d.negative then -magnitude else magnitude)

/-- Which of two equally near decimals is taken. -/
inductive Tie where
  | away
  | even
deriving DecidableEq, Repr

/-- The exponent `e` with `10 ^ e ≤ q < 10 ^ (e + 1)`, for `q > 0`. -/
def decimalExponent (q : Rat) : Int :=
  if 1 ≤ q then digitCount q.floor.toNat - 1
  else
    let count := digitCount q⁻¹.floor.toNat
    if 1 ≤ q * (10 : Rat) ^ (count - 1 : Int) then 1 - (count : Int) else -(count : Int)

/-- The decimal with the given last place that reads back as `q > 0` and is nearest to it, if
there is one: it is one of the two neighbours of `q` among the multiples of that place. -/
def neighbour? (tie : Tie) (q : Rat) (exponent : Int) : Option Nat :=
  let place := (10 : Rat) ^ exponent
  let low := (q / place).floor.toNat
  let rest := q / place - low
  let readsBack (n : Nat) : Bool := Binary64.round (n * place) = .finite q
  let lowFirst := rest < 1 / 2 ∨ (rest = 1 / 2 ∧ tie = .even ∧ low % 2 = 0)
  match readsBack low, readsBack (low + 1) with
  | true, true => some (if lowFirst then low else low + 1)
  | true, false => some low
  | false, true => some (low + 1)
  | false, false => none

/-- Tries `count` numbers of digits, the next one being the one whose last place is `exponent`. -/
def shortestFrom (tie : Tie) (q : Rat) (exponent : Int) : Nat → Nat × Int
  | 0 => ((q / (10 : Rat) ^ exponent).floor.toNat, exponent)
  | count + 1 =>
    match neighbour? tie q exponent with
    | some n => (n, exponent)
    | none => shortestFrom tie q (exponent - 1) count

/-- The decimal with the fewest digits that reads back as the number `q`; seventeen digits always
suffice. The first place tried is one above the first digit of `q`, since a number just below a
power of ten may read back from that power. -/
def shortest (tie : Tie) (q : Rat) : Decimal :=
  if q = 0 then ⟨false, 0, 0⟩
  else
    let (significand, exponent) := shortestFrom tie q.abs (decimalExponent q.abs + 1) 18
    ⟨decide (q < 0), significand, exponent⟩

/-- The digits of a decimal without exponent: zeros are written between the digits and the point
where its place is outside the digits, and a whole number has no point. -/
def positional (d : Decimal) : String :=
  let digits := Nat.toDigits 10 d.significand
  let count : Int := digits.length
  let body :=
    if 0 ≤ d.exponent then digits ++ List.replicate d.exponent.toNat '0'
    else if 0 < count + d.exponent then
      let front := (count + d.exponent).toNat
      digits.take front ++ '.' :: digits.drop front
    else '0' :: '.' :: List.replicate (-(count + d.exponent)).toNat '0' ++ digits
  String.ofList (if d.negative then '-' :: body else body)

end Decimal

/-- A number written with the fewest digits that read back the same, without exponent. -/
def Binary64.positional : Binary64 → String
  | finite q => (Decimal.shortest .away q).positional
  | negZero => "-0"
  | infinite negative => if negative then "-inf" else "inf"
  | nan => "NaN"

end CharacterSheet
