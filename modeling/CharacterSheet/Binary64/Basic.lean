/-!
# Double-precision numbers

Contributions are added and scaled in double precision. A number is kept as the exact rational it
stands for, and every operation is computed exactly and then rounded once, to the nearest number
that 53 binary digits and the exponent range of the format allow, a tie going to the even
significand. So `add`, `mul` and `div` agree with exact arithmetic wherever the exact result is
representable, and proofs about them are proofs about rationals.

Zero comes with either sign, as in the format: `finite 0` is the positive one, which exact
cancellation gives, and `negZero` is what negative numbers too small for the format round to. The
two are equal in order and as rationals.
-/

namespace CharacterSheet

/-- A double-precision number. -/
inductive Binary64 where
  | finite (value : Rat)
  /-- The zero with a minus sign. -/
  | negZero
  | infinite (negative : Bool)
  | nan
deriving DecidableEq, Repr

namespace Binary64

/-- The integer nearest to a rational; halfway between two integers, the even one. -/
def nearestInt (q : Rat) : Int :=
  let below := q.floor
  let rest := q - below
  if rest < 1 / 2 then below
  else if 1 / 2 < rest then below + 1
  else if below % 2 = 0 then below
  else below + 1

/-- The exponent `e` with `2 ^ e ≤ |q| < 2 ^ (e + 1)`, for `q ≠ 0`. -/
def binaryExponent (q : Rat) : Int :=
  let guess : Int := (q.num.natAbs.log2 : Int) - q.den.log2
  if q.abs < (2 : Rat) ^ guess then guess - 1 else guess

/-- The exponent of the last binary digit that a number of the size of `q` can have: 53 digits
down from the first one, but never below that of the smallest positive number. -/
def unitExponent (q : Rat) : Int := max (binaryExponent q - 52) (-1074)

/-- The zero with a sign. -/
def zero (negative : Bool) : Binary64 := if negative then negZero else finite 0

/-- The number nearest to a rational, a tie going to the even significand; infinite from the
middle between the largest number and the next power of two on. What is rounded to zero keeps its
sign. -/
def round (q : Rat) : Binary64 :=
  let unit := (2 : Rat) ^ unitExponent q
  let rounded := nearestInt (q / unit) * unit
  if rounded.abs < (2 : Rat) ^ (1024 : Int) then
    if rounded = 0 then zero (q < 0) else .finite rounded
  else .infinite (q < 0)

/-- The number nearest to an integer. -/
def ofInt (n : Int) : Binary64 := round n

instance : OfNat Binary64 0 := ⟨.finite 0⟩

/-- Whether the number has a minus sign. -/
def isNegative : Binary64 → Bool
  | finite q => q < 0
  | negZero => true
  | infinite negative => negative
  | nan => false

/-- Whether the number is one of the rationals. -/
def isFinite : Binary64 → Bool
  | finite _ => true
  | negZero => true
  | _ => false

/-- The rational that a finite number stands for; zero for the others. -/
def rat : Binary64 → Rat
  | finite q => q
  | _ => 0

/-- Whether the number is one of the two zeros. -/
def isZero (x : Binary64) : Bool := x.isFinite && x.rat = 0

/-- The number with the other sign. -/
def neg : Binary64 → Binary64
  | finite q => if q = 0 then negZero else finite (-q)
  | negZero => finite 0
  | infinite negative => infinite !negative
  | nan => nan

/-- Sum. Opposite infinities have none. The negative zero changes nothing that it is added to. -/
def add : Binary64 → Binary64 → Binary64
  | finite p, finite q => round (p + q)
  | negZero, y => y
  | x, negZero => x
  | finite _, infinite negative => infinite negative
  | infinite negative, finite _ => infinite negative
  | infinite a, infinite b => if a = b then infinite a else nan
  | _, _ => nan

/-- A rational of which the sign is known, also where it is zero, rounded to a number. -/
def roundSigned (negative : Bool) (q : Rat) : Binary64 := if q = 0 then zero negative else round q

/-- Product. Infinity times zero has none. -/
def mul (x y : Binary64) : Binary64 :=
  let negative := x.isNegative != y.isNegative
  match x, y with
  | nan, _ => nan
  | _, nan => nan
  | infinite _, y => if y.isZero then nan else infinite negative
  | x, infinite _ => if x.isZero then nan else infinite negative
  | x, y => roundSigned negative (x.rat * y.rat)

/-- Quotient. Dividing a number other than zero by zero gives infinity. -/
def div (x y : Binary64) : Binary64 :=
  let negative := x.isNegative != y.isNegative
  match x, y with
  | nan, _ => nan
  | _, nan => nan
  | infinite _, infinite _ => nan
  | infinite _, _ => infinite negative
  | _, infinite _ => zero negative
  | x, y =>
    if y.isZero then (if x.isZero then nan else infinite negative)
    else roundSigned negative (x.rat / y.rat)

/-- Strict order; nothing is related to a number that is not one, and the zeros are not related to
each other. -/
def lt : Binary64 → Binary64 → Bool
  | nan, _ => false
  | _, nan => false
  | infinite a, infinite b => a && !b
  | infinite negative, _ => negative
  | _, infinite negative => !negative
  | x, y => x.rat < y.rat

/-- The larger of two numbers, the first one where they are equal; one that is not a number yields
to the other. -/
def max : Binary64 → Binary64 → Binary64
  | nan, y => y
  | x, nan => x
  | x, y => if x.lt y then y else x

/-- The smaller of two numbers, the first one where they are equal; one that is not a number yields
to the other. -/
def min : Binary64 → Binary64 → Binary64
  | nan, y => y
  | x, nan => x
  | x, y => if y.lt x then y else x

/-- The largest integer that is not above the number, brought into the range from `low` to `high`;
zero when it is not a number. -/
def floorWithin (low high : Int) : Binary64 → Int
  | infinite negative => if negative then low else high
  | nan => 0
  | x => Max.max low (Min.min high x.rat.floor)

/-- The whole number that the sheet shows: rounded down, in 32 bits. -/
def toWhole : Binary64 → Int := floorWithin (-2147483648) 2147483647

end Binary64

end CharacterSheet
