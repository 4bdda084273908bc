import CharacterSheet.Binary64.Basic

/-!
# The binary interchange form

The 64 bits that stand for a number: a sign, eleven bits of exponent counted from −1023, and the
52 bits of the significand behind its first digit.
-/

namespace CharacterSheet.Binary64

/-- The place of the significand's first digit, two to the power of 52. -/
def firstDigit : Nat := 0x10000000000000

/-- The bit of the sign. -/
def signBit : Nat := 0x8000000000000000

/-- The bits of infinity: the largest exponent, and a significand of zero. -/
def infinityBits : Nat := 0x7ff0000000000000

/-- The bits of the magnitude of a finite number other than zero. -/
def magnitudeBits (q : Rat) : Nat :=
  let unit := unitExponent q
  let significand := (q.abs / (2 : Rat) ^ unit).floor.toNat
  if significand < firstDigit then significand
  else (unit + 1075).toNat * firstDigit + (significand - firstDigit)

/-- The 64 bits of a number, read as a natural number. What is not a number has none. -/
def bits? : Binary64 → Option Nat
  | finite q =>
    if q = 0 then some 0
    else some ((if q < 0 then signBit else 0) + magnitudeBits q)
  | negZero => some signBit
  | infinite negative => some ((if negative then signBit else 0) + infinityBits)
  | nan => none

end CharacterSheet.Binary64
