/-!
# Binary64 magnitudes

The positive numbers of the format binary64, as a mantissa below 2⁵³ times a power of two that is
at least 2⁻¹⁰⁷⁴. All arithmetic is exact.
-/

namespace Retouch.Decimal

structure Binary64 where
  mantissa : Nat
  exponent : Int
deriving DecidableEq

/-- The integer nearest to a quotient. A half goes to the even neighbour. -/
def roundDiv (num den : Nat) : Nat :=
  let quotient := num / den
  let twice := 2 * (num % den)
  if twice < den then quotient
  else if den < twice then quotient + 1
  else quotient + quotient % 2

namespace Binary64

def mantissaBound : Nat := 9007199254740992

def leastExponent : Int := -1074

def greatestExponent : Int := 971

/-- The number nearest to `num / den`, or nothing if that is beyond the greatest number. -/
def nearest? (num den : Nat) : Option Binary64 :=
  if num = 0 then some ⟨0, leastExponent⟩
  else
    let scale : Int := num.log2 - den.log2
    let rounded (exponent : Int) : Nat × Nat :=
      (num * Nat.pow 2 (-exponent).toNat, den * Nat.pow 2 exponent.toNat)
    let guess := max (scale - 53) leastExponent
    let (top, bottom) := rounded guess
    let exponent := if mantissaBound ≤ top / bottom then guess + 1 else guess
    let (top, bottom) := rounded exponent
    let mantissa := roundDiv top bottom
    let x : Binary64 :=
      if mantissa = mantissaBound then ⟨mantissaBound / 2, exponent + 1⟩ else ⟨mantissa, exponent⟩
    if greatestExponent < x.exponent then none else some x

/-- The number nearest to `digits * 10 ^ exponent`. Exponents far outside the format are settled
by the number of digits. -/
def ofDecimal? (digits : Nat) (exponent : Int) : Option Binary64 :=
  let magnitude : Int := exponent + (Nat.toDigits 10 digits).length
  if digits = 0 ∨ magnitude < -400 then some ⟨0, leastExponent⟩
  else if 400 < magnitude then none
  else nearest? (digits * Nat.pow 10 exponent.toNat) (Nat.pow 10 (-exponent).toNat)

end Binary64

end Retouch.Decimal
