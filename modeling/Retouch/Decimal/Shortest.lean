import Retouch.Decimal.Binary64

/-!
# Shortest decimals

The decimal with the fewest digits that reads back as a given number, and of those the nearest.
It is found on the coarsest grid of powers of ten that has a point in the interval of the reals
that round to the number.
-/

namespace Retouch.Decimal

structure Digits where
  digits : Nat
  exponent : Int
deriving DecidableEq

namespace Binary64

/-- The point of the grid with step `10 ^ exponent` that reads back as `x` and is nearest to it.
A tie goes up. Everything is compared in multiples of a quarter of the last place. -/
def gridPoint? (x : Binary64) (exponent : Int) : Option Nat :=
  let quarter := x.exponent - 2
  let step := Nat.pow 10 exponent.toNat * Nat.pow 2 (-quarter).toNat
  let unit := Nat.pow 2 quarter.toNat * Nat.pow 10 (-exponent).toNat
  let value := 4 * x.mantissa * unit
  let startsBinade : Bool := x.mantissa = mantissaBound / 2 ∧ leastExponent < x.exponent
  let low := value - (if startsBinade then 1 else 2) * unit
  let high := value + 2 * unit
  let readsBack (n : Nat) : Bool :=
    if x.mantissa % 2 = 0 then low ≤ n * step && n * step ≤ high
    else low < n * step && n * step < high
  let below := value / step
  let above := below + 1
  match readsBack below, readsBack above with
  | true, true => if value - below * step < above * step - value then some below else some above
  | true, false => some below
  | false, true => some above
  | false, false => none

def shortestFrom (x : Binary64) : Nat → Int → Digits
  | 0, exponent => ⟨0, exponent⟩
  | tries + 1, exponent =>
    match x.gridPoint? exponent with
    | some digits => ⟨digits, exponent⟩
    | none => x.shortestFrom tries (exponent - 1)

/-- The grids from 10³⁰⁹ down to 10⁻³⁴³ are enough for every number. -/
def shortest (x : Binary64) : Digits :=
  if x.mantissa = 0 then ⟨0, 0⟩ else x.shortestFrom 653 309

end Binary64

/-- Written without an exponent, always with a point and a digit on both sides of it. -/
def Digits.positional (d : Digits) : String :=
  let digits := Nat.toDigits 10 d.digits
  let places := (-d.exponent).toNat
  let padded := List.replicate (places + 1 - digits.length) '0' ++ digits ++
    List.replicate d.exponent.toNat '0'
  let whole := padded.take (padded.length - places)
  let fraction := padded.drop (padded.length - places)
  String.ofList (whole ++ '.' :: (if fraction.isEmpty then ['0'] else fraction))

end Retouch.Decimal
