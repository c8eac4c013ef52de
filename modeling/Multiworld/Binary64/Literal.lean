import Multiworld.Binary64

/-!
# Decimal literals

The binary64 number that a decimal denotes. It is read in steps that round one by one: the
digits become the nearest number, and that is multiplied with a power of ten or divided by
one, where the power stands for the number nearest to it. A decimal of at most 15 digits
whose power is at most `10^22` is rounded only once, and so is read to the nearest number;
any other may be read to a neighbour of that.

## Main definitions

* `Binary64.tenPower?`: a power of ten
* `Binary64.timesTenPower?`, `Binary64.overTenPower?`: a number scaled by a power of ten
* `Binary64.ofDecimal?`: the number read for `digits * 10^exponent`
-/

namespace Multiworld.Binary64

/-- The number nearest to `10^e`; none above `10^308`, the largest power in range. -/
def tenPower? (e : Nat) : Option Binary64 :=
  if e ≤ 308 then ofRatio? false (Nat.pow 10 e) 1 else none

/-- The rounded product with `10^e`; none if that is too large. Zero stays zero, whatever
the power. -/
def timesTenPower? (x : Binary64) (e : Nat) : Option Binary64 := do
  if x.units = 0 then return x
  x.mul? (← tenPower? e)

/-- The rounded quotient by `10^e`, for a number below `2^64`. What lies above `10^308` is
divided out in a second step, and two powers `10^308` leave nothing of such a number. -/
def overTenPower? (x : Binary64) (e : Nat) : Option Binary64 := do
  let y ← x.div? (← tenPower? (min e 308))
  y.div? (← tenPower? (min (e - 308) 308))

/-- The number read for `digits * 10^exponent`, for digits below `2^64`; none if that is too
large. -/
def ofDecimal? (negative : Bool) (digits : Nat) (exponent : Int) : Option Binary64 := do
  let x ← ofRatio? negative digits 1
  if exponent < 0 then x.overTenPower? exponent.natAbs else x.timesTenPower? exponent.natAbs

end Multiworld.Binary64
