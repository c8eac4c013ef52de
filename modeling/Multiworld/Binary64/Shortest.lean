import Multiworld.Binary64

/-!
# Shortest decimals

The shortest decimal of a binary64 number is the decimal with the fewest digits among
those nearer to it than to any other number; of several it is the nearest. It is found
on the decimal grids `10^k`, coarsest first: if any point of a grid rounds to the number,
one of the number's two neighbours on that grid does.

## Main definitions

* `Decimal`: digits and a power of ten
* `Binary64.onGrid?`: the decimal of a given grid that rounds to the number, if any
* `Binary64.shortest`: the first of these over ever finer grids
-/

namespace Multiworld

/-- The decimal `digits * 10^exponent`. -/
structure Decimal where
  digits : Nat
  exponent : Int
deriving DecidableEq

/-- Which of two equally near decimals is taken: the one whose last digit is even, or
the larger one. -/
inductive Tie where
  | toEven
  | up
deriving DecidableEq

namespace Binary64

/-- The end below, in quarter units: half way to the next smaller number, which is
nearer by half at a power of two. -/
def lowEnd (units : Nat) : Nat :=
  if units.log2 - 52 ≠ 0 ∧ units = 1 <<< units.log2 then 4 * units - spacing units
  else 4 * units - 2 * spacing units

/-- The end above, in quarter units: half way to the next larger number. -/
def highEnd (units : Nat) : Nat := 4 * units + 2 * spacing units

/-- Whether the ends themselves round to the number: a tie goes to the even of the two
numbers. -/
def hasEnds (units : Nat) : Bool := units / spacing units % 2 = 0

/-- Whether `a / b` quarter units round to the number. -/
def roundsTo (units a b : Nat) : Bool :=
  if hasEnds units then lowEnd units * b ≤ a ∧ a ≤ highEnd units * b
  else lowEnd units * b < a ∧ a < highEnd units * b

/-- The multiple of `10^k` that rounds to the number, if there is one; of two the nearer. -/
def onGrid? (tie : Tie) (units : Nat) (k : Int) : Option Nat :=
  let step := Nat.pow 10 k.toNat <<< 1076
  let scale := Nat.pow 10 (-k).toNat
  let below := 4 * units * scale / step
  let above := below + 1
  match roundsTo units (below * step) scale, roundsTo units (above * step) scale with
  | false, false => none
  | true, false => some below
  | false, true => some above
  | true, true =>
    let down := 4 * units * scale - below * step
    let rise := above * step - 4 * units * scale
    if down < rise then some below
    else if rise < down then some above
    else match tie with
      | .toEven => some (if below % 2 = 0 then below else above)
      | .up => some above

/-- The power of ten at or below a positive number. -/
def decimalExponent (units : Nat) : Int :=
  (Nat.toDigits 10 ((units * 10 ^ 340) >>> 1074)).length - 341

/-- The shortest decimal that rounds to a positive number. Seventeen digits always
suffice; only the coarsest grid can reach the next power of ten. -/
def shortest (tie : Tie) (units : Nat) : Decimal :=
  let e := decimalExponent units
  let found := (List.range 17).findSome? fun (n : Nat) =>
    (onGrid? tie units (e - n)).map fun d => Decimal.mk d (e - n)
  match found with
  | some ⟨10, k⟩ => ⟨1, k + 1⟩
  | some d => d
  | none => ⟨0, 0⟩

end Binary64

end Multiworld
