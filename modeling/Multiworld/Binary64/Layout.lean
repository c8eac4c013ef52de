import Multiworld.Binary64.Shortest

/-!
# Decimal layouts

A layout fixes how the shortest decimal of a number is written: which exponents are
spelled out, whether an integral number keeps a point, and which way ties go.

## Main definitions

* `Layout`: the choices
* `Layout.write`: the text of a number under a layout
-/

namespace Multiworld

/-- The choices of a decimal notation. -/
structure Layout where
  /-- The exponents of the leading digit that are written positionally. -/
  positional : Int → Bool
  /-- Whether an integral number is written with a final `.0`. -/
  pointZero : Bool
  tie : Tie

namespace Layout

/-- Digits written positionally, the leading one standing for `10^e`. -/
def writePositional (l : Layout) (ds : List Char) (e : Int) : List Char :=
  if e < 0 then '0' :: '.' :: (List.replicate (-e - 1).toNat '0' ++ ds)
  else
    let whole := e.toNat + 1
    if ds.length ≤ whole then
      ds ++ List.replicate (whole - ds.length) '0' ++ (if l.pointZero then ['.', '0'] else [])
    else ds.take whole ++ '.' :: ds.drop whole

/-- Digits written with one before the point and a signed exponent. -/
def writeScientific (ds : List Char) (e : Int) : List Char :=
  ds.take 1 ++ (if ds.length ≤ 1 then [] else '.' :: ds.drop 1) ++
    'e' :: (if e < 0 then '-' else '+') :: Nat.toDigits 10 e.natAbs

/-- The text of a number. -/
def write (l : Layout) (x : Binary64) : List Char :=
  let sign := if x.negative then ['-'] else []
  if x.units = 0 then sign ++ '0' :: (if l.pointZero then ['.', '0'] else [])
  else
    let d := Binary64.shortest l.tie x.units
    let ds := Nat.toDigits 10 d.digits
    let e := d.exponent + (ds.length - 1 : Nat)
    sign ++ if l.positional e then l.writePositional ds e else writeScientific ds e

/-- The layout without exponents: all digits are spelled out, and an integral number has
no point. -/
def plain : Layout where
  positional := fun _ => true
  pointZero := false
  tie := .up

end Layout

end Multiworld
