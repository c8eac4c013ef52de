/-!
# Integers as text

Decimal digits, with a sign in front where there is one. Writing gives the shortest form;
reading accepts any number of leading zeros and an explicit plus.

## Main definitions

* `Text.integer`: the decimal form of an integer
* `Text.value`: the number that decimal digits stand for
* `Text.appendDigits`: a number with digits appended while there is room
* `Text.integer?`: the integer a text denotes, if it denotes one
-/

namespace Multiworld.Text

/-- The decimal form of an integer. -/
def integer (n : Int) : List Char :=
  if n < 0 then '-' :: Nat.toDigits 10 n.natAbs else Nat.toDigits 10 n.natAbs

/-- The number that decimal digits stand for. -/
def value (ds : List Char) : Nat :=
  ds.foldl (fun n c => 10 * n + (c.toNat - 48)) 0

/-- A number with digits appended as long as it stays below `bound`, and the digits from the
first one that does not fit. -/
def appendDigits (bound n : Nat) : List Char → Nat × List Char
  | [] => (n, [])
  | d :: ds =>
    let m := 10 * n + (d.toNat - 48)
    if m < bound then appendDigits bound m ds else (n, d :: ds)

/-- The number that a text of one or more ASCII digits stands for. -/
def natural? (ds : List Char) : Option Nat :=
  if ds ≠ [] ∧ ds.all Char.isDigit then some (value ds) else none

/-- The integer that ASCII digits after an optional sign stand for. -/
def integer? : List Char → Option Int
  | '+' :: ds => (natural? ds).map Int.ofNat
  | '-' :: ds => (natural? ds).map fun n => -(n : Int)
  | ds => (natural? ds).map Int.ofNat

end Multiworld.Text
