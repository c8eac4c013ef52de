/-!
# White space

The characters of the Unicode property `White_Space`, and text without them at its ends.

## Main definitions

* `Text.isBlank`: membership
* `Text.trim`: the text between its first and last character that is not blank
-/

namespace Multiworld.Text

/-- The ranges of blank code points, in increasing order, ends included. -/
def blank : List (Nat × Nat) :=
  [(0x9, 0xD), (0x20, 0x20), (0x85, 0x85), (0xA0, 0xA0), (0x1680, 0x1680), (0x2000, 0x200A),
    (0x2028, 0x2029), (0x202F, 0x202F), (0x205F, 0x205F), (0x3000, 0x3000)]

/-- Whether a character is white space. -/
def isBlank (c : Char) : Bool :=
  blank.any fun (low, high) => low ≤ c.toNat && c.toNat ≤ high

/-- A text without the blank characters at its ends. -/
def trim (cs : List Char) : List Char :=
  ((cs.dropWhile isBlank).reverse.dropWhile isBlank).reverse

end Multiworld.Text
