import Multiworld.Fragment

/-!
# Colours

The colours in which log lines are shown.

## Main definitions

* `Color`: red, green and blue
* `Color.ofWire?`, `Color.ofFlags`, `Color.ofStatus`: the colour of a hint, of an item, of
  a hint's state
* `Color.text`: the text of a colour
-/

namespace Multiworld

/-- A colour: its parts of red, green and blue. -/
structure Color where
  r : UInt8
  g : UInt8
  b : UInt8
deriving DecidableEq

namespace Color

/-- White, the colour of plain text. -/
def white : Color := ⟨255, 255, 255⟩

/-- The colour of locations. -/
def green : Color := ⟨0, 128, 0⟩

/-- The colour of other players. -/
def yellow : Color := ⟨255, 255, 0⟩

/-- The colour of entrances. -/
def blue : Color := ⟨0, 0, 255⟩

/-- The colour of the client's own player. -/
def magenta : Color := ⟨255, 0, 255⟩

/-- The colour of common items. -/
def cyan : Color := ⟨0, 255, 255⟩

/-- The colour of useful items. -/
def slateBlue : Color := ⟨106, 90, 205⟩

/-- The colour of traps. -/
def salmon : Color := ⟨250, 128, 114⟩

/-- The colour of items that are needed. -/
def plum : Color := ⟨221, 160, 221⟩

/-- The colour of a palette entry. -/
def ofHue : Hue → Color
  | .black => ⟨0, 0, 0⟩
  | .red => ⟨255, 0, 0⟩
  | .green => green
  | .yellow => yellow
  | .blue => blue
  | .magenta => magenta
  | .cyan => cyan
  | .white => white

/-- The colour of a hint; styles have none. -/
def ofWire? : WireColor → Option Color
  | .foreground hue => some (ofHue hue)
  | .background hue => some (ofHue hue)
  | .bold => none
  | .underline => none

/-- The colour of an item: being needed counts before being useful, and that before being
a trap. -/
def ofFlags (flags : ItemFlags) : Color :=
  if flags.contains .advancement then plum
  else if flags.contains .neverExclude then slateBlue
  else if flags.contains .trap then salmon
  else cyan

/-- The colour of a hint's state. -/
def ofStatus : HintStatus → Color
  | .found => green
  | .unspecified => white
  | .noPriority => slateBlue
  | .avoid => salmon
  | .priority => plum

/-- Two lower-case hexadecimal digits. -/
def channel (n : UInt8) : List Char :=
  [Nat.digitChar (n.toNat / 16), Nat.digitChar (n.toNat % 16)]

/-- The text of a colour: a hash and six hexadecimal digits. -/
def text (c : Color) : String :=
  String.ofList ('#' :: (channel c.r ++ channel c.g ++ channel c.b))

end Color

end Multiworld
