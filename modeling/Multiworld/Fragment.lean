import Multiworld.Slot

/-!
# Message fragments

A log line travels as a list of fragments. A fragment's kind says how its text is read:
as it stands, or as the number of a slot, an item or a location.

## Main definitions

* `WireColor`: the colour hints, sixteen of them with an index
* `HintStatus`: how much a hint matters
* `FragmentKind`, `Fragment`: fragments
-/

namespace Multiworld

/-! ## Colour hints -/

/-- The eight colours of the palette. -/
inductive Hue where
  | black
  | red
  | green
  | yellow
  | blue
  | magenta
  | cyan
  | white
deriving DecidableEq

namespace Hue

/-- The colours in the order of their indices. -/
def all : List Hue := [.black, .red, .green, .yellow, .blue, .magenta, .cyan, .white]

/-- The name of a colour. -/
def name : Hue → String
  | .black => "black"
  | .red => "red"
  | .green => "green"
  | .yellow => "yellow"
  | .blue => "blue"
  | .magenta => "magenta"
  | .cyan => "cyan"
  | .white => "white"

end Hue

/-- A colour hint: a colour of the text or of what lies behind it, or a style. -/
inductive WireColor where
  | foreground (hue : Hue)
  | background (hue : Hue)
  | bold
  | underline
deriving DecidableEq

namespace WireColor

/-- The hints with an index: the colours of the text, then those behind it. -/
def palette : List WireColor := Hue.all.map .foreground ++ Hue.all.map .background

/-- All hints. -/
def all : List WireColor := palette ++ [.bold, .underline]

/-- The name of a hint. -/
def name : WireColor → String
  | .foreground hue => hue.name
  | .background hue => hue.name ++ "_bg"
  | .bold => "bold"
  | .underline => "underline"

/-- The hint at an index of the palette. -/
def ofIndex? (index : Nat) : Option WireColor := palette[index]?

/-- The hint of a name. -/
def ofName? (name : String) : Option WireColor := all.find? (·.name = name)

/-- Whether a hint colours what lies behind the text. -/
def isBackground : WireColor → Bool
  | .background _ => true
  | _ => false

end WireColor

/-! ## Hints -/

/-- How much a hint matters. -/
inductive HintStatus where
  | unspecified
  | noPriority
  | avoid
  | priority
  | found
deriving DecidableEq

namespace HintStatus

/-- All states. -/
def all : List HintStatus := [.unspecified, .noPriority, .avoid, .priority, .found]

/-- The code of a state. -/
def code : HintStatus → Int
  | .unspecified => 0
  | .noPriority => 10
  | .avoid => 20
  | .priority => 30
  | .found => 40

/-- The state of a code. -/
def ofCode? (code : Int) : Option HintStatus := all.find? (·.code = code)

/-- The name of a state. -/
def name : HintStatus → String
  | .unspecified => "Unspecified"
  | .noPriority => "NoPriority"
  | .avoid => "Avoid"
  | .priority => "Priority"
  | .found => "Found"

end HintStatus

/-! ## Fragments -/

/-- How a fragment's text is read. -/
inductive FragmentKind where
  | text
  /-- The text is the number of a slot. -/
  | playerId
  | playerName
  /-- The text is the number of an item of the receiving player's game. -/
  | itemId
  | itemName
  /-- The text is the number of a location of the owning player's game. -/
  | locationId
  | locationName
  | entranceName
  | hintStatus
  | color
  /-- A kind that is not known here. -/
  | unknown
deriving DecidableEq

namespace FragmentKind

/-- All kinds. -/
def all : List FragmentKind :=
  [.text, .playerId, .playerName, .itemId, .itemName, .locationId, .locationName,
    .entranceName, .hintStatus, .color, .unknown]

/-- The name of a kind. -/
def name : FragmentKind → String
  | .text => "text"
  | .playerId => "player_id"
  | .playerName => "player_name"
  | .itemId => "item_id"
  | .itemName => "item_name"
  | .locationId => "location_id"
  | .locationName => "location_name"
  | .entranceName => "entrance_name"
  | .hintStatus => "hint_status"
  | .color => "color"
  | .unknown => "unknown"

/-- The kind of a name; a name that is not known gives `unknown`. -/
def ofName (name : String) : FragmentKind := (all.find? (·.name = name)).getD .unknown

end FragmentKind

/-- One fragment of a log line. Without a kind it is plain text. -/
structure Fragment where
  kind : Option FragmentKind := none
  text : Option String := none
  color : Option WireColor := none
  flags : Option ItemFlags := none
  player : Option Slot := none
  hintStatus : Option HintStatus := none
deriving DecidableEq

end Multiworld
