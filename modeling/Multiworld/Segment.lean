import Multiworld.Color
import Multiworld.Text.Blank
import Multiworld.World

/-!
# Segments of a log line

A fragment resolved: final text, what it refers to, and a colour. Resolving never fails. A
number that no name is known for is shown as such, and a text that should be a number but
is none stays as it is.

## Main definitions

* `SegmentKind`, `Segment`: resolved fragments
* `Segment.idOf?`: the number that a fragment's text stands for
* `Segment.resolve`: a fragment resolved in a world
-/

namespace Multiworld

/-- What a segment refers to. -/
inductive SegmentKind where
  | text
  | player (slot : Slot)
  | item (id : Int64) (flags : ItemFlags)
  | location (id : Int64)
  | entrance
  | hintStatus (status : HintStatus)
deriving DecidableEq

/-- One piece of a shown line. -/
structure Segment where
  text : String
  kind : SegmentKind
  color : Color
  /-- Whether the colour is that of what lies behind the text. -/
  isBackground : Bool := false
deriving DecidableEq

namespace Segment

/-- The integer from `low` to below `high` that a text stands for: ASCII digits after an
optional sign, with blanks around. -/
def idOf? (low high : Int) (text : String) : Option Int :=
  (Text.integer? (Text.trim text.toList)).filter fun n => low ≤ n && n < high

/-- The slot that a text stands for. -/
def slotOf? (text : String) : Option Slot :=
  (idOf? (-2 ^ 31) (2 ^ 31) text).map fun n => ⟨Int32.ofInt n⟩

/-- The item or location that a text stands for. -/
def int64Of? (text : String) : Option Int64 :=
  (idOf? (-2 ^ 63) (2 ^ 63) text).map Int64.ofInt

/-- A player by slot. -/
def ofPlayerId (w : World) (text : String) : Segment :=
  match slotOf? text with
  | none => ⟨text, .player ⟨0⟩, .yellow, false⟩
  | some slot =>
    ⟨w.playerName slot, .player slot,
      if slot = w.identity.slot then .magenta else .yellow, false⟩

/-- An item by its number in the receiver's game. -/
def ofItemId (w : World) (text : String) (flags : ItemFlags) (receiver : Option Slot) : Segment :=
  match int64Of? text with
  | none => ⟨text, .item 0 flags, .ofFlags flags, false⟩
  | some id =>
    let name :=
      match receiver with
      | some slot => w.itemName slot id
      | none => "Item: " ++ String.ofList (Text.integer id.toInt)
    ⟨name, .item id flags, .ofFlags flags, false⟩

/-- A location by its number in the owner's game. -/
def ofLocationId (w : World) (text : String) (owner : Option Slot) : Segment :=
  match int64Of? text with
  | none => ⟨text, .location 0, .green, false⟩
  | some id =>
    let name :=
      match owner with
      | some slot => w.locationName slot id
      | none => "Location: " ++ String.ofList (Text.integer id.toInt)
    ⟨name, .location id, .green, false⟩

/-- Plain text, coloured by a hint. A style leaves it white. -/
def ofText (text : String) (hint : Option WireColor) : Segment :=
  match hint with
  | none => ⟨text, .text, .white, false⟩
  | some wire =>
    match Color.ofWire? wire with
    | some color => ⟨text, .text, color, wire.isBackground⟩
    | none => ⟨text, .text, .white, false⟩

/-- A fragment resolved. -/
def resolve (w : World) (f : Fragment) : Segment :=
  let text := f.text.getD ""
  let flags := f.flags.getD .none
  match f.kind with
  | some .playerId => ofPlayerId w text
  | some .playerName => ⟨text, .player ⟨0⟩, .yellow, false⟩
  | some .itemId => ofItemId w text flags f.player
  | some .itemName => ⟨text, .item 0 flags, .ofFlags flags, false⟩
  | some .locationId => ofLocationId w text f.player
  | some .locationName => ⟨text, .location 0, .green, false⟩
  | some .entranceName => ⟨text, .entrance, .blue, false⟩
  | some .hintStatus =>
    let status := f.hintStatus.getD .unspecified
    ⟨text, .hintStatus status, .ofStatus status, false⟩
  | some .text => ofText text f.color
  | some .color => ofText text f.color
  | some .unknown => ofText text f.color
  | none => ofText text f.color

end Segment

end Multiworld
