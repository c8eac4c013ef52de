import Multiworld.Segment

/-!
# Log lines

A print packet resolved: its segments, and what the line is about. A line whose type needs
a field that is missing is plain, and so is one without a type that is known.

## Main definitions

* `PlayerView`, `World.view`: a player as seen by the client
* `ItemInfo`: an item and where it was found
* `LineKind`, `LogLine`: lines
* `LineKind.ofPrint?`: what a print packet is about
* `LogLine.ofPrint`: a print packet resolved
-/

namespace Multiworld

/-- A player as seen by the client. -/
structure PlayerView where
  player : Player
  /-- Whether it is the client itself. -/
  isActive : Bool
  /-- Whether it is the client or shares a group with it. -/
  isRelated : Bool
deriving DecidableEq

namespace World

/-- The player of a team and slot; one that the roster does not know has no names. -/
def playerOf (w : World) (team : Team) (slot : Slot) : Player :=
  (w.roster.player? team slot).getD { team, slot }

/-- A player as seen by the client. -/
def view (w : World) (team : Team) (slot : Slot) : PlayerView :=
  let player := w.playerOf team slot
  let active : Bool := team = w.identity.team && slot = w.identity.slot
  { player
    isActive := active
    isRelated :=
      active || (w.playerOf w.identity.team w.identity.slot).sharesGroupWith player }

end World

/-- An item that a line is about. -/
structure ItemInfo where
  id : Int64
  /-- Its name in the receiver's game. -/
  name : String
  locationId : Int64
  /-- The name of its location in the finder's game. -/
  locationName : String
  flags : ItemFlags
  /-- The slot that found it. -/
  sender : Slot
deriving DecidableEq

/-- What a line is about. -/
inductive LineKind where
  | plain
  | chat (player : PlayerView) (message : String)
  | serverChat (message : String)
  | join (player : PlayerView) (tags : List String)
  | leave (player : PlayerView)
  | tagsChanged (player : PlayerView) (tags : List String)
  | goal (player : PlayerView)
  | release (player : PlayerView)
  | collect (player : PlayerView)
  | countdown (remaining : Int64)
  | tutorial
  | commandResult
  | adminCommandResult
  | itemSend (receiver sender : PlayerView) (item : ItemInfo)
  | itemCheat (receiver : PlayerView) (item : ItemInfo) (team : Team)
  | hint (receiver sender : PlayerView) (item : ItemInfo) (found : Bool)
deriving DecidableEq

/-- A log line. -/
structure LogLine where
  segments : List Segment
  kind : LineKind
deriving DecidableEq

namespace ItemInfo

/-- An item that a slot of the client's team receives. -/
def ofNetwork (w : World) (receiver : Slot) (item : NetworkItem) : ItemInfo where
  id := item.item
  name := w.itemName receiver item.item
  locationId := item.location
  locationName := w.locationName item.player item.location
  flags := item.flags
  sender := item.player

end ItemInfo

namespace LineKind

/-- The player that a print packet names. -/
def playerOf? (w : World) (p : PrintBody) : Option PlayerView := do
  return w.view (← p.team) (← p.slot)

/-- The receiver and the item that a print packet names. The receiver is of the client's
own team. -/
def itemOf? (w : World) (p : PrintBody) : Option (PlayerView × ItemInfo) := do
  let receiver ← p.receiving
  let item ← p.item
  return (w.view w.identity.team receiver, .ofNetwork w receiver item)

/-- What a print packet is about, if it has the fields that its type needs. -/
def ofPrint? (w : World) (p : PrintBody) : Option LineKind := do
  match ← p.kind with
  | .chat => return .chat (← playerOf? w p) (← p.message)
  | .serverChat => return .serverChat (← p.message)
  | .join => return .join (← playerOf? w p) (p.tags.getD [])
  | .leave => return .leave (← playerOf? w p)
  | .tagsChanged => return .tagsChanged (← playerOf? w p) (p.tags.getD [])
  | .goal => return .goal (← playerOf? w p)
  | .release => return .release (← playerOf? w p)
  | .collect => return .collect (← playerOf? w p)
  | .countdown => return .countdown (← p.countdown)
  | .tutorial => return .tutorial
  | .commandResult => return .commandResult
  | .adminCommandResult => return .adminCommandResult
  | .itemSend =>
    let (receiver, item) ← itemOf? w p
    return .itemSend receiver (w.view w.identity.team item.sender) item
  | .itemCheat =>
    let (receiver, item) ← itemOf? w p
    return .itemCheat receiver item (← p.team)
  | .hint =>
    let (receiver, item) ← itemOf? w p
    return .hint receiver (w.view w.identity.team item.sender) item (p.found.getD false)
  | .unknown => none

/-- The player that a line is about. -/
def player? : LineKind → Option PlayerView
  | .chat player _ => some player
  | .join player _ => some player
  | .leave player => some player
  | .tagsChanged player _ => some player
  | .goal player => some player
  | .release player => some player
  | .collect player => some player
  | .itemSend receiver _ _ => some receiver
  | .itemCheat receiver _ _ => some receiver
  | .hint receiver _ _ _ => some receiver
  | _ => none

/-- The item that a line is about. -/
def item? : LineKind → Option ItemInfo
  | .itemSend _ _ item => some item
  | .itemCheat _ item _ => some item
  | .hint _ _ item _ => some item
  | _ => none

end LineKind

namespace LogLine

/-- A print packet resolved. -/
def ofPrint (w : World) (p : PrintBody) : LogLine where
  segments := p.fragments.map (Segment.resolve w)
  kind := (LineKind.ofPrint? w p).getD .plain

/-- The line as plain text. -/
def text (line : LogLine) : String := String.join (line.segments.map (·.text))

end LogLine

end Multiworld
