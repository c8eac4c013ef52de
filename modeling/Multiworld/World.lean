import Multiworld.Player

/-!
# The world of a session

What a client knows beside its connection: the players, the names of items and locations
by game, and who it is itself. Entries are added one by one, and the latest for a key
counts.

## Main definitions

* `Roster`: players by team and slot
* `Catalog`: names by game and number
* `Identity`: the client's own team, slot and tags
* `World`: all three
-/

namespace Multiworld

/-- The players of a session, the latest first. -/
structure Roster where
  players : List Player := []

namespace Roster

/-- Adds a player, in place of one with the same team and slot. -/
def add (r : Roster) (p : Player) : Roster := ⟨p :: r.players⟩

/-- The player of a team and slot. -/
def player? (r : Roster) (team : Team) (slot : Slot) : Option Player :=
  r.players.find? fun p => p.team = team && p.slot = slot

/-- The roster of players added in order. -/
def ofList (ps : List Player) : Roster := ps.foldl add {}

end Roster

/-- The name of a number in a game. -/
structure Naming where
  game : String
  id : Int64
  name : String
deriving DecidableEq

/-- The names of items and of locations, the latest first. -/
structure Catalog where
  items : List Naming := []
  locations : List Naming := []

namespace Catalog

/-- The name of a number in a game. -/
def find? (names : List Naming) (game : String) (id : Int64) : Option String :=
  (names.find? fun n => n.game = game && n.id = id).map (·.name)

/-- Names an item. -/
def addItem (c : Catalog) (n : Naming) : Catalog := { c with items := n :: c.items }

/-- Names a location. -/
def addLocation (c : Catalog) (n : Naming) : Catalog := { c with locations := n :: c.locations }

/-- The name of an item. -/
def item? (c : Catalog) (game : String) (id : Int64) : Option String := find? c.items game id

/-- The name of a location. -/
def location? (c : Catalog) (game : String) (id : Int64) : Option String :=
  find? c.locations game id

end Catalog

/-- Who the client is, and the tags it wants to be known by. -/
structure Identity where
  team : Team := ⟨0⟩
  slot : Slot := ⟨0⟩
  tags : List String := []

/-- What a client knows beside its connection. -/
structure World where
  roster : Roster := {}
  catalog : Catalog := {}
  identity : Identity := {}

namespace World

/-- A text that is not empty. -/
def nonEmpty? (s : String) : Option String := if s = "" then none else some s

/-- The player in a slot of the client's team. -/
def teammate? (w : World) (slot : Slot) : Option Player :=
  w.roster.player? w.identity.team slot

/-- The name shown for a slot of the client's team. -/
def playerName (w : World) (slot : Slot) : String :=
  ((w.teammate? slot).bind fun p => (nonEmpty? p.nickname).or (nonEmpty? p.name)).getD
    ("Player " ++ String.ofList (Text.integer slot.number.toInt))

/-- The game played in a slot of the client's team. -/
def game? (w : World) (slot : Slot) : Option String :=
  (w.teammate? slot).bind fun p => nonEmpty? p.game

/-- The name of an item that a slot receives. -/
def itemName (w : World) (receiver : Slot) (id : Int64) : String :=
  ((w.game? receiver).bind fun game => w.catalog.item? game id).getD
    ("Item: " ++ String.ofList (Text.integer id.toInt))

/-- The name of a location that a slot owns. -/
def locationName (w : World) (owner : Slot) (id : Int64) : String :=
  ((w.game? owner).bind fun game => w.catalog.location? game id).getD
    ("Location: " ++ String.ofList (Text.integer id.toInt))

end World

end Multiworld
