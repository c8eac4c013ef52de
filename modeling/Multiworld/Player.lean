import Multiworld.Packet.Wire

/-!
# Players

What is known of one slot of a team. A player may belong to groups, which are slots too.

## Main definitions

* `Player`: a player
* `Player.sharesGroupWith`: whether two players are one group or in one
* `Player.toJson`, `Player.ofJson`: players as values
-/

namespace Multiworld

/-- What is known of one slot. -/
structure Player where
  team : Team
  slot : Slot
  /-- The name given when the session was made. -/
  name : String := ""
  /-- The name shown at present. -/
  nickname : String := ""
  /-- The game played, whose names items and locations have. -/
  game : String := ""
  /-- The groups this player belongs to. -/
  groups : List Slot := []
deriving DecidableEq

namespace Player

/-- Whether two players of one team are a group and its member, or have a group in
common. -/
def sharesGroupWith (p q : Player) : Bool :=
  p.team = q.team &&
    (p.groups.contains q.slot || q.groups.contains p.slot || p.groups.any q.groups.contains)

/-- The keys of a player in order. -/
def keys : List String := ["team", "slot", "name", "alias", "game", "groups"]

/-- A player as a value. -/
def toJson (p : Player) : Json :=
  .obj [("team", p.team.toJson), ("slot", p.slot.toJson), ("name", .str p.name),
    ("alias", .str p.nickname), ("game", .str p.game), ("groups", .arr (p.groups.map Slot.toJson))]

open Json in
/-- Checks a field. -/
def check : String → Json → Except Mismatch Unit
  | "team" => fits int32
  | "slot" => fits int32
  | "name" => fits string
  | "alias" => fits string
  | "game" => fits string
  | "groups" => fits (list int32)
  | _ => fun _ => .ok ()

open Json in
/-- A value as a player. -/
def ofJson : Decoder Player := fun j => do
  let r ← record .alone "PlayerInfo" keys check j
  return {
    team := ← r.need "team" Team.ofJson
    slot := ← r.need "slot" Slot.ofJson
    name := ← r.need "name" string
    nickname := ← r.need "alias" string
    game := ← r.need "game" string
    groups := ← r.need "groups" (list Slot.ofJson) }

end Player

end Multiworld
