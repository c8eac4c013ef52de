import Multiworld.Fragment
import Multiworld.Json

/-!
# Packets

A wire message is a list of packets. A packet names its command; the commands known here
are a closed set.

There are three tables of the names of commands: those that are known, those that stand on the
wire, and those under which packets are told of.

## Main definitions

* `Command`: the commands
* `Command.known`, `Command.name`, `Packet.commandName`: their names
* `BounceBody`, `PrintBody`, `Packet`: what packets hold
* `Packet.command`: the command of a packet
-/

namespace Multiworld

/-- The command of a packet. -/
inductive Command where
  | bounce
  | bounced
  | print
  | say
  | connectUpdate
  | invalidPacket
deriving DecidableEq

namespace Command

/-- All commands. -/
def all : List Command := [.bounce, .bounced, .print, .say, .connectUpdate, .invalidPacket]

/-- The name of a command on the wire. -/
def name : Command → String
  | .bounce => "Bounce"
  | .bounced => "Bounced"
  | .print => "PrintJSON"
  | .say => "Say"
  | .connectUpdate => "ConnectUpdate"
  | .invalidPacket => "InvalidPacket"

/-- The command of a name. -/
def ofName? (name : String) : Option Command := all.find? (·.name = name)

/-- The names that are known. -/
def known : List String :=
  ["Bounce", "Bounced", "PrintJSON", "Say", "ConnectUpdate", "InvalidPacket"]

/-- Whether a name is known; what names any other command is not looked at. -/
def isKnown (name : String) : Bool := known.contains name

end Command

/-- An item as packets name it. -/
structure NetworkItem where
  /-- Its number in the receiving player's game. -/
  item : Int64
  /-- The number of its location in the finding player's game. -/
  location : Int64
  /-- The slot that found it. -/
  player : Slot
  flags : ItemFlags := .none
deriving DecidableEq

/-- A payload and whom it is meant for. -/
structure BounceBody where
  games : List String := []
  slots : List Slot := []
  tags : List String := []
  data : Payload := default

/-- The type of a log line. -/
inductive PrintKind where
  | itemSend
  | itemCheat
  | hint
  | join
  /-- A player left. -/
  | leave
  | chat
  | serverChat
  | tutorial
  | tagsChanged
  | commandResult
  | adminCommandResult
  | goal
  | release
  | collect
  | countdown
  /-- A type that is not known here. -/
  | unknown
deriving DecidableEq

namespace PrintKind

/-- All types. -/
def all : List PrintKind :=
  [.itemSend, .itemCheat, .hint, .join, .leave, .chat, .serverChat, .tutorial, .tagsChanged,
    .commandResult, .adminCommandResult, .goal, .release, .collect, .countdown, .unknown]

/-- The name of a type on the wire. -/
def name : PrintKind → String
  | .itemSend => "ItemSend"
  | .itemCheat => "ItemCheat"
  | .hint => "Hint"
  | .join => "Join"
  | .leave => "Part"
  | .chat => "Chat"
  | .serverChat => "ServerChat"
  | .tutorial => "Tutorial"
  | .tagsChanged => "TagsChanged"
  | .commandResult => "CommandResult"
  | .adminCommandResult => "AdminCommandResult"
  | .goal => "Goal"
  | .release => "Release"
  | .collect => "Collect"
  | .countdown => "Countdown"
  | .unknown => "Unknown"

/-- The type of a name; a name that is not known gives `unknown`. -/
def ofName (name : String) : PrintKind := (all.find? (·.name = name)).getD .unknown

end PrintKind

/-- A log line and the fields that belong to its type. -/
structure PrintBody where
  fragments : List Fragment := []
  kind : Option PrintKind := none
  receiving : Option Slot := none
  item : Option NetworkItem := none
  found : Option Bool := none
  team : Option Team := none
  slot : Option Slot := none
  message : Option String := none
  tags : Option (List String) := none
  countdown : Option Int64 := none

/-- The tags a client wants to be known by. -/
structure ConnectUpdateBody where
  tags : List String
  itemsHandling : Option UInt8 := none

/-- The server's report of a packet that it could not use. -/
structure InvalidPacketBody where
  kind : String
  originalCommand : Option String := none
  text : String

/-- A packet. -/
inductive Packet where
  /-- To the server: relay a payload. -/
  | bounce (body : BounceBody)
  /-- From the server: a payload that some client bounced. -/
  | bounced (body : BounceBody)
  /-- From the server: a log line. -/
  | print (body : PrintBody)
  /-- To the server: a chat message. -/
  | say (text : String)
  /-- To the server: replace this client's tags. -/
  | connectUpdate (body : ConnectUpdateBody)
  /-- From the server: a packet was refused. -/
  | invalidPacket (body : InvalidPacketBody)

namespace BounceBody

/-- A payload for everyone who knows one tag. -/
def tagged (tag : String) (data : Payload) : BounceBody := { tags := [tag], data := data }

end BounceBody

namespace Packet

/-- The command of a packet. -/
def command : Packet → Command
  | .bounce _ => .bounce
  | .bounced _ => .bounced
  | .print _ => .print
  | .say _ => .say
  | .connectUpdate _ => .connectUpdate
  | .invalidPacket _ => .invalidPacket

/-- The name under which a packet is told of. -/
def commandName : Packet → String
  | .bounce _ => "Bounce"
  | .bounced _ => "Bounced"
  | .print _ => "PrintJSON"
  | .say _ => "Say"
  | .connectUpdate _ => "ConnectUpdate"
  | .invalidPacket _ => "InvalidPacket"

end Packet

end Multiworld
