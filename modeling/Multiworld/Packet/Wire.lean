import Multiworld.Fragment.Wire
import Multiworld.Packet

/-!
# Packets on the wire

A packet is an object whose first field names its command. Lists that say whom a bounce is
meant for are left out when empty, and so is every other field without a value.

## Main definitions

* `Packet.toJson`: a packet as a value
* `Packet.ofFields`, `Packet.ofNamed`: the fields of an object as a packet of a command
-/

namespace Multiworld

namespace Json

/-- A list of strings as a value. -/
def ofStrings (ss : List String) : Json := .arr (ss.map .str)

/-- A list that is left out when it is empty. -/
def listField {α : Type} (key : String) (encode : α → Json) : List α → List (String × Json)
  | [] => []
  | as => [(key, .arr (as.map encode))]

end Json

open Json

namespace Slot

/-- A slot as a value. -/
def toJson (s : Slot) : Json := Json.ofInt32 s.number

/-- A value as a slot. -/
def ofJson : Decoder Slot := fun j => (int32 j).map .mk

end Slot

namespace Team

/-- A team as a value. -/
def toJson (t : Team) : Json := Json.ofInt32 t.number

/-- A value as a team. -/
def ofJson : Decoder Team := fun j => (int32 j).map .mk

end Team

namespace NetworkItem

/-- The keys of an item in order. -/
def keys : List String := ["item", "location", "player", "flags"]

/-- An item as a value. -/
def toJson (i : NetworkItem) : Json :=
  .obj [("item", ofInt64 i.item), ("location", ofInt64 i.location), ("player", i.player.toJson),
    ("flags", ofUInt32 i.flags.bits)]

/-- Checks a field. -/
def check : String → Json → Except Mismatch Unit
  | "item" => fits int64
  | "location" => fits int64
  | "player" => fits int32
  | "flags" => fits uint32
  | _ => fun _ => .ok ()

/-- A value as an item of a packet. -/
def ofJson : Decoder NetworkItem := fun j => do
  let r ← record .inPacket "NetworkItem" keys check j
  return {
    item := ← r.need "item" int64
    location := ← r.need "location" int64
    player := ← r.need "player" Slot.ofJson
    flags := ⟨← r.get "flags" uint32 0⟩ }

end NetworkItem

namespace BounceBody

/-- The fields of a body. -/
def fields (b : BounceBody) : List (String × Json) :=
  listField "games" .str b.games ++ listField "slots" Slot.toJson b.slots ++
    listField "tags" .str b.tags ++ [("data", b.data.toJson)]

/-- Checks a field. -/
def check : String → Json → Except Mismatch Unit
  | "games" => fits (list string)
  | "slots" => fits (list int32)
  | "tags" => fits (list string)
  | "data" => fits payload
  | _ => fun _ => .ok ()

/-- A body from its fields. -/
def ofRecord (r : Record) : Except Mismatch BounceBody := do
  return {
    games := ← r.get "games" (list string) []
    slots := ← r.get "slots" (list Slot.ofJson) []
    tags := ← r.get "tags" (list string) []
    data := ← r.get "data" payload default }

end BounceBody

namespace PrintBody

/-- The fields of a body. -/
def fields (b : PrintBody) : List (String × Json) :=
  ("data", .arr (b.fragments.map Fragment.toJson)) ::
    (optionalField "type" (fun k => .str k.name) b.kind ++
      optionalField "receiving" Slot.toJson b.receiving ++
      optionalField "item" NetworkItem.toJson b.item ++
      optionalField "found" .bool b.found ++
      optionalField "team" Team.toJson b.team ++
      optionalField "slot" Slot.toJson b.slot ++
      optionalField "message" .str b.message ++
      optionalField "tags" ofStrings b.tags ++
      optionalField "countdown" ofInt64 b.countdown)

/-- Checks a field. -/
def check : String → Json → Except Mismatch Unit
  | "data" => fits (list (Fragment.ofJson .inPacket))
  | "type" => fits (optional (variant .inPacket))
  | "receiving" => fits (optional int32)
  | "item" => fits (optional NetworkItem.ofJson)
  | "found" => fits (optional boolean)
  | "team" => fits (optional int32)
  | "slot" => fits (optional int32)
  | "message" => fits (optional string)
  | "tags" => fits (optional (list string))
  | "countdown" => fits (optional int64)
  | _ => fun _ => .ok ()

/-- A body from its fields. -/
def ofRecord (r : Record) : Except Mismatch PrintBody := do
  return {
    fragments := ← r.need "data" (list (Fragment.ofJson .inPacket))
    kind := (← r.get? "type" (variant .inPacket)).map PrintKind.ofName
    receiving := ← r.get? "receiving" Slot.ofJson
    item := ← r.get? "item" NetworkItem.ofJson
    found := ← r.get? "found" boolean
    team := ← r.get? "team" Team.ofJson
    slot := ← r.get? "slot" Slot.ofJson
    message := ← r.get? "message" string
    tags := ← r.get? "tags" (list string)
    countdown := ← r.get? "countdown" int64 }

end PrintBody

namespace ConnectUpdateBody

/-- The fields of a body. -/
def fields (b : ConnectUpdateBody) : List (String × Json) :=
  ("tags", ofStrings b.tags) :: optionalField "items_handling" ofUInt8 b.itemsHandling

/-- Checks a field. -/
def check : String → Json → Except Mismatch Unit
  | "tags" => fits (list string)
  | "items_handling" => fits (optional uint8)
  | _ => fun _ => .ok ()

/-- A body from its fields. -/
def ofRecord (r : Record) : Except Mismatch ConnectUpdateBody := do
  return {
    tags := ← r.need "tags" (list string)
    itemsHandling := ← r.get? "items_handling" uint8 }

end ConnectUpdateBody

namespace InvalidPacketBody

/-- The fields of a body. -/
def fields (b : InvalidPacketBody) : List (String × Json) :=
  ("type", .str b.kind) ::
    (optionalField "original_cmd" .str b.originalCommand ++ [("text", .str b.text)])

/-- Checks a field. -/
def check : String → Json → Except Mismatch Unit
  | "type" => fits string
  | "original_cmd" => fits (optional string)
  | "text" => fits string
  | _ => fun _ => .ok ()

/-- A body from its fields. -/
def ofRecord (r : Record) : Except Mismatch InvalidPacketBody := do
  return {
    kind := ← r.need "type" string
    originalCommand := ← r.get? "original_cmd" string
    text := ← r.need "text" string }

end InvalidPacketBody

namespace Packet

/-- The fields of a packet behind its command. -/
def fields : Packet → List (String × Json)
  | .bounce body => body.fields
  | .bounced body => body.fields
  | .print body => body.fields
  | .say text => [("text", .str text)]
  | .connectUpdate body => body.fields
  | .invalidPacket body => body.fields

/-- A packet as a value. -/
def toJson (p : Packet) : Json := .obj (("cmd", .str p.command.name) :: p.fields)

/-- Checks a field of a chat message. -/
def checkSay : String → Json → Except Mismatch Unit
  | "text" => fits string
  | _ => fun _ => .ok ()

/-- Checks a field of a packet. -/
def check : Command → String → Json → Except Mismatch Unit
  | .bounce => BounceBody.check
  | .bounced => BounceBody.check
  | .print => PrintBody.check
  | .say => checkSay
  | .connectUpdate => ConnectUpdateBody.check
  | .invalidPacket => InvalidPacketBody.check

/-- The fields of an object as a packet of a command. -/
def ofFields (command : Command) (fields : List (String × Json)) : Except Mismatch Packet := do
  checkFields (check command) fields
  let r : Record := ⟨fields, .missingField⟩
  match command with
  | .bounce => return .bounce (← BounceBody.ofRecord r)
  | .bounced => return .bounced (← BounceBody.ofRecord r)
  | .print => return .print (← PrintBody.ofRecord r)
  | .say => return .say (← r.need "text" string)
  | .connectUpdate => return .connectUpdate (← ConnectUpdateBody.ofRecord r)
  | .invalidPacket => return .invalidPacket (← InvalidPacketBody.ofRecord r)

/-- The fields of an object that names a command, as a packet of that command. -/
def ofNamed (name : String) (fields : List (String × Json)) : Except Mismatch Packet :=
  match Command.ofName? name with
  | some command => ofFields command fields
  | none => .error (.unknownVariant name (Command.all.map Command.name))

end Packet

end Multiworld
