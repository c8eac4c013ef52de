import Multiworld.Json.Reader
import Multiworld.Packet.Wire

/-!
# Batches

A wire message is the text of a list. Each of its elements is a packet, or is set aside
with the reason; an element never affects another one. Only a text that is no list fails
as a whole.

## Main definitions

* `SkipReason`, `Skipped`, `Batch`: what a message holds
* `Packet.ofElement`: an element as a packet, or why it is none
* `Batch.read`: the batch of a message
* `Batch.write`: the message of some packets
-/

namespace Multiworld

/-- Why an element is no packet. -/
inductive SkipReason where
  /-- It names no command. -/
  | missingCommand
  /-- Its command is not known here. -/
  | unknownCommand (name : String)
  /-- Its fields are not those of its command. -/
  | malformed (name : String) (why : Mismatch)

/-- An element that was set aside, and its index. -/
structure Skipped where
  index : Nat
  reason : SkipReason

/-- The packets of a message, and what was set aside, each in order. -/
structure Batch where
  packets : List Packet
  skipped : List Skipped

/-- An element as a packet, or why it is none. -/
def Packet.ofElement (j : Json) : Except SkipReason Packet :=
  match j with
  | .obj fields =>
    match Json.lookup "cmd" fields with
    | some (.str name) =>
      if Command.isKnown name then (Packet.ofNamed name fields).mapError (.malformed name)
      else .error (.unknownCommand name)
    | _ => .error .missingCommand
  | _ => .error .missingCommand

namespace Batch

/-- The batch of elements whose first one has a given index. -/
def ofElements (index : Nat) : List Json → Batch
  | [] => ⟨[], []⟩
  | j :: js =>
    let rest := ofElements (index + 1) js
    match Packet.ofElement j with
    | .ok packet => { rest with packets := packet :: rest.packets }
    | .error reason => { rest with skipped := ⟨index, reason⟩ :: rest.skipped }

/-- The batch of a message. -/
def read (message : String) : Except Fault Batch :=
  (Json.readSequence message).map (ofElements 0)

/-- The message of some packets. -/
def write (packets : List Packet) : String :=
  (Json.arr (packets.map Packet.toJson)).text

end Batch

end Multiworld
