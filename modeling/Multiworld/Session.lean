import Multiworld.Delivery
import Multiworld.Hub

/-!
# Sessions

A hub and a way out. What becomes of the messages sent is a setting of the session: they
are refused, or accepted with a given delivery, or relayed, which is what a server does
that has only this client. Nothing is changed by a message that was refused; tags change
as soon as the server is told of them; a death is logged as sent once it was written.

## Main definitions

* `Fate`: what becomes of a message
* `Session`: a hub and the fate of the messages sent
* `Session.send`, `Session.sendBounce`: sending
* `Session.enableDeaths`, `Session.disableDeaths`, `Session.sendDeath`: death notices
-/

namespace Multiworld

/-- What becomes of a message. -/
inductive Fate where
  | refused (e : SendError)
  | accepted (d : Delivery)
  /-- It is written, and its bounces come back at once. -/
  | relayed
deriving DecidableEq

/-- A hub and the fate of the messages sent. -/
structure Session where
  hub : Hub
  fate : Fate := .relayed

/-- What a server sends back for a packet. -/
def Packet.relayed? : Packet → Option Packet
  | .bounce body => some (.bounced body)
  | _ => none

namespace Session

/-- Hands the bounces among some packets back to the hub, as one message. -/
def relay (s : Session) (packets : List Packet) : Session :=
  match packets.filterMap Packet.relayed? with
  | [] => s
  | back => { s with hub := (s.hub.dispatch (Batch.write back)).2 }

/-- Sends packets as one message. -/
def send (s : Session) (packets : List Packet) : Except SendError Delivery × Session :=
  let sent : Session := { s with hub := s.hub.report (.sent (Batch.write packets)) }
  match s.fate with
  | .refused e => (.error e, s)
  | .accepted d => (.ok d, sent)
  | .relayed => (.ok .written, sent.relay packets)

/-- Sends a payload to everyone who knows a tag. -/
def sendBounce (s : Session) (tag : String) (data : Payload) :
    Except SendError Delivery × Session :=
  s.send [.bounce (.tagged tag data)]

/-- Tells the server of new tags, if there are any to tell, and says whether there were. -/
def changeTags (s : Session) : Option (List String) → Except SendError Bool × Session
  | none => (.ok false, s)
  | some tags =>
    match s.send [.connectUpdate { tags }] with
    | (.error e, s) => (.error e, s)
    | (.ok d, s) => (d.wait.map fun _ => true, { s with hub := s.hub.setTags tags })

/-- Asks for deaths, and says whether that changed the tags. -/
def enableDeaths (s : Session) : Except SendError Bool × Session :=
  s.changeTags s.hub.tagsWithDeath?

/-- Asks for no more deaths, and says whether that changed the tags. -/
def disableDeaths (s : Session) : Except SendError Bool × Session :=
  s.changeTags s.hub.tagsWithoutDeath?

/-- Whether deaths are asked for. -/
def asksForDeaths (s : Session) : Bool := DeathNotice.tag ∈ s.hub.tags

/-- Sends a death to everyone linked, and logs it once it was written. -/
def sendDeath (s : Session) (d : DeathNotice) : Except SendError Unit × Session :=
  match s.sendBounce DeathNotice.tag d.payload with
  | (.error e, s) => (.error e, s)
  | (.ok delivery, s) =>
    match delivery.wait with
    | .error e => (.error e, s)
    | .ok () =>
      (.ok (), { s with hub := { s.hub with audit := s.hub.scope.logSent d.payload s.hub.audit } })

end Session

end Multiworld
