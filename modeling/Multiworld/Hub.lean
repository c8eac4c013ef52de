import Multiworld.Bounce
import Multiworld.DeathScope
import Multiworld.LogLine
import Multiworld.Packet.Batch

/-!
# The hub

Where incoming packets go. Listeners see every packet in the order in which they were
subscribed, and each packet is handed to all of them before the next one. Two listeners do
more than look on: one hands bounces to the handlers subscribed to their tags, the other
resolves log lines for the handlers of lines. Handlers are told apart by names, and what
they are called with is reported in one sequence.

The application may subscribe listeners whenever it is called, which depends on all calls so far,
and a handler of bounces may cancel a subscription. Who is called for a packet, or for a bounce,
is settled before the first one is called.

## Main definitions

* `Listener`, `BounceHandler`: who handles packets and bounces
* `Report`: a call of one of them
* `Hub`: all of them, and what they share
* `Hub.call`: a call of the application
* `Hub.publish`: a packet handed to every listener
* `Hub.dispatch`: the packets of a message handed on one by one
* `Hub.deliver`: a bounce handed to those it is for
-/

namespace Multiworld

/-- Who handles bounces. -/
inductive BounceHandler where
  /-- The death notices of this client. -/
  | deaths
  /-- The application, which may cancel a subscription first. -/
  | app (name : String) (cancels : Option SubscriptionId)
deriving DecidableEq

/-- Who sees packets. -/
inductive Listener where
  /-- Hands bounces to their handlers. -/
  | bounces
  /-- Resolves log lines. -/
  | lines
  | app (name : String)
deriving DecidableEq

/-- A call of the application, or a message that it sent. -/
inductive Report where
  | packet (listener : String) (packet : Packet)
  /-- A bounce, and whether the subscription that the handler cancelled was there. -/
  | bounce (handler : String) (event : BounceEvent) (cancelled : Option Bool)
  | death (handler : String) (notice : DeathNotice)
  | line (handler : String) (line : LogLine)
  | sent (message : String)

/-- The listeners and handlers of a client, and what they share. -/
structure Hub where
  world : World
  scope : DeathScope
  audit : AuditLog := {}
  listeners : List Listener := []
  registry : Registry BounceHandler := {}
  deathHandlers : List String := []
  lineHandlers : List String := []
  /-- All calls so far, oldest first. -/
  reports : List Report := []
  /-- The listeners that the application subscribes when it is called, given all that is reported
  so far, with that call as the last. -/
  joins : List Report → List Listener := fun _ => []

namespace Hub

/-- A hub with listeners for bounces and for log lines, whose deaths are logged under the
given scope or else under that of its own slot. -/
def ofWorld (world : World) (scope : Option String) : Hub where
  world := world
  scope := (scope.map .mk).getD (.ofIdentity world.identity)
  listeners := [.bounces, .lines]

/-- The tags the client wants to be known by. -/
def tags (h : Hub) : List String := h.world.identity.tags

/-- The same hub with other tags. -/
def setTags (h : Hub) (tags : List String) : Hub :=
  { h with world := { h.world with identity := { h.world.identity with tags := tags } } }

/-- The tags with that of deaths at the end, unless it is among them. -/
def tagsWithDeath? (h : Hub) : Option (List String) :=
  if DeathNotice.tag ∈ h.tags then none else some (h.tags ++ [DeathNotice.tag])

/-- The tags without that of deaths, if it is among them. -/
def tagsWithoutDeath? (h : Hub) : Option (List String) :=
  if DeathNotice.tag ∈ h.tags then some (h.tags.filter (· ≠ DeathNotice.tag)) else none

/-! ## Subscribing -/

/-- Subscribes a listener to the packets to come. -/
def subscribe (h : Hub) (l : Listener) : Hub := { h with listeners := h.listeners ++ [l] }

/-- Subscribes a handler to the bounces with one of some tags. -/
def register (h : Hub) (tags : List String) (handler : BounceHandler) : SubscriptionId × Hub :=
  let (id, registry) := h.registry.register (.ofList tags) handler
  (id, { h with registry := registry })

/-- Cancels a subscription, and says whether it was there. -/
def unregister (h : Hub) (id : SubscriptionId) : Bool × Hub :=
  let (found, registry) := h.registry.unregister id
  (found, { h with registry := registry })

/-- Subscribes the death notices to the bounces that are deaths. -/
def attach (h : Hub) : SubscriptionId × Hub := h.register [DeathNotice.tag] .deaths

/-- Adds a handler of deaths. -/
def onDeath (h : Hub) (name : String) : Hub :=
  { h with deathHandlers := h.deathHandlers ++ [name] }

/-- Adds a handler of log lines. -/
def onLine (h : Hub) (name : String) : Hub :=
  { h with lineHandlers := h.lineHandlers ++ [name] }

/-! ## Handing on -/

/-- Adds to what is reported. -/
def report (h : Hub) (r : Report) : Hub := { h with reports := h.reports ++ [r] }

/-- Calls the application, which may subscribe listeners. -/
def call (h : Hub) (r : Report) : Hub :=
  let h := h.report r
  { h with listeners := h.listeners ++ h.joins h.reports }

/-- Calls in a row. -/
def callAll (h : Hub) (calls : List Report) : Hub := calls.foldl call h

/-- Logs the payload of a death, and hands it to the handlers of deaths if it is one. -/
def receiveDeath (h : Hub) (data : Payload) : Hub :=
  let h := { h with audit := h.scope.logReceived data h.audit }
  match DeathNotice.ofPayload data with
  | .ok notice => h.callAll (h.deathHandlers.map (.death · notice))
  | .error _ => h

/-- Hands a bounce to one handler. -/
def handleBounce (event : BounceEvent) (h : Hub) : BounceHandler → Hub
  | .deaths => h.receiveDeath event.data
  | .app name none => h.call (.bounce name event none)
  | .app name (some id) =>
    let (found, h) := h.unregister id
    h.call (.bounce name event (some found))

/-- Hands a bounce to the handlers it is for, and counts them. -/
def deliver (h : Hub) (event : BounceEvent) : Nat × Hub :=
  let handlers := h.registry.matching event.tags
  (handlers.length, handlers.foldl (handleBounce event) h)

/-- Hands a packet to one listener. -/
def handlePacket (packet : Packet) (h : Hub) : Listener → Hub
  | .bounces =>
    match packet with
    | .bounced body => (h.deliver (.ofBody body)).2
    | _ => h
  | .lines =>
    match packet with
    | .print body => h.callAll (h.lineHandlers.map (.line · (.ofPrint h.world body)))
    | _ => h
  | .app name => h.call (.packet name packet)

/-- Hands a packet to every listener subscribed so far. -/
def publish (h : Hub) (packet : Packet) : Hub := h.listeners.foldl (handlePacket packet) h

/-- Hands on packets one by one. -/
def publishAll (h : Hub) (packets : List Packet) : Hub := packets.foldl publish h

/-- Hands on the packets of a message, and counts them. -/
def dispatch (h : Hub) (message : String) : Except Fault Nat × Hub :=
  match Batch.read message with
  | .ok batch => (.ok batch.packets.length, h.publishAll batch.packets)
  | .error e => (.error e, h)

end Hub

end Multiworld
