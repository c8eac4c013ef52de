import Multiworld.Client.Settings
import Multiworld.Link.Connection
import Multiworld.Session

/-!
# Clients

A hub behind a connection. Messages that are sent wait in a bounded queue, and a writer
takes them from it, oldest first, and writes each as one message. The messages accepted so
far are numbered, and each in the end has a verdict: it was written, or why not. Messages
that come in are dispatched to the hub; one that cannot be read is dropped.

Disconnecting writes what waits, and closes the connection. From then on, and once the
connection is over for another reason, nothing is accepted.

## Main definitions

* `Client`: a hub, a connection, and the queue between them
* `Client.start`: the client of settings
* `Client.send`: a message accepted or refused
* `Client.writeNext`, `Client.flush`: the writer
* `Client.receive`: what comes in
* `Client.disconnect`: the end
* `Client.sendAndWait` and what is built on it: messages whose verdict is waited for
-/

namespace Multiworld

/-- Why a client could not do what it was asked to. -/
inductive ClientError where
  | link (e : LinkError)
  | send (e : SendError)

/-- The report of an error. -/
def ClientError.report : ClientError → ErrorReport
  | .link e => e.report
  | .send e => e.report

/-- What the writer does. -/
inductive Writer where
  | running
  /-- It gave up at an error, which nobody has been told of. -/
  | failed (e : LinkError)
  /-- It has ended, and its end was waited for. -/
  | joined

/-- A client. -/
structure Client where
  hub : Hub
  connection : Connection
  /-- How many messages may wait. -/
  capacity : Nat
  /-- The messages that wait, oldest first. -/
  queue : List String := []
  /-- What became of the messages accepted before those. -/
  verdicts : List (Except SendError Unit) := []
  /-- All that was written. -/
  wire : List Frame := []
  /-- Whether messages are accepted. -/
  isOpen : Bool := false
  writer : Writer := .running

namespace Client

/-! ## Opening -/

/-- The hub of a client: death notices are attached to it. -/
def hubOf (s : ClientSettings) (w : World) : Hub := (Hub.ofWorld w s.deathScope).attach.2

/-- The client of settings, once the server was dialled: `unreachable` says why it did not
answer, if it did not, and `outcomes` what will become of the writes. -/
def start (s : ClientSettings) (w : World) (unreachable : Option Cause)
    (outcomes : List (Option WriteFailure) := []) : Except ClientError Client := do
  let connection ← (Connection.ofSettings s.link).mapError .link
  if s.queueCapacity = 0 then
    throw (.link (.invalidSettings "send_queue_capacity must be greater than zero"))
  match unreachable with
  | some cause => throw (.link (.connectFailed cause))
  | none =>
    return {
      hub := hubOf s w
      connection := { (connection.step .established).2 with outcomes }
      capacity := s.queueCapacity.toNat
      isOpen := true }

/-! ## Sending -/

/-- Accepts packets as one message, and numbers it; or refuses it. -/
def send (c : Client) (packets : List Packet) : Except SendError Nat × Client :=
  if !c.isOpen then (.error (.connectionClosed "connection is not open"), c)
  else if c.capacity ≤ c.queue.length then (.error (.queueFull c.capacity), c)
  else
    (.ok (c.verdicts.length + c.queue.length), { c with queue := c.queue ++ [Batch.write packets] })

/-- Sends a payload to everyone who knows a tag. -/
def sendBounce (c : Client) (tag : String) (data : Payload) : Except SendError Nat × Client :=
  c.send [.bounce (.tagged tag data)]

/-- Tells the server of new tags, if there are any to tell. -/
def changeTags (c : Client) : Option (List String) → Except SendError (Option Nat) × Client
  | none => (.ok none, c)
  | some tags =>
    match c.send [.connectUpdate { tags }] with
    | (.error e, c) => (.error e, c)
    | (.ok number, c) => (.ok (some number), { c with hub := c.hub.setTags tags })

/-! ## Writing -/

/-- Writes the oldest message that waits. If it cannot be written, the writer gives up,
and so do all messages behind it. -/
def writeNext (c : Client) : Client :=
  match c.writer, c.queue with
  | .running, text :: rest =>
    let (out, connection) := c.connection.step (.send text)
    match out.result with
    | .ok () =>
      { c with
        connection
        queue := rest
        wire := c.wire ++ out.frames
        verdicts := c.verdicts ++ [.ok ()] }
    | .error e =>
      { c with
        connection
        queue := []
        wire := c.wire ++ out.frames
        isOpen := false
        writer := .failed e
        verdicts := c.verdicts ++ .error (.sendFailed { text := e.message }) ::
          rest.map fun _ => .error (.connectionClosed s!"an earlier write failed: {e.message}") }
  | _, _ => c

/-- Writes all messages that wait. -/
def flush (c : Client) : Client := c.queue.foldl (fun c _ => c.writeNext) c

/-- The verdict on a message; one that still waits when it is asked for was given up. -/
def verdict (c : Client) (number : Nat) : Except SendError Unit :=
  (c.verdicts[number]?).getD Delivery.dropped.wait

/-! ## Receiving -/

/-- Takes note of what happened to the connection. -/
def handleEvent (c : Client) : LinkEvent → Client
  | .opened => { c with isOpen := true }
  | .closed => { c with isOpen := false }
  | .message text => { c with hub := (c.hub.dispatch text).2 }
  | .error _ => c

/-- Takes what comes in from the server. -/
def receive (c : Client) (item : Incoming) : Client :=
  let (out, connection) := c.connection.step (.receive item)
  out.events.foldl handleEvent { c with connection, wire := c.wire ++ out.frames }

/-! ## Closing -/

/-- Errors as one; several are told together. -/
def gather : List LinkError → Except ClientError Unit
  | [] => .ok ()
  | [e] => .error (.link e)
  | errors => .error (.link (.aggregate errors))

/-- Writes what waits and closes the connection. Doing so again changes nothing. -/
def disconnect (c : Client) : Except ClientError Unit × Client :=
  match c.writer with
  | .joined => (.ok (), { c with isOpen := false })
  | _ =>
    let c := ({ c with isOpen := false }).flush
    let failed : List LinkError :=
      match c.writer with
      | .failed e => [e]
      | _ => []
    let c := { c with writer := .joined }
    if c.connection.state.isOpen then
      let (out, connection) := c.connection.step .close
      let failed : List LinkError :=
        match out.result with
        | .ok () => failed
        | .error e => failed ++ [e]
      (gather failed, { c with connection, wire := c.wire ++ out.frames })
    else (gather failed, c)

/-! ## Sending and waiting -/

/-- Waits for the verdict on a message, while the writer does its work. -/
def wait (c : Client) (number : Nat) : Except SendError Unit × Client :=
  (c.flush.verdict number, c.flush)

/-- Sends packets as one message, and waits until it is written. -/
def sendAndWait (c : Client) (packets : List Packet) : Except SendError Unit × Client :=
  match c.send packets with
  | (.error e, c) => (.error e, c)
  | (.ok number, c) => c.wait number

/-- Sends a chat message. -/
def say (c : Client) (text : String) : Except SendError Unit × Client :=
  c.sendAndWait [.say text]

/-- Sends a payload to everyone who knows a tag, and waits until it is written. -/
def bounce (c : Client) (tag : String) (data : Payload) : Except SendError Unit × Client :=
  c.sendAndWait [.bounce (.tagged tag data)]

/-- Tells the server of new tags, if there are any to tell, and says whether there were. -/
def changeTagsAndWait (c : Client) (tags : Option (List String)) :
    Except SendError Bool × Client :=
  match c.changeTags tags with
  | (.error e, c) => (.error e, c)
  | (.ok none, c) => (.ok false, c)
  | (.ok (some number), c) =>
    let (verdict, c) := c.wait number
    (verdict.map fun _ => true, c)

/-- Asks for deaths, and says whether that changed the tags. -/
def enableDeaths (c : Client) : Except SendError Bool × Client :=
  c.changeTagsAndWait c.hub.tagsWithDeath?

/-- Asks for no more deaths, and says whether that changed the tags. -/
def disableDeaths (c : Client) : Except SendError Bool × Client :=
  c.changeTagsAndWait c.hub.tagsWithoutDeath?

/-- Sends a death to everyone linked, and logs it once it was written. -/
def sendDeath (c : Client) (d : DeathNotice) : Except SendError Unit × Client :=
  match c.bounce DeathNotice.tag d.payload with
  | (.error e, c) => (.error e, c)
  | (.ok (), c) =>
    (.ok (), { c with hub := { c.hub with audit := c.hub.scope.logSent d.payload c.hub.audit } })

end Client

end Multiworld
