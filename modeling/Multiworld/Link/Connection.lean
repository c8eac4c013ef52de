import Multiworld.Frame.Assembler
import Multiworld.Link.Bridge
import Multiworld.Link.Settings

/-!
# Connections

A connection as an automaton. It takes what this side does and what comes in from the peer,
and gives the frames it writes, the events it reports, and the result for the caller. The
peer's messages come in whole; one that is too long or no text is reported and costs
nothing else. After the end nothing is taken any more.

Whether a write succeeds is up to the socket. So a connection holds what will become of its next
writes, and each write takes the first of these.

## Main definitions

* `Incoming`: what comes in
* `LinkAction`: what a connection takes
* `LinkOutput`: what it gives
* `WriteFailure`, `Written`: writes, which may fail
* `Connection`, `Connection.step`: the automaton
* `Connection.run`: its runs
-/

namespace Multiworld

/-- What comes in from the peer. -/
inductive Incoming where
  | text (s : String)
  | binary (octets : List UInt8)
  | ping
  | pong
  /-- The peer closes the connection. -/
  | close
  /-- Reading failed. -/
  | failure (cause : Cause)
  /-- Reading finds that the connection is closed. -/
  | gone
  /-- There is no more to read. -/
  | ended

/-- What a connection takes. -/
inductive LinkAction where
  /-- The server answered. -/
  | established
  | send (text : String)
  | close
  | receive (item : Incoming)

/-- What a connection gives. -/
structure LinkOutput where
  result : Except LinkError Unit := .ok ()
  frames : List Frame := []
  events : List LinkEvent := []

/-- What goes wrong with a write. -/
structure WriteFailure where
  cause : Cause
  /-- How many frames are out by then. -/
  frames : Nat := 0
  /-- The socket is found to be closed. -/
  gone : Bool := false
deriving DecidableEq

/-- What has become of a write: the frames that are out, and what went wrong. -/
structure Written where
  frames : List Frame
  failure : Option WriteFailure

namespace Written

/-- What becomes of some frames. -/
def of (frames : List Frame) : Option WriteFailure → Written
  | none => ⟨frames, none⟩
  | some f => ⟨frames.take f.frames, some f⟩

/-- The result for whoever sends a message. -/
def sent (w : Written) : Except LinkError Unit :=
  match w.failure with
  | none => .ok ()
  | some f => .error (.sendFailed f.cause)

/-- The result for whoever closes the connection. There is nothing to close any more if the
socket is closed. -/
def closed (w : Written) : Except LinkError Unit :=
  match w.failure with
  | none => .ok ()
  | some f => if f.gone then .ok () else .error (.sendFailed f.cause)

end Written

/-- A connection. -/
structure Connection where
  chunk : ChunkSize
  assembler : Assembler
  state : LinkState := .connecting
  /-- What goes wrong with each of the next writes, if anything does. Those behind succeed. -/
  outcomes : List (Option WriteFailure) := []

namespace Connection

/-- A connection that is being dialled. -/
def ofSettings (s : LinkSettings) : Except LinkError Connection :=
  s.validate.map fun chunk => { chunk, assembler := { max := s.maxMessageSize.toNat } }

/-- Writes some frames. -/
def write (c : Connection) (frames : List Frame) : Written × Connection :=
  (.of frames c.outcomes.head?.join, { c with outcomes := c.outcomes.tail })

/-- Takes a whole message. -/
def receiveMessage (c : Connection) (octets : List UInt8) : LinkOutput × Connection :=
  let (result, assembler) := c.assembler.push ⟨octets, true⟩
  let events : List LinkEvent :=
    match result with
    | .ok (some text) => [.message text]
    | .ok none => []
    | .error e => [.error e]
  ({ events }, { c with assembler })

/-- The connection is over. -/
def finish (c : Connection) (frames : List Frame) (events : List LinkEvent) :
    LinkOutput × Connection :=
  ({ frames, events := events ++ [.closed] }, { c with state := .closed })

/-- Answers the peer's closing, unless that is the answer to this side's. Nobody is told if the
answer fails. -/
def answer (c : Connection) : List Frame × Connection :=
  if c.state.isOpen then
    let (written, c) := c.write [.close]
    (written.frames, c)
  else ([], c)

/-- Takes what comes in from the peer. -/
def receive (c : Connection) : Incoming → LinkOutput × Connection
  | .text s => c.receiveMessage (Text.encode s)
  | .binary octets => c.receiveMessage octets
  | .ping => ({}, c)
  | .pong => ({}, c)
  | .close =>
    let (frames, c) := c.answer
    c.finish frames []
  | .failure cause => c.finish [] [.error (.receiveFailed cause)]
  | .gone => c.finish [] []
  | .ended => c.finish [] []

/-- Whether anything that comes in is taken. -/
def isReading (c : Connection) : Bool := c.state = .open || c.state = .closing

/-- One step. -/
def step (c : Connection) : LinkAction → LinkOutput × Connection
  | .established =>
    if c.state = .connecting then ({ events := [.opened] }, { c with state := .open }) else ({}, c)
  | .send text =>
    if c.state.isOpen then
      let (written, c) := c.write (Frame.ofMessage c.chunk (Text.encode text))
      ({ result := written.sent, frames := written.frames }, c)
    else ({ result := .error (.notOpen c.state) }, c)
  | .close =>
    if c.state.isOpen then
      let (written, c) := c.write [.close]
      ({ result := written.closed, frames := written.frames }, { c with state := .closing })
    else ({ result := .error (.notOpen c.state) }, c)
  | .receive item => if c.isReading then c.receive item else ({}, c)

/-- Steps one after the other, and what each of them gave. -/
def run (c : Connection) : List LinkAction → List LinkOutput × Connection
  | [] => ([], c)
  | a :: rest =>
    let (out, c) := c.step a
    let (outs, c) := c.run rest
    (out :: outs, c)

end Connection

end Multiworld
