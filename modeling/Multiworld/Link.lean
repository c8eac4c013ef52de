/-!
# Links

A connection to a server, by name and by where it is in its life: it is dialled, opens,
and closes again, and never goes back.

## Main definitions

* `LinkState`: where a connection is in its life
* `ConnectionId`: the name of a connection
-/

namespace Multiworld

/-- Where a connection is in its life. -/
inductive LinkState where
  | disconnected
  | connecting
  | open
  | closing
  | closed
deriving DecidableEq

namespace LinkState

/-- All states, in the order of a connection's life. -/
def all : List LinkState := [.disconnected, .connecting, .open, .closing, .closed]

/-- The text of a state. -/
def text : LinkState → String
  | .disconnected => "disconnected"
  | .connecting => "connecting"
  | .open => "open"
  | .closing => "closing"
  | .closed => "closed"

/-- Whether messages may be sent. -/
def isOpen (s : LinkState) : Bool := s = .open

end LinkState

/-- The name of a connection. -/
structure ConnectionId where
  number : UInt64
deriving DecidableEq

/-- The text of a name. -/
def ConnectionId.text (id : ConnectionId) : String :=
  "conn-" ++ String.ofList (Nat.toDigits 10 id.number.toNat)

end Multiworld
