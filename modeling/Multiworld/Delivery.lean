import Multiworld.Cause

/-!
# Deliveries

A message that is to be sent is refused at once, or accepted with a delivery that says in
the end whether it was written. A message that is dropped before it was written counts as
one that met a closed connection.

## Main definitions

* `SendError`: why a message was not written
* `Delivery`: what becomes of an accepted message
-/

namespace Multiworld

/-- Why a message was not written. -/
inductive SendError where
  /-- The connection is not open. -/
  | connectionClosed (why : String)
  /-- As many messages are waiting already. -/
  | queueFull (waiting : Nat)
  /-- The packets could not be put into a message. -/
  | encodeFailed (cause : Cause)
  /-- What was to be sent on is no message. -/
  | decodeFailed (cause : Cause)
  | sendFailed (cause : Cause)
deriving DecidableEq

namespace SendError

/-- The wording. -/
def message : SendError → String
  | .connectionClosed why => s!"connection closed: {why}"
  | .queueFull waiting => s!"outbound queue is full ({waiting} messages)"
  | .encodeFailed cause => s!"encode failed: {cause.text}"
  | .decodeFailed cause => s!"decode failed: {cause.text}"
  | .sendFailed cause => s!"send failed: {cause.text}"

/-- What lies behind an error. -/
def causes : SendError → List String
  | .encodeFailed cause => cause.chain
  | .decodeFailed cause => cause.chain
  | .sendFailed cause => cause.chain
  | .connectionClosed _ => []
  | .queueFull _ => []

/-- The report of an error. -/
def report (e : SendError) : ErrorReport := .of e.message e.causes

end SendError

/-- What becomes of an accepted message. -/
inductive Delivery where
  | written
  | failed (e : SendError)
  /-- It was given up before it was written. -/
  | dropped
deriving DecidableEq

/-- Why an accepted message was not written, if it was not. -/
def Delivery.wait : Delivery → Except SendError Unit
  | .written => .ok ()
  | .failed e => .error e
  | .dropped => .error (.connectionClosed "message dropped before it was written")

end Multiworld
