import Multiworld.Link.Error

/-!
# Host callbacks

A host that cannot take part in the library registers callbacks for what happens to a
connection, any of which it may leave out. It is called once for each single error. The
last opening or closing is remembered, so that the host can ask for it.

## Main definitions

* `LinkEvent`: what happens to a connection
* `Callbacks`: which callbacks a host registered
* `HostCall`: a call of one
* `CallbackBridge`: callbacks, and the state that events imply
* `CallbackBridge.handle`: an event handed to a host
-/

namespace Multiworld

/-- What happens to a connection. -/
inductive LinkEvent where
  | opened
  | closed
  | message (text : String)
  | error (e : LinkError)

/-- Which callbacks a host registered. -/
structure Callbacks where
  onOpen : Bool := false
  onClose : Bool := false
  onError : Bool := false
  onMessage : Bool := false
deriving DecidableEq

/-- A summary of the callbacks. -/
def Callbacks.text (c : Callbacks) : String :=
  s!"ForeignCallbacks \x7b on_open: {c.onOpen}, on_close: {c.onClose}, on_error: {c.onError}, " ++
    s!"on_message: {c.onMessage} \x7d"

/-- A call of a callback. -/
inductive HostCall where
  | opened
  | closed
  | message (text : String)
  | error (report : ErrorReport)
deriving DecidableEq

/-- Callbacks, and the state that the events so far imply. -/
structure CallbackBridge where
  callbacks : Callbacks
  state : LinkState := .disconnected
deriving DecidableEq

namespace CallbackBridge

/-- The state that an event implies. -/
def stateAfter (state : LinkState) : LinkEvent → LinkState
  | .opened => .open
  | .closed => .closed
  | .message _ => state
  | .error _ => state

/-- The calls for an event. -/
def calls (c : Callbacks) : LinkEvent → List HostCall
  | .opened => if c.onOpen then [.opened] else []
  | .closed => if c.onClose then [.closed] else []
  | .message text => if c.onMessage then [.message text] else []
  | .error e => if c.onError then e.leaves.map (.error ·.report) else []

/-- Hands an event to the host. -/
def handle (b : CallbackBridge) (event : LinkEvent) : List HostCall × CallbackBridge :=
  (calls b.callbacks event, { b with state := stateAfter b.state event })

/-- Hands events to the host one by one. -/
def handleAll (b : CallbackBridge) : List LinkEvent → List HostCall × CallbackBridge
  | [] => ([], b)
  | event :: events =>
    let later := (b.handle event).2.handleAll events
    ((b.handle event).1 ++ later.1, later.2)

/-- Events may be handed over in two parts. -/
theorem handleAll_append (b : CallbackBridge) (es fs : List LinkEvent) :
    b.handleAll (es ++ fs) =
      ((b.handleAll es).1 ++ ((b.handleAll es).2.handleAll fs).1,
        ((b.handleAll es).2.handleAll fs).2) := by
  induction es generalizing b with
  | nil => rfl
  | cons e es ih => simp only [List.cons_append, handleAll, ih, List.append_assoc]

/-- The host is told of a connection that could not be opened. -/
def connectFailed (b : CallbackBridge) (e : LinkError) : List HostCall × CallbackBridge :=
  (if b.callbacks.onError then [.error e.report] else [], { b with state := .closed })

end CallbackBridge

end Multiworld
