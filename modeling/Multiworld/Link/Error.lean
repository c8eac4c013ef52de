import Multiworld.Cause
import Multiworld.Link
import Multiworld.Text.Utf8

/-!
# Errors of a link

What goes wrong with a connection. Several errors may be reported as one, at any depth;
its leaves are the errors that are none of these.

## Main definitions

* `LinkError`: an error
* `LinkError.leaves`: the single errors in it
* `LinkError.report`: the report of an error
-/

namespace Multiworld

/-- An error of a connection. -/
inductive LinkError where
  /-- The connection is not open. -/
  | connectionClosed (why : String)
  | connectFailed (cause : Cause)
  | sendFailed (cause : Cause)
  | receiveFailed (cause : Cause)
  /-- A message that came in is no text. -/
  | invalidUtf8 (fault : Utf8Fault)
  /-- A message that came in is too long. -/
  | messageTooLarge (size max : Nat)
  /-- The settings cannot be used. -/
  | invalidSettings (why : String)
  /-- Several errors at once. -/
  | aggregate (errors : List LinkError)

namespace LinkError

/-- The error of doing what needs an open connection. -/
def notOpen (state : LinkState) : LinkError := .connectionClosed s!"connection is {state.text}"

mutual

/-- The single errors in an error, in order. -/
def leaves : LinkError → List LinkError
  | .aggregate errors => leavesOf errors
  | e => [e]

/-- `leaves` for several errors. -/
def leavesOf : List LinkError → List LinkError
  | [] => []
  | e :: es => leaves e ++ leavesOf es

end

/-- The wording. -/
def message : LinkError → String
  | .connectionClosed why => s!"connection closed: {why}"
  | .connectFailed cause => s!"connect failed: {cause.text}"
  | .sendFailed cause => s!"send failed: {cause.text}"
  | .receiveFailed cause => s!"receive failed: {cause.text}"
  | .invalidUtf8 fault => s!"message is not valid UTF-8: {fault.message}"
  | .messageTooLarge size max => s!"message of {size} bytes exceeds the {max} byte limit"
  | .invalidSettings why => s!"invalid transport config: {why}"
  | .aggregate errors => s!"{errors.length} transport errors"

/-- The texts behind an error, outermost first. -/
def causes : LinkError → List String
  | .connectFailed cause => cause.chain
  | .sendFailed cause => cause.chain
  | .receiveFailed cause => cause.chain
  | .invalidUtf8 fault => [fault.message]
  | _ => []

/-- The report of an error. -/
def report (e : LinkError) : ErrorReport := .of e.message e.causes

end LinkError

end Multiworld
