/-!
# Causes of errors

An error has a text of its own, and may have something behind it, which has a text and may
have something behind it in turn. A report gives the first text and a line for each of the
others.

## Main definitions

* `Cause`: what lies behind an error
* `ErrorReport`: an error as a host sees it
-/

namespace Multiworld

/-- What lies behind an error: its text, and the texts of what lies behind it in turn. -/
structure Cause where
  text : String
  deeper : List String := []
deriving DecidableEq

/-- All texts of a cause, outermost first. -/
def Cause.chain (c : Cause) : List String := c.text :: c.deeper

/-- An error as a host sees it: its text, and a line for each text behind it. -/
structure ErrorReport where
  message : String
  stack : String
deriving DecidableEq

/-- The report of an error with a text and the texts behind it. -/
def ErrorReport.of (message : String) (causes : List String) : ErrorReport :=
  ⟨message, "\n".intercalate (causes.map ("caused by: " ++ ·))⟩

end Multiworld
