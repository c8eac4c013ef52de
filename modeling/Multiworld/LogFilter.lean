import Multiworld.Text.Blank
import Multiworld.Text.Integer

/-!
# Log filters

What the program's own log shows is given by directives between commas. A directive is a
level, or a target, or a target or a span in brackets with a level behind an equals sign:

    info
    client=debug
    client[span{field=value}]=trace

Only whether a filter is one is of interest here, and what is wrong with it if not.

## Main definitions

* `LogFilterFault`: what is wrong with a filter
* `LogFilter.isLevel`: the texts that are levels
* `LogFilter.check`: whether a text is a filter
* `LogFilter.install`: the log set up with a filter
-/

namespace Multiworld

/-- Why the log could not be set up. -/
inductive LogFilterFault where
  /-- A directive is not of the form. -/
  | directive
  /-- A directive names a level that there is none. -/
  | level
  /-- The log was set up before. -/
  | installed
deriving DecidableEq

/-- The wording. -/
def LogFilterFault.message : LogFilterFault → String
  | .directive => "invalid filter directive"
  | .level => "error parsing level filter: expected one of \"off\", \"error\", \"warn\", " ++
      "\"info\", \"debug\", \"trace\", or a number 0-5"
  | .installed => "a global default trace dispatcher has already been set"

namespace LogFilter

/-- The names of the levels. -/
def levels : List String := ["off", "error", "warn", "info", "debug", "trace"]

/-- Whether a text is a level: a name in letters of either case, or a number. -/
def isLevel (cs : List Char) : Bool :=
  (match cs with
    | '+' :: ds => Text.natural? ds
    | ds => Text.natural? ds).any (· ≤ 5) ||
  levels.contains (String.ofList (cs.map Char.toLower))

/-- What stands behind an equals sign; nothing stands for the most detailed level. A
directive with blanks around it is `padded`, and a padded directive has no level. -/
def checkLevel (padded : Bool) (cs : List Char) : Except LogFilterFault Unit :=
  if !padded && (cs.isEmpty || isLevel cs) then .ok () else .error .level

/-- What stands behind a span. -/
def checkAfterSpan (padded : Bool) : List Char → Except LogFilterFault Unit
  | [] => .ok ()
  | '=' :: level => checkLevel padded level
  | _ => .error .directive

/-- The fields of a span, of which there is one at least, and what follows. -/
def checkFields (padded : Bool) (cs : List Char) : Except LogFilterFault Unit :=
  match cs.takeWhile (· ≠ '\x7d'), cs.dropWhile (· ≠ '\x7d') with
  | _ :: _, '\x7d' :: ']' :: rest => checkAfterSpan padded rest
  | _, _ => .error .directive

/-- A span, and what follows. -/
def checkSpan (padded : Bool) (cs : List Char) : Except LogFilterFault Unit :=
  match cs.dropWhile fun c => c ≠ ']' && c ≠ '\x7b' with
  | ']' :: rest => checkAfterSpan padded rest
  | '\x7b' :: rest => checkFields padded rest
  | _ => .error .directive

/-- Whether a target may start with a character. -/
def startsTarget (c : Char) : Bool :=
  c = '-' || c = ':' || c = '_' || c.isAlphanum || 128 ≤ c.toNat

/-- Whether a text is a directive. -/
def checkDirective (cs : List Char) : Except LogFilterFault Unit :=
  let trimmed := Text.trim cs
  let padded := trimmed.length < cs.length
  match trimmed with
  | '[' :: rest => checkSpan padded rest
  | c :: rest =>
    if startsTarget c then
      match rest.dropWhile fun c => c ≠ '=' && c ≠ '[' with
      | '=' :: level => checkLevel padded level
      | '[' :: rest => checkSpan padded rest
      | _ => .ok ()
    else .error .directive
  | [] => .error .directive

/-- A text cut at its commas. -/
def cut : List Char → List (List Char)
  | [] => [[]]
  | ',' :: rest => [] :: cut rest
  | c :: rest =>
    match cut rest with
    | [] => [[c]]
    | piece :: pieces => (c :: piece) :: pieces

/-- Whether a text is a filter; empty directives do not count. -/
def check (filter : String) : Except LogFilterFault Unit :=
  ((cut filter.toList).filter (!·.isEmpty)).forM checkDirective

/-- Sets up the log with the filter that the environment gives, unless it is blank, or
else with the one given here. `isInstalled` says whether the log was set up before. -/
def install (isInstalled : Bool) (environment : Option String) (filter : String) :
    Except LogFilterFault Unit := do
  check <| match environment with
    | some e => if (Text.trim e.toList).isEmpty then filter else e
    | none => filter
  if isInstalled then throw .installed

end LogFilter

end Multiworld
