import Multiworld.Json.Reader

/-!
# Values passed over

A value that nobody asked for is passed over, not read: its numbers have no range, its
code escapes are not paired, its brackets may nest to any depth, and a number that the end
of the text cuts short is malformed. The open brackets are kept on a stack.

## Main definitions

* `Json.skimString`, `Json.skimNumber`: tokens passed over
* `Json.skim`: the text after a value
-/

namespace Multiworld.Json

/-- The text after a string, from a state of its automaton. -/
def skimStringFrom : StringState → List Char → Except Fault (List Char)
  | _, [] => .error .cutShort
  | .code _ ds, c :: cs =>
    if octets (c :: ds) < 4 then skimStringFrom (.code none (c :: ds)) cs
    else if (unit? (c :: ds).reverse).isSome then skimStringFrom .plain cs
    else .error .malformed
  | s, c :: cs =>
    match stepString s c with
    | .done => .ok cs
    | .push _ => skimStringFrom .plain cs
    | .goto s => skimStringFrom s cs
    | .bad => .error .malformed

/-- The text after a string, behind its opening quote. -/
def skimString (cs : List Char) : Except Fault (List Char) := skimStringFrom .plain cs

/-- The text after a number. -/
def skimNumber (cs : List Char) : Except Fault (List Char) :=
  match readLiteral cs with
  | .ok (_, rest) => .ok rest
  | .error _ => .error .malformed

/-- The text after a value without brackets. -/
def skimScalar (cs : List Char) : Except Fault (List Char) :=
  match cs with
  | [] => .error .cutShort
  | 'n' :: rest => readWord ['u', 'l', 'l'] rest
  | 't' :: rest => readWord ['r', 'u', 'e'] rest
  | 'f' :: rest => readWord ['a', 'l', 's', 'e'] rest
  | '"' :: rest => skimString rest
  | c :: rest => if c = '-' ∨ c.isDigit then skimNumber (c :: rest) else .error .malformed

/-- An open bracket. -/
inductive Bracket where
  | list
  | object
deriving DecidableEq

/-- Where passing over stands: at a value, or behind a value or an opening bracket. A
comma may follow only a value. -/
inductive Place where
  | value
  | behind (comma : Bool)

/-- The text before the next value inside a bracket: in an object its key comes first. -/
def skimKey (b : Bracket) (cs : List Char) : Except Fault (List Char) :=
  match b with
  | .list => .ok cs
  | .object =>
    match skipBlanks cs with
    | [] => .error .cutShort
    | '"' :: rest => (skimString rest).bind readColon
    | _ => .error .malformed

/-- Passes over a value with `open_` brackets around it, innermost first; `fuel` bounds
the steps. -/
def skimFrom : (fuel : Nat) → Place → (open_ : List Bracket) → List Char → Except Fault (List Char)
  | 0, _, _, _ => .error .cutShort
  | fuel + 1, .value, open_, cs =>
    match skipBlanks cs with
    | '[' :: rest => skimFrom fuel (.behind false) (.list :: open_) rest
    | '\x7b' :: rest => skimFrom fuel (.behind false) (.object :: open_) rest
    | rest => (skimScalar rest).bind (skimFrom fuel (.behind true) open_)
  | _ + 1, .behind _, [], cs => .ok cs
  | fuel + 1, .behind comma, b :: open_, cs =>
    match skipBlanks cs, b, comma with
    | [], _, _ => .error .cutShort
    | ']' :: rest, .list, _ => skimFrom fuel (.behind true) open_ rest
    | '\x7d' :: rest, .object, _ => skimFrom fuel (.behind true) open_ rest
    | ',' :: rest, b, true => (skimKey b rest).bind (skimFrom fuel .value (b :: open_))
    | _, _, true => .error .malformed
    | rest, b, false => (skimKey b rest).bind (skimFrom fuel .value (b :: open_))

/-- The text after a value. Between two characters there are at most two steps. -/
def skim (cs : List Char) : Except Fault (List Char) :=
  skimFrom (2 * cs.length + 2) .value [] cs

end Multiworld.Json
