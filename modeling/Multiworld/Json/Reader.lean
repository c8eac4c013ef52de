import Multiworld.Json.Token

/-!
# JSON text, read

A reader of values that works left to right. Lists and objects nest at most 127 deep;
in an object the last of several fields with one key stays, and keys come out in order.

## Main definitions

* `Json.readValue`: a value in front of a text, with a bound on its brackets
* `Json.readItems`, `Json.readFields`: what stands inside brackets
* `Json.read`: the value that a text is
* `Json.readSequence`: the items of the list that a text is
-/

namespace Multiworld.Json

/-- Reads items up to the closing bracket; `acc` holds those so far, last first, and
`fuel` bounds their number. -/
def readItems {α : Type} (value : Reader α) : (fuel : Nat) → (acc : List α) → Reader (List α)
  | 0, _, _ => .error .cutShort
  | fuel + 1, acc, cs =>
    match skipBlanks cs with
    | [] => .error .cutShort
    | ']' :: rest => .ok (acc.reverse, rest)
    | ',' :: rest =>
      if acc.isEmpty then .error .malformed
      else match skipBlanks rest with
        | [] => .error .cutShort
        | ']' :: _ => .error .malformed
        | rest => do
          let (v, rest) ← value rest
          readItems value fuel (v :: acc) rest
    | rest =>
      if acc.isEmpty then do
        let (v, rest) ← value rest
        readItems value fuel [v] rest
      else .error .malformed

/-- The text after a colon. -/
def readColon (cs : List Char) : Except Fault (List Char) :=
  match skipBlanks cs with
  | [] => .error .cutShort
  | ':' :: rest => .ok rest
  | _ => .error .malformed

/-- The key of the next field, or the end of the object; `first` says that no field has
been read. -/
def readKey (first : Bool) (cs : List Char) : Except Fault (Option String × List Char) :=
  match skipBlanks cs with
  | [] => .error .cutShort
  | '\x7d' :: rest => .ok (none, rest)
  | '"' :: rest =>
    if first then (readString rest).map fun (k, rest) => (some k, rest)
    else .error .malformed
  | ',' :: rest =>
    if first then .error .malformed
    else match skipBlanks rest with
      | [] => .error .cutShort
      | '"' :: rest => (readString rest).map fun (k, rest) => (some k, rest)
      | _ => .error .malformed
  | _ => .error .malformed

/-- Reads fields up to the closing brace into `acc`, each put in its place; `fuel` bounds
their number. -/
def readFields (value : Reader Json) : (fuel : Nat) → (first : Bool) →
    (acc : List (String × Json)) → Reader (List (String × Json))
  | 0, _, _, _ => .error .cutShort
  | fuel + 1, first, acc, cs => do
    match ← readKey first cs with
    | (none, rest) => return (acc, rest)
    | (some k, rest) =>
      let (v, rest) ← value (← readColon rest)
      readFields value fuel false (insert k v acc) rest

/-- Reads a value that is not a list or an object; its first character is given. -/
def readScalar (cs : List Char) : Except Fault (Json × List Char) :=
  match cs with
  | [] => .error .cutShort
  | 'n' :: rest => (readWord ['u', 'l', 'l'] rest).map fun rest => (.null, rest)
  | 't' :: rest => (readWord ['r', 'u', 'e'] rest).map fun rest => (.bool true, rest)
  | 'f' :: rest => (readWord ['a', 'l', 's', 'e'] rest).map fun rest => (.bool false, rest)
  | '"' :: rest => (readString rest).map fun (s, rest) => (.str s, rest)
  | c :: rest =>
    if c = '-' ∨ c.isDigit then (readNum (c :: rest)).map fun (n, rest) => (.num n, rest)
    else .error .malformed

/-- Reads a value that opens at most `depth` brackets one inside another. -/
def readValue : (depth : Nat) → Reader Json
  | depth, cs =>
    match skipBlanks cs with
    | '[' :: rest =>
      match depth with
      | 0 => .error .malformed
      | depth + 1 =>
        (readItems (readValue depth) (rest.length + 1) [] rest).map fun (js, rest) =>
          (.arr js, rest)
    | '\x7b' :: rest =>
      match depth with
      | 0 => .error .malformed
      | depth + 1 =>
        (readFields (readValue depth) (rest.length + 1) true [] rest).map fun (fs, rest) =>
          (.obj fs, rest)
    | rest => readScalar rest

/-- The brackets that may stand one inside another. -/
def maxDepth : Nat := 127

/-- What may stand behind a value: blanks. -/
def readEnd (cs : List Char) : Except Fault Unit :=
  match skipBlanks cs with
  | [] => .ok ()
  | _ => .error .malformed

/-- The value that a text is. -/
def read (s : String) : Except Fault Json := do
  let (j, rest) ← readValue maxDepth s.toList
  readEnd rest
  return j

/-- The fault of a text whose value has the wrong type: a list or an object is refused at
its bracket, any other value after it was read. -/
def wrongType {α : Type} (wanted : Wanted) (cs : List Char) : Except Fault α :=
  match cs with
  | '[' :: _ => .error (.mismatch (.wrongType .sequence wanted))
  | '\x7b' :: _ => .error (.mismatch (.wrongType .map wanted))
  | cs => do
    let (j, _) ← readScalar cs
    throw (.mismatch (.wrongType (.of j) wanted))

/-- The items of the list that a text is. -/
def readSequence (s : String) : Except Fault (List Json) :=
  match skipBlanks s.toList with
  | '[' :: rest => do
    let (js, rest) ← readItems (readValue (maxDepth - 1)) (rest.length + 1) [] rest
    readEnd rest
    return js
  | rest => wrongType .sequence rest

end Multiworld.Json
