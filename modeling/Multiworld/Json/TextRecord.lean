import Multiworld.Json.Skim

/-!
# Records read straight from text

A record is written as an object or as the list of its fields in order. Read straight
from text, its fields are taken as they come: the first fault of the text counts, a key
may not come twice, unknown keys are passed over, and fields that do not come keep what
the record had.

## Main definitions

* `Json.TextField`: a field and how its value changes the record
* `Json.readRecord`: a record in front of a text
* `Json.readWhole?`: the record that a text is
* `Json.readText`, `Json.readOptionalText`, `Json.readUInt64`: values of fields
-/

namespace Multiworld.Json

/-- A field of a record: its key, and the record with the field's value read into it. -/
structure TextField (σ : Type) where
  key : String
  read : σ → Reader σ

section

variable {σ : Type}

/-- Reads the values of fields in order, up to the closing bracket. -/
def readPositional : List (TextField σ) → (first : Bool) → σ → Reader σ
  | [], _, s, cs =>
    match skipBlanks cs with
    | [] => .error .cutShort
    | ']' :: rest => .ok (s, rest)
    | _ => .error .malformed
  | f :: fs, first, s, cs =>
    match skipBlanks cs with
    | [] => .error .cutShort
    | ']' :: rest => .ok (s, rest)
    | ',' :: rest =>
      if first then .error .malformed
      else match skipBlanks rest with
        | [] => .error .cutShort
        | ']' :: _ => .error .malformed
        | rest => do
          let (s, rest) ← f.read s rest
          readPositional fs false s rest
    | rest =>
      if first then do
        let (s, rest) ← f.read s rest
        readPositional fs false s rest
      else .error .malformed

/-- Reads fields by their keys, up to the closing brace; `seen` holds the keys that have
come, and `fuel` bounds their number. -/
def readKeyed (fields : List (TextField σ)) : (fuel : Nat) → (first : Bool) →
    (seen : List String) → σ → Reader σ
  | 0, _, _, _, _ => .error .cutShort
  | fuel + 1, first, seen, s, cs => do
    match ← readKey first cs with
    | (none, rest) => return (s, rest)
    | (some k, rest) =>
      match fields.find? (·.key = k) with
      | none =>
        let rest ← skim (← readColon rest)
        readKeyed fields fuel false seen s rest
      | some f =>
        if k ∈ seen then throw (.mismatch (.duplicateField k))
        let (s, rest) ← f.read s (← readColon rest)
        readKeyed fields fuel false (k :: seen) s rest

/-- Reads a record, starting from one that holds the values of the fields left out. -/
def readRecord (name : String) (fields : List (TextField σ)) (start : σ) : Reader σ := fun cs =>
  match skipBlanks cs with
  | '[' :: rest => readPositional fields true start rest
  | '\x7b' :: rest => readKeyed fields (rest.length + 1) true [] start rest
  | rest => wrongType (.record name) rest

/-- The value that a whole text is. -/
def readWhole? (read : Reader σ) (s : String) : Except Fault σ := do
  let (v, rest) ← read s.toList
  readEnd rest
  return v

end

/-! ## Values of fields -/

/-- Reads a string. -/
def readText : Reader String := fun cs =>
  match skipBlanks cs with
  | '"' :: rest => readString rest
  | rest => wrongType .string rest

/-- Reads a string or `null`. -/
def readOptionalText : Reader (Option String) := fun cs =>
  match skipBlanks cs with
  | 'n' :: rest => (readWord ['u', 'l', 'l'] rest).map fun rest => (none, rest)
  | rest => (readText rest).map fun (s, rest) => (some s, rest)

/-- Reads an unsigned integer of 64 bits. -/
def readUInt64 : Reader UInt64 := fun cs => do
  match ← readScalarNum (skipBlanks cs) with
  | (.int n, rest) =>
    if 0 ≤ n.val then return (UInt64.ofNat n.val.toNat, rest)
    else throw (.mismatch (.outOfRange n.val .uint64))
  | (.float x, _) => throw (.mismatch (.wrongType (.num (.float x)) .uint64))
where
  readScalarNum (cs : List Char) : Except Fault (Num × List Char) :=
    match cs with
    | c :: _ => if c = '-' ∨ c.isDigit then readNum cs else wrongType .uint64 cs
    | [] => .error .cutShort

end Multiworld.Json
