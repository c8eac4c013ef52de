import Multiworld.Json.Writer
import Multiworld.Text.Quoted

/-!
# Faults of reading

Why a JSON text gave no value of the wanted type. A text may end too early, may not be
JSON, or may hold a value of the wrong shape; only the last has a wording.

## Main definitions

* `Found`, `Wanted`: what was met, what was looked for
* `Mismatch`: a value of the wrong shape
* `Fault`: why a text could not be read
-/

namespace Multiworld

/-- What a value is, in a diagnostic. -/
inductive Found where
  | null
  | bool (b : Bool)
  | num (n : Num)
  | str (s : String)
  | sequence
  | map

namespace Found

/-- What a value is. -/
def of : Json → Found
  | .null => .null
  | .bool b => .bool b
  | .num n => .num n
  | .str s => .str s
  | .arr _ => .sequence
  | .obj _ => .map

/-- The wording. -/
def message : Found → String
  | .null => "null"
  | .bool b => s!"boolean `{b}`"
  | .num (.int n) => s!"integer `{n.val}`"
  | .num (.float x) => s!"floating point `{String.ofList (Num.float x).render}`"
  | .str s => s!"string {Text.quoted s}"
  | .sequence => "sequence"
  | .map => "map"

end Found

/-- What a reader looks for. -/
inductive Wanted where
  | string
  | boolean
  | sequence
  | map
  | int32
  | int64
  | uint8
  | uint32
  | uint64
  | variant
  | unit
  | record (name : String)

namespace Wanted

/-- The wording. -/
def message : Wanted → String
  | .string => "a string"
  | .boolean => "a boolean"
  | .sequence => "a sequence"
  | .map => "a map"
  | .int32 => "i32"
  | .int64 => "i64"
  | .uint8 => "u8"
  | .uint32 => "u32"
  | .uint64 => "usize"
  | .variant => "string or map"
  | .unit => "unit"
  | .record name => s!"struct {name}"

end Wanted

/-- A value of the wrong shape. -/
inductive Mismatch where
  | wrongType (found : Found) (wanted : Wanted)
  /-- An integer that the wanted type cannot hold. -/
  | outOfRange (n : Int) (wanted : Wanted)
  /-- An object for a variant must have its name as the only key. -/
  | notSingleKey
  | missingField (name : String)
  | duplicateField (name : String)
  /-- A list of fields that ends before a field that is needed. -/
  | tooShort (length : Nat) (record : String) (size : Nat)
  /-- A list with more items than a record has fields. -/
  | tooLong (length size : Nat)
  /-- The same for a value that is not part of a packet. -/
  | tooLongAlone (length : Nat)
  /-- A name that is none of those of some variants. -/
  | unknownVariant (name : String) (names : List String)

namespace Mismatch

/-- The wording. -/
def message : Mismatch → String
  | .wrongType found wanted => s!"invalid type: {found.message}, expected {wanted.message}"
  | .outOfRange n wanted => s!"invalid value: integer `{n}`, expected {wanted.message}"
  | .notSingleKey => "invalid value: map, expected map with a single key"
  | .missingField name => s!"missing field `{name}`"
  | .duplicateField name => s!"duplicate field `{name}`"
  | .tooShort length record size =>
    s!"invalid length {length}, expected struct {record} with {size} elements"
  | .tooLong length size => s!"invalid length {length}, expected {size} elements in sequence"
  | .tooLongAlone length => s!"invalid length {length}, expected fewer elements in array"
  | .unknownVariant name names =>
    let quoted := ", ".intercalate (names.map ("`" ++ · ++ "`"))
    s!"unknown variant `{name}`, expected one of {quoted}"

end Mismatch

/-- Why a text could not be read. -/
inductive Fault where
  /-- The text ends inside a value. -/
  | cutShort
  /-- The text is not JSON. -/
  | malformed
  /-- A value has the wrong shape. -/
  | mismatch (m : Mismatch)

/-- A reader of the front of a text: a value and the rest. -/
abbrev Reader (α : Type) := List Char → Except Fault (α × List Char)

end Multiworld
