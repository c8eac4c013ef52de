import Multiworld.Json.Fault

/-!
# Values of a wanted shape

Decoders from values to types. A record is an object, or the list of its fields in order.
Its fields are first checked in the order in which they are given, whatever is missing;
then it is put together in the order of its declaration. So a wrong field is always
reported before a missing one.

## Main definitions

* `Json.Decoder`: a value as a value of a type, or what is wrong with it
* `Json.string`, `Json.int32`, … : scalars
* `Json.optional`, `Json.list`: `null` for an absent value, lists
* `Json.variant`: the name of a case without fields
* `Json.record`, `Json.Record.need`, `Json.Record.get`: records
-/

namespace Multiworld.Json

/-- A value as a value of a type, or what is wrong with it. -/
abbrev Decoder (α : Type) := Json → Except Mismatch α

/-- Where a value stands. In a packet an empty object passes for `null` as the value of a
case without fields, and a list that is too long is worded with the fields' number. -/
inductive Standing where
  | inPacket
  | alone
deriving DecidableEq

/-- The value has the wrong type. -/
def wrong {α : Type} (wanted : Wanted) (j : Json) : Except Mismatch α :=
  .error (.wrongType (.of j) wanted)

/-! ## Scalars -/

/-- A string. -/
def string : Decoder String
  | .str s => .ok s
  | j => wrong .string j

/-- A boolean. -/
def boolean : Decoder Bool
  | .bool b => .ok b
  | j => wrong .boolean j

/-- An integer from `low` to below `high`; a float is none, even an integral one. -/
def integer (low high : Int) (wanted : Wanted) : Decoder Int
  | .num (.int n) =>
    if low ≤ n.val ∧ n.val < high then .ok n.val else .error (.outOfRange n.val wanted)
  | j => wrong wanted j

/-- A signed integer of 32 bits. -/
def int32 : Decoder Int32 := fun j =>
  (integer (-2 ^ 31) (2 ^ 31) .int32 j).map Int32.ofInt

/-- A signed integer of 64 bits. -/
def int64 : Decoder Int64 := fun j =>
  (integer (-2 ^ 63) (2 ^ 63) .int64 j).map Int64.ofInt

/-- An unsigned integer of 8 bits. -/
def uint8 : Decoder UInt8 := fun j =>
  (integer 0 (2 ^ 8) .uint8 j).map fun n => UInt8.ofNat n.toNat

/-- An unsigned integer of 32 bits. -/
def uint32 : Decoder UInt32 := fun j =>
  (integer 0 (2 ^ 32) .uint32 j).map fun n => UInt32.ofNat n.toNat

/-! ## Composites -/

/-- A value that may be `null`. -/
def optional {α : Type} (decode : Decoder α) : Decoder (Option α)
  | .null => .ok none
  | j => (decode j).map some

/-- A list. -/
def list {α : Type} (decode : Decoder α) : Decoder (List α)
  | .arr items => items.mapM decode
  | j => wrong .sequence j

/-- A free-form object. -/
def payload : Decoder Payload
  | .obj fields => .ok (Payload.ofFields fields)
  | j => wrong .map j

/-- The name of a case without fields: a string, or an object with the name as its only
key and `null` as its value. -/
def variant (standing : Standing) : Decoder String
  | .str s => .ok s
  | .obj [(k, v)] =>
    match v with
    | .null => .ok k
    | .obj [] => if standing = .inPacket then .ok k else wrong .unit v
    | v => wrong .unit v
  | .obj _ => .error .notSingleKey
  | j => wrong .variant j

/-! ## Records -/

/-- The fields of a record as they were given, and what a missing one is reported as. -/
structure Record where
  fields : List (String × Json)
  missing : String → Mismatch

/-- Checks fields in the order in which they are given. -/
def checkFields (check : String → Json → Except Mismatch Unit) :
    List (String × Json) → Except Mismatch Unit
  | [] => .ok ()
  | (k, v) :: rest => do
    check k v
    checkFields check rest

/-- The fields of a record whose keys, in order, are `keys`, checked one by one. -/
def record (standing : Standing) (name : String) (keys : List String)
    (check : String → Json → Except Mismatch Unit) : Decoder Record
  | .obj fields => do
    checkFields check fields
    return ⟨fields, .missingField⟩
  | .arr items => do
    let fields := keys.zip items
    checkFields check fields
    if keys.length < items.length then
      throw (if standing = .inPacket then .tooLong items.length keys.length
        else .tooLongAlone items.length)
    return ⟨fields, fun _ => .tooShort items.length name keys.length⟩
  | j => wrong (.record name) j

namespace Record

/-- The value of a field that must be there. -/
def need {α : Type} (r : Record) (key : String) (decode : Decoder α) : Except Mismatch α :=
  match lookup key r.fields with
  | some j => decode j
  | none => .error (r.missing key)

/-- The value of a field, or `default` if it is not there. -/
def get {α : Type} (r : Record) (key : String) (decode : Decoder α) (default : α) :
    Except Mismatch α :=
  match lookup key r.fields with
  | some j => decode j
  | none => .ok default

/-- The value of a field that may be absent or `null`. -/
def get? {α : Type} (r : Record) (key : String) (decode : Decoder α) :
    Except Mismatch (Option α) :=
  r.get key (optional decode) none

end Record

/-- What a decoder finds wrong with a value. -/
def fits {α : Type} (decode : Decoder α) (j : Json) : Except Mismatch Unit :=
  (decode j).map fun _ => ()

/-! ## Values of the scalar types -/

/-- A signed integer of 32 bits as a value. -/
def ofInt32 (n : Int32) : Json :=
  .num (.int ⟨n.toInt, by have := n.le_toInt; omega, by have := n.toInt_lt; omega⟩)

/-- A signed integer of 64 bits as a value. -/
def ofInt64 (n : Int64) : Json :=
  .num (.int ⟨n.toInt, by have := n.le_toInt; omega, by have := n.toInt_lt; omega⟩)

/-- An unsigned integer of at most 64 bits as a value. -/
def ofNat64 (n : Nat) (h : n < 2 ^ 64) : Json :=
  .num (.int ⟨n, by omega, by omega⟩)

/-- An unsigned integer of 8 bits as a value. -/
def ofUInt8 (n : UInt8) : Json := ofNat64 n.toNat (by have := n.toNat_lt; omega)

/-- An unsigned integer of 32 bits as a value. -/
def ofUInt32 (n : UInt32) : Json := ofNat64 n.toNat (by have := n.toNat_lt; omega)

/-- An unsigned integer of 64 bits as a value. -/
def ofUInt64 (n : UInt64) : Json := ofNat64 n.toNat n.toNat_lt

end Multiworld.Json
