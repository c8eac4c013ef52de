import Multiworld.Frame
import Multiworld.Json.Shape
import Multiworld.Json.TextRecord
import Multiworld.Link.Error

/-!
# Settings of a link

How outgoing messages are cut, and how long an incoming one may be. Settings are read from
text over the defaults, and written with all fields.

## Main definitions

* `LinkSettings`: the settings
* `LinkSettings.validate`: the size of slices, if the settings can be used
* `LinkSettings.read`, `LinkSettings.toJson`: settings as text and as a value
-/

namespace Multiworld

/-- The settings of a connection. -/
structure LinkSettings where
  /-- The most octets of an outgoing frame. -/
  chunkSize : UInt64 := 1024
  /-- The most octets of an incoming message. -/
  maxMessageSize : UInt64 := 16777216
deriving DecidableEq

namespace LinkSettings

/-- The size of slices. Neither setting may be zero; the limit is looked at first. -/
def validate (s : LinkSettings) : Except LinkError ChunkSize :=
  if s.maxMessageSize = 0 then
    .error (.invalidSettings "max_message_size must be greater than zero")
  else if h : 0 < s.chunkSize.toNat then .ok ⟨s.chunkSize.toNat, h⟩
  else .error (.invalidSettings "chunk_size must be greater than zero")

/-- Settings as a value. -/
def toJson (s : LinkSettings) : Json :=
  .obj [("chunk_size", .ofUInt64 s.chunkSize), ("max_message_size", .ofUInt64 s.maxMessageSize)]

/-- The fields of settings. -/
def fields : List (Json.TextField LinkSettings) :=
  [{ key := "chunk_size"
     read := fun s cs => do
      let (n, rest) ← Json.readUInt64 cs
      return ({ s with chunkSize := n }, rest) },
    { key := "max_message_size"
      read := fun s cs => do
        let (n, rest) ← Json.readUInt64 cs
        return ({ s with maxMessageSize := n }, rest) }]

/-- Reads settings over the defaults. -/
def reader : Reader LinkSettings := Json.readRecord "TransportConfig" fields {}

/-- The settings that a text is. -/
def read (text : String) : Except Fault LinkSettings := Json.readWhole? reader text

end LinkSettings

end Multiworld
