import Multiworld.Link.Settings

/-!
# Settings of a client

Everything that a client needs in order to connect. Settings are read from text over the
defaults, so that a text only needs the fields it wants to change, and are written with
all fields.

## Main definitions

* `ClientSettings`: the settings
* `ClientSettings.read`, `ClientSettings.toJson`: settings as text and as a value
-/

namespace Multiworld

/-- The settings of a client. -/
structure ClientSettings where
  /-- The address of the server. -/
  url : String := "ws://localhost:38281"
  link : LinkSettings := {}
  /-- Where death notices are logged, if not under the client's team and slot. -/
  deathScope : Option String := none
  /-- How many messages may wait to be written. -/
  queueCapacity : UInt64 := 256
  /-- What the program's own log shows, unless the environment says. -/
  logFilter : String := "archlink=info"
deriving DecidableEq

namespace ClientSettings

/-- Settings as a value. -/
def toJson (s : ClientSettings) : Json :=
  .obj [("url", .str s.url), ("transport", s.link.toJson),
    ("death_link_scope", (s.deathScope.map .str).getD .null),
    ("send_queue_capacity", .ofUInt64 s.queueCapacity), ("log_filter", .str s.logFilter)]

/-- The fields of settings. -/
def fields : List (Json.TextField ClientSettings) :=
  [{ key := "url"
     read := fun s cs => do
      let (url, rest) ← Json.readText cs
      return ({ s with url := url }, rest) },
    { key := "transport"
      read := fun s cs => do
        let (link, rest) ← LinkSettings.reader cs
        return ({ s with link := link }, rest) },
    { key := "death_link_scope"
      read := fun s cs => do
        let (scope, rest) ← Json.readOptionalText cs
        return ({ s with deathScope := scope }, rest) },
    { key := "send_queue_capacity"
      read := fun s cs => do
        let (n, rest) ← Json.readUInt64 cs
        return ({ s with queueCapacity := n }, rest) },
    { key := "log_filter"
      read := fun s cs => do
        let (filter, rest) ← Json.readText cs
        return ({ s with logFilter := filter }, rest) }]

/-- The settings that a text is. -/
def read (text : String) : Except Fault ClientSettings :=
  Json.readWhole? (Json.readRecord "ClientConfig" fields {}) text

end ClientSettings

end Multiworld
