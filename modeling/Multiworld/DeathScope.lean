import Multiworld.AuditLog
import Multiworld.DeathNotice
import Multiworld.World

/-!
# Records of death notices

Every death payload that comes in, good or bad, and every one that went out is written to
an audit log. A scope says under which keys: one for what came in and one for what went
out. What could not be read is written once more, under a key that all scopes share.

## Main definitions

* `DeathScope`: the keys of one client
* `DeathScope.logReceived`, `DeathScope.logSent`: entries for payloads
-/

namespace Multiworld

/-- Where the death notices of one client are logged. -/
structure DeathScope where
  name : String
deriving DecidableEq

namespace DeathScope

/-- The scope named after a team and slot. -/
def ofIdentity (i : Identity) : DeathScope :=
  ⟨"team-" ++ String.ofList (Text.integer i.team.number.toInt) ++
    "/slot-" ++ String.ofList (Text.integer i.slot.number.toInt)⟩

/-- The key for payloads that came in. -/
def receivedKey (scope : DeathScope) : String := scope.name ++ "/deathlink/received"

/-- The key for payloads that went out. -/
def sentKey (scope : DeathScope) : String := scope.name ++ "/deathlink/send"

/-- The key for payloads of all scopes that could not be read. -/
def failedKey : String := "deathlink/failed"

/-- Logs a payload that came in. -/
def logReceived (scope : DeathScope) (p : Payload) (log : AuditLog) : AuditLog :=
  match DeathNotice.ofPayload p with
  | .ok _ => log.append scope.receivedKey [s!"ok {p.toJson.text}"]
  | .error e =>
    (log.append scope.receivedKey [s!"failed {p.toJson.text}: {e.message}"]).append failedKey
      [s!"{scope.name} {p.toJson.text}: {e.message}"]

/-- Logs a payload that went out. -/
def logSent (scope : DeathScope) (p : Payload) (log : AuditLog) : AuditLog :=
  log.append scope.sentKey [p.toJson.text]

end DeathScope

end Multiworld
