import Multiworld.Instant
import Multiworld.Json.Writer

/-!
# Death notices

When one player dies, everyone linked dies. A death is bounced as a payload with the time
in seconds since the start of 1970, the player's name and, if there is one, a cause. A
cause that is no string counts as absent; the other two must be there and of their types,
and the time must be that of an instant, once it is rounded to milliseconds.

## Main definitions

* `DeathNotice`: a death
* `DeathNotice.payload`: a death as a payload
* `DeathFault`: why a payload is no death
* `DeathNotice.ofPayload`: a payload as a death
-/

namespace Multiworld

/-- A death: when, whose, and why. -/
structure DeathNotice where
  instant : Instant
  source : String
  cause : Option String := none
deriving DecidableEq

/-- The fields that a death must have. -/
inductive DeathField where
  | time
  | source
deriving DecidableEq

namespace DeathField

/-- The key of a field. -/
def name : DeathField → String
  | .time => "time"
  | .source => "source"

/-- What a field should be. -/
def wanted : DeathField → String
  | .time => "a number"
  | .source => "a string"

end DeathField

/-- Why a payload is no death. -/
inductive DeathFault where
  | missing (field : DeathField)
  | wrongType (field : DeathField)
  /-- The time is that of no instant. -/
  | outOfRange (time : Binary64)
deriving DecidableEq

/-- The wording. -/
def DeathFault.message : DeathFault → String
  | .missing field => s!"missing field `{field.name}`"
  | .wrongType field => s!"field `{field.name}` should be {field.wanted}"
  | .outOfRange time => s!"time {String.ofList (Layout.plain.write time)} is out of range"

namespace DeathNotice

/-- The tag of bounces that are deaths. -/
def tag : String := "DeathLink"

/-- The seconds since the start of 1970, as the payload of a death holds them. -/
def seconds (t : Instant) : Binary64 := .ofFraction t.millis 1000 t.natAbs_millis_lt

/-- The instant nearest to some seconds since the start of 1970, if there is one. Milliseconds that
are further away than `2^63` are refused, and the others are counted in 64 bits, of which `2^63` has
one too many and counts as one less. -/
def instant? (seconds : Binary64) : Option Instant := do
  let millis ← seconds.mulNat? 1000
  let count := millis.nearestInt
  if 2 ^ 63 < count.natAbs then none else Instant.ofMillis? (Int64.ofIntClamp count).toInt

/-- No instant is so far away that counting in 64 bits would make a difference. -/
theorem instant?_eq (seconds : Binary64) :
    instant? seconds =
      (seconds.mulNat? 1000).bind fun millis => Instant.ofMillis? millis.nearestInt := by
  refine congrArg (Option.bind (seconds.mulNat? 1000)) (funext fun millis => ?_)
  dsimp only
  split
  · next h => rw [Instant.ofMillis?_eq_none (by omega)]
  · exact Instant.ofMillis?_clamp millis.nearestInt

/-- A death as a payload. -/
def payload (d : DeathNotice) : Payload :=
  .ofFields (("time", .num (.float (seconds d.instant))) :: ("source", .str d.source) ::
    match d.cause with
    | some cause => [("cause", .str cause)]
    | none => [])

/-- The time that a payload holds. -/
def timeOf (p : Payload) : Except DeathFault Binary64 :=
  match p.get? "time" with
  | none => .error (.missing .time)
  | some .null => .error (.missing .time)
  | some (.num n) => .ok n.toBinary64
  | some _ => .error (.wrongType .time)

/-- The name that a payload holds. -/
def sourceOf (p : Payload) : Except DeathFault String :=
  match p.get? "source" with
  | none => .error (.missing .source)
  | some .null => .error (.missing .source)
  | some (.str s) => .ok s
  | some _ => .error (.wrongType .source)

/-- The cause that a payload holds, if it is a string. -/
def causeOf (p : Payload) : Option String :=
  match p.get? "cause" with
  | some (.str s) => some s
  | _ => none

/-- A payload as a death. -/
def ofPayload (p : Payload) : Except DeathFault DeathNotice := do
  let time ← timeOf p
  let source ← sourceOf p
  match instant? time with
  | some instant => return { instant, source, cause := causeOf p }
  | none => throw (.outOfRange time)

end DeathNotice

end Multiworld
