import Multiworld.DeathScope

/-!
# What is logged of death payloads

Every payload that comes in leaves one entry under the key of its scope, which says whether
it could be read, and one that could not be read leaves another under the shared key.

## Main definitions

* `DeathScope.receivedEntry`, `DeathScope.failedEntry?`: the entries for a payload
* `DeathScope.logAll`: payloads logged in a row

## Main results

* `DeathScope.receivedKey_ne_failedKey`, `DeathScope.sentKey_ne_receivedKey` and
  `DeathScope.sentKey_ne_failedKey`: the keys differ
* `DeathScope.entries_logAll_received` and what goes with it: what a row of payloads leaves
-/

namespace Multiworld

namespace DeathScope

variable (scope : DeathScope) (log : AuditLog) (p : Payload) (payloads : List Payload)

/-- The entry for a payload that came in. -/
def receivedEntry (p : Payload) : String :=
  match DeathNotice.ofPayload p with
  | .ok _ => s!"ok {p.toJson.text}"
  | .error e => s!"failed {p.toJson.text}: {e.message}"

/-- The entry for a payload that could not be read, if that is what it is. -/
def failedEntry? (p : Payload) : Option String :=
  match DeathNotice.ofPayload p with
  | .ok _ => none
  | .error e => some s!"{scope.name} {p.toJson.text}: {e.message}"

/-- No scope has the shared key for its own: its key is longer. -/
theorem receivedKey_ne_failedKey : scope.receivedKey ≠ failedKey := by
  intro h
  have hlength := congrArg String.length h
  rw [receivedKey, String.length_append] at hlength
  have hreceived : "/deathlink/received".length = 19 := by decide
  have hfailed : failedKey.length = 16 := by decide
  omega

/-- No key for what went out is one for what came in, of whatever scope, or the shared one: it
ends in other letters. -/
theorem sentKey_ne_receivedKey (scope' : DeathScope) : scope.sentKey ≠ scope'.receivedKey := by
  intro h
  have hends := congrArg (fun key => key.toList.reverse.take 2) h
  simp [sentKey, receivedKey] at hends

theorem sentKey_ne_failedKey : scope.sentKey ≠ failedKey := by
  intro h
  have hends := congrArg (fun key => key.toList.reverse.take 2) h
  simp [sentKey, failedKey] at hends

theorem logReceived_eq :
    scope.logReceived p log =
      (log.append scope.receivedKey [receivedEntry p]).append failedKey
        (scope.failedEntry? p).toList := by
  unfold logReceived receivedEntry failedEntry?
  cases DeathNotice.ofPayload p with
  | ok notice => exact (AuditLog.append_nil _ _).symm
  | error e => rfl

/-- Payloads logged in a row. -/
def logAll : AuditLog := payloads.foldl (fun log p => scope.logReceived p log) log

/-- **Every payload leaves one entry** under the key of the scope. -/
theorem entries_logAll_received :
    (scope.logAll log payloads).entries scope.receivedKey =
      log.entries scope.receivedKey ++ payloads.map receivedEntry := by
  induction payloads generalizing log with
  | nil => exact (List.append_nil _).symm
  | cons p payloads ih =>
    rw [logAll, List.foldl_cons, ← logAll, ih, logReceived_eq, AuditLog.entries_append,
      AuditLog.entries_append, if_pos rfl, if_neg scope.receivedKey_ne_failedKey.symm,
      List.append_nil, List.append_assoc]
    rfl

/-- **Every payload that cannot be read leaves one entry** under the shared key. -/
theorem entries_logAll_failed :
    (scope.logAll log payloads).entries failedKey =
      log.entries failedKey ++ payloads.filterMap scope.failedEntry? := by
  induction payloads generalizing log with
  | nil => exact (List.append_nil _).symm
  | cons p payloads ih =>
    rw [logAll, List.foldl_cons, ← logAll, ih, logReceived_eq, AuditLog.entries_append,
      AuditLog.entries_append, if_neg scope.receivedKey_ne_failedKey, if_pos rfl,
      List.append_nil, List.append_assoc, List.filterMap_cons]
    cases scope.failedEntry? p <;> rfl

/-- Nothing else is logged. -/
theorem entries_logAll_other {key : String} (hreceived : key ≠ scope.receivedKey)
    (hfailed : key ≠ failedKey) : (scope.logAll log payloads).entries key = log.entries key := by
  induction payloads generalizing log with
  | nil => rfl
  | cons p payloads ih =>
    rw [logAll, List.foldl_cons, ← logAll, ih, logReceived_eq, AuditLog.entries_append,
      AuditLog.entries_append, if_neg hreceived.symm, if_neg hfailed.symm, List.append_nil,
      List.append_nil]

/-- A payload is a death, or is logged as one that could not be read. -/
theorem length_eq_add_failed :
    payloads.length = (payloads.filterMap fun p => (DeathNotice.ofPayload p).toOption).length +
      (payloads.filterMap scope.failedEntry?).length := by
  induction payloads with
  | nil => rfl
  | cons p payloads ih =>
    rw [List.length_cons, List.filterMap_cons, List.filterMap_cons, ih]
    unfold failedEntry?
    cases DeathNotice.ofPayload p with
    | ok notice => exact Nat.add_right_comm _ _ _
    | error e => rfl

end DeathScope

end Multiworld
