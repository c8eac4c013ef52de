import Mathlib.Data.List.Forall2
import Multiworld.Proofs.DeathScope
import Multiworld.Session

/-!
# Deaths sent

Deaths are sent one after another, and the sender answers each call in its own way: it refuses
the message, or accepts it and writes it, fails to write it, or drops it. A call succeeds exactly
if its message was written, and exactly then the death is logged as sent; the error of a call
is that of its message. Nothing else is logged, and nothing but the log and the messages
accepted changes.

## Main definitions

* `DeathCall`: a death and the sender's answer
* `Session.callDeath`, `Session.callDeaths`: one call, and calls in a row
* `DeathCall.Returns`: the right result of a call
* `Hub.Logs`: what calls in a row change

## Main results

* `Session.callDeath_eq`, `Session.callDeaths_eq`: all that one call does, and a row of them
* `Session.deaths_sent_iff_written`: a death is logged as sent exactly if it was written
-/

namespace Multiworld

/-- A death to be sent, and the sender's answer. -/
structure DeathCall where
  notice : DeathNotice
  answer : Except SendError Delivery

namespace DeathCall

/-- What becomes of the message. -/
def fate (c : DeathCall) : Fate :=
  match c.answer with
  | .error e => .refused e
  | .ok d => .accepted d

/-- Whether the message was written. -/
def isWritten (c : DeathCall) : Bool :=
  match c.answer with
  | .ok .written => true
  | _ => false

/-- The entry of a death that was sent. -/
def entry (c : DeathCall) : String := c.notice.payload.toJson.text

/-- The message, as the sender sees it. -/
def message (c : DeathCall) : Report :=
  .sent (Batch.write [.bounce (.tagged DeathNotice.tag c.notice.payload)])

/-- **The right result of a call**: it succeeds if and only if the message was written, and
else its error says why the message was not. -/
structure Returns (c : DeathCall) (result : Except SendError Unit) : Prop where
  ok_iff : result = .ok () ↔ c.answer = .ok .written
  of_refused : ∀ e, c.answer = .error e → result = .error e
  of_failed : ∀ e, c.answer = .ok (.failed e) → result = .error e
  of_dropped : c.answer = .ok .dropped → ∃ why, result = .error (.connectionClosed why)

end DeathCall

/-- **What calls in a row change**: the deaths whose messages were written are logged as sent,
in order, and the messages that were accepted went to the sender. -/
structure Hub.Logs (h : Hub) (calls : List DeathCall) (h' : Hub) : Prop where
  sent_eq : h'.audit.entries h.scope.sentKey =
    h.audit.entries h.scope.sentKey ++ (calls.filter (·.isWritten)).map (·.entry)
  others_eq : ∀ key, key ≠ h.scope.sentKey → h'.audit.entries key = h.audit.entries key
  reports_eq : h'.reports =
    h.reports ++ (calls.filter (·.answer.isOk)).map (·.message)
  /-- Tags, subscriptions, listeners and handlers are as they were. -/
  rest_eq : { h' with audit := h.audit, reports := h.reports } = h

/-- What some calls in a row leave of a hub. -/
def Hub.afterDeaths (h : Hub) (calls : List DeathCall) : Hub :=
  { h with
    audit := h.audit.append h.scope.sentKey ((calls.filter (·.isWritten)).map (·.entry))
    reports := h.reports ++ (calls.filter (·.answer.isOk)).map (·.message) }

namespace Hub

variable (h : Hub) (first more calls : List DeathCall)

theorem afterDeaths_nil : h.afterDeaths [] = h := by
  rw [afterDeaths, List.filter_nil, List.filter_nil, List.map_nil, List.map_nil,
    AuditLog.append_nil, List.append_nil]

/-- Some calls and then more come to all of them. -/
theorem afterDeaths_append :
    (h.afterDeaths first).afterDeaths more = h.afterDeaths (first ++ more) := by
  simp only [afterDeaths, AuditLog.append_append, List.filter_append, List.map_append,
    List.append_assoc]

variable {c : DeathCall}

/-- A message that was refused leaves nothing. -/
theorem afterDeaths_refused {e : SendError} (hc : c.answer = .error e) : h.afterDeaths [c] = h := by
  simp [afterDeaths, DeathCall.isWritten, hc, Except.isOk, Except.toBool]

/-- A message that was accepted and not written leaves no entry. -/
theorem afterDeaths_unwritten {d : Delivery} (hc : c.answer = .ok d) (hd : d ≠ .written) :
    h.afterDeaths [c] = h.report c.message := by
  simp [afterDeaths, report, DeathCall.isWritten, hc, hd, Except.isOk, Except.toBool]

theorem logs_afterDeaths : h.Logs calls (h.afterDeaths calls) where
  sent_eq := by rw [afterDeaths, AuditLog.entries_append, if_pos rfl]
  others_eq := fun key hkey => by
    rw [afterDeaths, AuditLog.entries_append, if_neg hkey.symm, List.append_nil]
  reports_eq := rfl
  rest_eq := rfl

end Hub

namespace Session

/-! ## One call -/

/-- A death is sent. -/
def callDeath (s : Session) (c : DeathCall) : Except SendError Unit × Session :=
  ({ s with fate := c.fate } : Session).sendDeath c.notice

/-- **All that a call does.** -/
theorem callDeath_eq (s : Session) (c : DeathCall) :
    s.callDeath c = (c.answer.bind Delivery.wait, ⟨s.hub.afterDeaths [c], c.fate⟩) := by
  obtain ⟨notice, answer⟩ := c
  cases answer with
  | error e =>
    rw [s.hub.afterDeaths_refused (c := ⟨notice, .error e⟩) rfl]
    rfl
  | ok d =>
    by_cases hd : d = .written
    · rw [hd]
      rfl
    · rw [s.hub.afterDeaths_unwritten (c := ⟨notice, .ok d⟩) rfl hd]
      cases d with
      | written => exact absurd rfl hd
      | failed e => rfl
      | dropped => rfl

theorem returns_callDeath (s : Session) (c : DeathCall) : c.Returns (s.callDeath c).1 := by
  rw [callDeath_eq]
  obtain ⟨notice, answer⟩ := c
  rcases answer with e | (_ | e | _)
  · exact ⟨iff_of_false nofun nofun, fun _ h => by cases h; rfl, nofun, nofun⟩
  · exact ⟨iff_of_true rfl rfl, nofun, nofun, nofun⟩
  · exact ⟨iff_of_false nofun nofun, nofun, fun _ h => by cases h; rfl, nofun⟩
  · exact ⟨iff_of_false nofun nofun, nofun, nofun, fun _ => ⟨_, rfl⟩⟩

/-! ## Calls in a row -/

/-- Deaths are sent in a row. -/
def callDeaths (s : Session) : List DeathCall → List (Except SendError Unit) × Session
  | [] => ([], s)
  | c :: calls =>
    let (result, s) := s.callDeath c
    let (results, s) := s.callDeaths calls
    (result :: results, s)

theorem callDeaths_cons (s : Session) (c : DeathCall) (calls : List DeathCall) :
    s.callDeaths (c :: calls) =
      ((s.callDeath c).1 :: ((s.callDeath c).2.callDeaths calls).1,
        ((s.callDeath c).2.callDeaths calls).2) := rfl

/-- **All that calls in a row do** to the hub. -/
theorem hub_callDeaths (s : Session) (calls : List DeathCall) :
    (s.callDeaths calls).2.hub = s.hub.afterDeaths calls := by
  induction calls generalizing s with
  | nil => exact s.hub.afterDeaths_nil.symm
  | cons c calls ih =>
    rw [callDeaths_cons, ih, callDeath_eq]
    exact s.hub.afterDeaths_append [c] calls

theorem returns_callDeaths (s : Session) (calls : List DeathCall) :
    List.Forall₂ DeathCall.Returns calls (s.callDeaths calls).1 := by
  induction calls generalizing s with
  | nil => exact .nil
  | cons c calls ih =>
    rw [callDeaths_cons]
    exact .cons (s.returns_callDeath c) (ih _)

/-- **A death is logged as sent if and only if it was written**, whatever becomes of the messages
before and behind it: each call gives what the sender's answer says, and nothing but the log of
deaths sent and the messages accepted changes. -/
theorem deaths_sent_iff_written (s : Session) (calls : List DeathCall) :
    List.Forall₂ DeathCall.Returns calls (s.callDeaths calls).1 ∧
      s.hub.Logs calls (s.callDeaths calls).2.hub := by
  refine ⟨s.returns_callDeaths calls, ?_⟩
  rw [hub_callDeaths]
  exact s.hub.logs_afterDeaths calls

end Session

end Multiworld
