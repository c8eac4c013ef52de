import Multiworld.Proofs.Client.Outbox

/-!
# The end of a client

Once a client was asked to disconnect, or has heard that its connection is over, or has failed
to write a text, it accepts nothing any more, whatever happens to it afterwards. What it refuses
leaves it as it is: the texts that wait, those on the wire, the tags, and the logs. Only the
first call to disconnect has anything to do, and another one has nothing to do even while the
first is underway.

## Main definitions

* `Client.EndedBy`: the actions that end a client
* `Client.Refuses`: a client that accepts nothing
* `Client.depart`: a call to disconnect, while others may be underway
* `Client.Onward`: a client that went on, and has not come back

## Main results

* `Client.refuses_of_shut`: what a client that is shut answers
* `Client.kept_onward`, `Client.onward_after`: no action opens a client again
* `Client.depart_eq_disconnect`: calls to disconnect that do not overlap
* `Client.departed_after`: a client that has ended stays as it is
-/

namespace Multiworld

/-- Whether an action is a call to disconnect, or its beginning. -/
def ClientAction.disconnects : ClientAction → Bool
  | .shut => true
  | .disconnect => true
  | _ => false

namespace Client

variable {c d e : Client}

/-! ## Requests to a client that is shut -/

/-- Why a client that is shut refuses a request. -/
def refusal : SendError := .connectionClosed "connection is not open"

/-- A client that refuses whatever it would have to send, and is left as it is by that. -/
structure Refuses (c : Client) : Prop where
  send : ∀ packets, c.send packets = (.error refusal, c)
  sendAndWait : ∀ packets, c.sendAndWait packets = (.error refusal, c)
  say : ∀ text, c.say text = (.error refusal, c)
  sendBounce : ∀ tag data, c.sendBounce tag data = (.error refusal, c)
  bounce : ∀ tag data, c.bounce tag data = (.error refusal, c)
  sendDeath : ∀ d, c.sendDeath d = (.error refusal, c)
  /-- There is nothing to send if the tag of deaths is there already. -/
  enableDeaths : c.enableDeaths =
    (if DeathNotice.tag ∈ c.hub.tags then .ok false else .error refusal, c)
  /-- There is nothing to send if the tag of deaths is not there. -/
  disableDeaths : c.disableDeaths =
    (if DeathNotice.tag ∈ c.hub.tags then .error refusal else .ok false, c)

theorem send_of_shut (h : c.isOpen = false) (packets : List Packet) :
    c.send packets = (.error refusal, c) := by
  unfold send
  rw [h]
  rfl

theorem sendAndWait_of_shut (h : c.isOpen = false) (packets : List Packet) :
    c.sendAndWait packets = (.error refusal, c) := by
  rw [sendAndWait, send_of_shut h]

theorem changeTagsAndWait_of_shut (h : c.isOpen = false) (tags : List String) :
    c.changeTagsAndWait (some tags) = (.error refusal, c) := by
  rw [changeTagsAndWait, changeTags, send_of_shut h]

/-- **A client that is shut refuses everything.** -/
theorem refuses_of_shut (h : c.isOpen = false) : c.Refuses where
  send := send_of_shut h
  sendAndWait := sendAndWait_of_shut h
  say text := sendAndWait_of_shut h [.say text]
  sendBounce tag data := send_of_shut h [.bounce (.tagged tag data)]
  bounce tag data := sendAndWait_of_shut h [.bounce (.tagged tag data)]
  sendDeath d := by
    -- A death that is not sent is not logged either.
    rw [sendDeath, bounce, sendAndWait_of_shut h]
  enableDeaths := by
    rw [enableDeaths, Hub.tagsWithDeath?]
    split
    · rfl
    · exact changeTagsAndWait_of_shut h _
  disableDeaths := by
    rw [disableDeaths, Hub.tagsWithoutDeath?]
    split
    · exact changeTagsAndWait_of_shut h _
    · rfl

/-! ## No way back -/

/-- A client that went on from another, and has not come back: it is not open again, and has
no writer again. -/
structure Onward (c d : Client) : Prop where
  shut : c.isOpen = false → d.isOpen = false
  joined : c.writer = .joined → d.writer = .joined

theorem Onward.refl (c : Client) : Onward c c := ⟨id, id⟩

theorem Onward.trans (h : Onward c d) (h' : Onward d e) : Onward c e :=
  ⟨h'.shut ∘ h.shut, h'.joined ∘ h.joined⟩

/-- What is no matter of the door and of the writer may change. -/
theorem onward_of_eq (hopen : d.isOpen = c.isOpen) (hwriter : d.writer = c.writer) :
    Onward c d :=
  ⟨hopen.trans, hwriter.trans⟩

theorem onward_writeNext (c : Client) : Onward c c.writeNext := by
  rcases c.writeNext_cases with ⟨-, hc⟩ | ⟨text, rest, hwriter, -, ⟨-, hc⟩ | ⟨e, -, hc⟩⟩
  · rw [hc]
    exact .refl c
  · rw [hc]
    exact onward_of_eq rfl rfl
  · -- Only a writer that works gives up, and it shuts the client.
    rw [hc]
    refine ⟨fun _ => rfl, ?_⟩
    intro hjoined
    rw [hwriter] at hjoined
    cases hjoined

theorem onward_receive (c : Client) (item : Incoming) : Onward c (c.receive item) := by
  obtain ⟨hub, isOpen, hc, hopen⟩ := c.receive_eq item
  rw [hc]
  refine ⟨?_, id⟩
  intro hshut
  -- Nothing that comes in opens a client.
  cases isOpen with
  | false => rfl
  | true =>
    rw [(hopen rfl).1] at hshut
    cases hshut

theorem onward_shut (c : Client) : Onward c c.shut := ⟨fun _ => rfl, id⟩

theorem finish_isOpen (c : Client) : c.finish.isOpen = c.isOpen := by
  obtain ⟨connection, closing, -, hc⟩ := c.finish_eq
  rw [hc]

theorem finish_writer (c : Client) : c.finish.writer = .joined := by
  obtain ⟨connection, closing, -, hc⟩ := c.finish_eq
  rw [hc]

/-- Disconnecting leaves a client shut, and its writer has ended. -/
theorem disconnect_departs (c : Client) :
    c.disconnect.2.isOpen = false ∧ c.disconnect.2.writer = .joined := by
  -- The writer has ended before, or it is waited for now.
  rcases c.disconnect_cases with ⟨hwriter, hc⟩ | hc
  · rw [hc]
    exact ⟨rfl, hwriter⟩
  · rw [hc, finish_isOpen, finish_writer]
    exact ⟨flush_isOpen rfl, rfl⟩

theorem onward_finish (c : Client) : Onward c c.finish :=
  ⟨c.finish_isOpen.trans, fun _ => c.finish_writer⟩

/-- **No action opens a client again.** -/
theorem kept_onward (c : Client) : Ledger.Kept fun d _ => Onward c d where
  setHub h _ := h.trans (onward_of_eq rfl rfl)
  shut h := h.trans (onward_shut _)
  enqueue h _ _ _ := h.trans (onward_of_eq rfl rfl)
  writeNext h := h.trans (onward_writeNext _)
  receive h item := h.trans (onward_receive _ item)
  finish h _ _ := h.trans (onward_finish _)

theorem onward_after (s : Ledger) (actions : List ClientAction) :
    Onward s.client (actions.foldl Ledger.act s).client :=
  (kept_onward s.client).foldl (.refl s.client) actions

/-! ## The end -/

/-- The actions that end a client: a call to disconnect, the news that the connection is over,
and a step of the writer that fails. -/
def EndedBy (c : Client) : ClientAction → Prop
  | .shut => True
  | .disconnect => True
  | .write => c.writer = .running ∧ ∃ text rest e, c.queue = text :: rest ∧
    (c.connection.step (.send text)).1.result = .error e
  | .receive item => .closed ∈ (c.connection.step (.receive item)).1.events
  | _ => False

theorem disconnect_of_joined (h : c.writer = .joined) : c.disconnect = (.ok (), c.shut) := by
  unfold Client.disconnect
  split
  · rfl
  · next hworks => exact absurd h hworks

/-- A call to disconnect. If an earlier one has taken the writer, to wait for its end, it need
not have ended yet. -/
def depart (taken : Bool) (c : Client) : Except ClientError Unit × Client :=
  if taken then (.ok (), c.shut) else c.disconnect

/-- While no other call is underway, the writer is taken exactly if it has ended. -/
theorem depart_eq_disconnect {taken : Bool} (h : taken = true ↔ c.writer = .joined) :
    c.depart taken = c.disconnect := by
  cases taken with
  | false => rfl
  | true => exact (disconnect_of_joined (h.mp rfl)).symm

/-- A call begins by shutting the client, and goes on as it would have without that. -/
theorem disconnect_shut (c : Client) : c.shut.disconnect = c.disconnect := rfl

theorem isOpen_of_endedBy {s : Ledger} {a : ClientAction} (h : s.client.EndedBy a) :
    (s.act a).client.isOpen = false := by
  cases a with
  | shut => rfl
  | disconnect => exact (disconnect_departs s.client).1
  | write =>
    obtain ⟨hwriter, text, rest, e, hqueue, he⟩ := h
    rw [Ledger.act, writeNext_of_error hwriter hqueue he]
  | receive item =>
    obtain ⟨hub, isOpen, hc, hopen⟩ := s.client.receive_eq item
    rw [Ledger.act, hc]
    cases isOpen with
    | false => rfl
    | true => exact absurd h (hopen rfl).2
  | _ => exact h.elim

theorem shut_eq_self (h : c.isOpen = false) : c.shut = c := by
  unfold Client.shut
  rw [← h]

/-- Once a call to disconnect has come to its end, the writer has ended for good. -/
theorem joined_after (c : Client) {actions : List ClientAction} (h : .disconnect ∈ actions) :
    (Ledger.after c actions).client.writer = .joined := by
  obtain ⟨before, behind, rfl⟩ := List.append_of_mem h
  rw [Ledger.after, List.foldl_append, List.foldl_cons]
  apply (onward_after _ behind).joined
  exact (disconnect_departs _).2

/-- **A client that has ended stays as it is.** Once a call to disconnect has begun, or the
client has heard that the connection is over, or its writer has failed, it is not open again,
whatever comes and whatever becomes of later writes. It refuses what it is asked to send, and
that changes nothing. A further call to disconnect changes nothing either, whether the first one
is underway or is over. -/
theorem departed_after (c : Client) (before : List ClientAction) {a : ClientAction}
    (ha : (Ledger.after c before).client.EndedBy a) (more : List ClientAction) :
    let past := before ++ a :: more
    let d := (Ledger.after c past).client
    d.isOpen = false ∧ d.Refuses ∧
      (past.any (·.disconnects) = true →
        d.depart (past.any (·.disconnects)) = (.ok (), d)) ∧
      (.disconnect ∈ past → d.disconnect = (.ok (), d)) := by
  intro past d
  -- The action that ends the client shuts it, and whatever comes behind goes on from there.
  have hopen : d.isOpen = false := by
    unfold d past
    rw [Ledger.after, List.foldl_append, List.foldl_cons]
    apply (onward_after _ more).shut
    exact isOpen_of_endedBy ha
  refine ⟨hopen, refuses_of_shut hopen, ?_, ?_⟩
  · intro hasked
    rw [hasked, depart, if_pos rfl, shut_eq_self hopen]
  · intro hasked
    have hjoined : d.writer = .joined := joined_after c hasked
    rw [disconnect_of_joined hjoined, shut_eq_self hopen]

/-- The server closes, and then the client is asked to disconnect. -/
theorem departed_after_peerClose :
    ∃ c d, start {} {} none = .ok c ∧
      (Ledger.after c [.hand (.say "a")]).client.EndedBy (.receive .close) ∧
      d = (Ledger.after c [.hand (.say "a"), .receive .close, .call .enableDeaths,
        .disconnect, .handLate []]).client ∧
      d.isOpen = false ∧ d.Refuses ∧ d.depart true = (.ok (), d) ∧ d.disconnect = (.ok (), d) := by
  obtain ⟨c, hc, hends⟩ : ∃ c, start {} {} none = .ok c ∧
      (Ledger.after c [.hand (.say "a")]).client.EndedBy (.receive .close) :=
    ⟨_, rfl, List.mem_cons_self⟩
  obtain ⟨hopen, hrefuses, hagain, honce⟩ :=
    departed_after c [.hand (.say "a")] hends [.call .enableDeaths, .disconnect, .handLate []]
  exact ⟨c, _, hc, hends, rfl, hopen, hrefuses, hagain rfl, honce (by simp)⟩

/-- Where neither the text that waits nor the closing frame can be written, both errors are told. -/
example :
    let broken : Cause := { text := "broken pipe" }
    ∃ c, start {} {} none [some { cause := broken }, some { cause := broken }] = .ok c ∧
      (c.hand (.say "a")).2.disconnect.1 =
        .error (.link (.aggregate [.sendFailed broken, .sendFailed broken])) :=
  ⟨_, rfl, rfl⟩

end Client

end Multiworld
