import Multiworld.Link.Connection
import Multiworld.Proofs.Frame.Assembler

/-!
# What is told of what comes in

A connection that was opened reads what comes in until the peer closes, reading fails, or there
is no more to read. Of each message before that it tells one thing, the text or what is wrong
with it; of the end it tells once, and nothing behind the end is looked at. A message leaves the
connection as it was, so one that is refused costs nothing else. What this side does meanwhile
makes no difference.

## Main definitions

* `Incoming.octets?`, `Incoming.isLast`: messages, and what ends a connection
* `Incoming.messages`, `Incoming.farewell`: what is read before the end, and what is told of it
* `LinkEvent.Reports`: the right event for a message
* `Connection.IsReader`: a connection that reads, between two messages

## Main results

* `Connection.receive_message`: a message is told of, and leaves the connection as it was
* `Connection.IsReader.step_cases`: what one step tells of what it takes
* `Connection.IsReader.events_run`: what is told along a run
* `Connection.IsReader.events_insert`: what one message more adds
* `Connection.reads_along`: the same from the opening on, and with one more message
-/

namespace Multiworld

/-! ## What comes in -/

namespace Incoming

/-- The octets of a message. -/
def octets? : Incoming → Option (List UInt8)
  | .text s => some (Text.encode s)
  | .binary octets => some octets
  | _ => none

/-- Whether nothing is read any more after it. -/
def isLast : Incoming → Bool
  | .close => true
  | .failure _ => true
  | .gone => true
  | .ended => true
  | _ => false

/-- The messages before the end. -/
def messages (items : List Incoming) : List (List UInt8) :=
  (items.takeWhile fun item => !item.isLast).filterMap octets?

/-- What is told of the end: the failure if it is one, and that it is over. -/
def lastWords : Incoming → List LinkEvent
  | .failure cause => [.error (.receiveFailed cause), .closed]
  | _ => [.closed]

/-- What is told of the end, if it comes. -/
def farewell (items : List Incoming) : List LinkEvent :=
  ((items.find? isLast).map lastWords).getD []

variable {item : Incoming} (items : List Incoming)

theorem messages_of_last (h : item.isLast = true) : messages (item :: items) = [] := by
  rw [messages, List.takeWhile_cons_of_neg (by simp [h]), List.filterMap_nil]

theorem messages_of_not_last (h : item.isLast = false) :
    messages (item :: items) = item.octets?.toList ++ messages items := by
  rw [messages, List.takeWhile_cons_of_pos (by simp [h]), List.filterMap_cons]
  cases item.octets? <;> rfl

theorem farewell_of_last (h : item.isLast = true) : farewell (item :: items) = item.lastWords := by
  rw [farewell, List.find?_cons_of_pos h]
  rfl

theorem farewell_of_not_last (h : item.isLast = false) :
    farewell (item :: items) = farewell items := by
  rw [farewell, List.find?_cons_of_neg (by simp [h]), farewell]

end Incoming

/-- **The right event for a message** under a limit: that it is too long, or else its text, or
else that it is none. -/
def LinkEvent.Reports (max : Nat) (octets : List UInt8) : LinkEvent → Prop
  | .error (.messageTooLarge size limit) => max < octets.length ∧ size = octets.length ∧ limit = max
  | .message text => octets.length ≤ max ∧ Text.encode text = octets
  | .error (.invalidUtf8 fault) => octets.length ≤ max ∧ (∀ text, Text.encode text ≠ octets) ∧
    Text.decode octets = .error fault
  | _ => False

/-- What an action takes from the peer. -/
def LinkAction.item? : LinkAction → Option Incoming
  | .receive item => some item
  | _ => none

namespace Connection

/-! ## One step -/

/-- A connection that reads, and is between two messages. -/
structure IsReader (max : Nat) (c : Connection) : Prop where
  isReading : c.isReading = true
  assembler : c.assembler = .having max []

variable {max : Nat} {c : Connection}

/-- **A whole message is told of**, and leaves the connection as it was. -/
theorem receive_message (h : c.assembler = .having max []) (octets : List UInt8) :
    ∃ e : LinkEvent, e.Reports max octets ∧ c.receiveMessage octets = ({ events := [e] }, c) := by
  obtain ⟨chunk, assembler, state⟩ := c
  obtain rfl : assembler = .having max [] := h
  have hsize : Pieces.size ([] ++ [⟨octets, true⟩]) = octets.length := Pieces.size_singleton _
  by_cases hlt : max < octets.length
  · refine ⟨.error (.messageTooLarge octets.length max), ⟨hlt, rfl, rfl⟩, ?_⟩
    have hcross : max < Pieces.size ([] ++ [⟨octets, true⟩]) := hsize ▸ hlt
    have hpush := Assembler.push_crossing (by exact Nat.zero_le max) hcross
    rw [hsize] at hpush
    simp only [receiveMessage, hpush]
    rfl
  · have hle : octets.length ≤ max := Nat.not_lt.mp hlt
    have hfits : Pieces.size ([] ++ [⟨octets, true⟩]) ≤ max := hsize ▸ hle
    have hpush := Assembler.push_last hfits rfl
    rw [List.nil_append, Pieces.octets_singleton] at hpush
    cases hdecode : Text.decode octets with
    | ok text =>
      refine ⟨.message text, ⟨hle, Text.decode_eq_ok_iff.mp hdecode⟩, ?_⟩
      simp only [receiveMessage, hpush, hdecode]
      rfl
    | error fault =>
      have hno : ∀ text, Text.encode text ≠ octets := by
        intro text htext
        cases hdecode.symm.trans (Text.decode_eq_ok_iff.mpr htext)
      refine ⟨.error (.invalidUtf8 fault), ⟨hle, hno, hdecode⟩, ?_⟩
      simp only [receiveMessage, hpush, hdecode]
      rfl

theorem IsReader.step_message (h : c.IsReader max) {item : Incoming} {octets : List UInt8}
    (hitem : item.octets? = some octets) :
    ∃ e : LinkEvent, e.Reports max octets ∧ c.step (.receive item) = ({ events := [e] }, c) := by
  obtain ⟨e, he, hmessage⟩ := receive_message h.assembler octets
  refine ⟨e, he, ?_⟩
  rw [step, if_pos h.isReading]
  cases item with
  | text s =>
    obtain rfl := Option.some.inj hitem
    exact hmessage
  | binary octets =>
    obtain rfl := Option.some.inj hitem
    exact hmessage
  | _ => cases hitem

theorem IsReader.step_last (h : c.IsReader max) {item : Incoming} (hitem : item.isLast = true) :
    (c.step (.receive item)).1.events = item.lastWords ∧
      (c.step (.receive item)).2.state = .closed := by
  rw [step, if_pos h.isReading]
  cases item with
  | close => exact ⟨rfl, rfl⟩
  | failure cause => exact ⟨rfl, rfl⟩
  | gone => exact ⟨rfl, rfl⟩
  | ended => exact ⟨rfl, rfl⟩
  | _ => cases hitem

/-- What is neither a message nor the end is passed over. -/
theorem IsReader.step_other (h : c.IsReader max) {item : Incoming} (hlast : item.isLast = false)
    (hitem : item.octets? = none) : c.step (.receive item) = ({}, c) := by
  rw [step, if_pos h.isReading]
  cases item with
  | ping => rfl
  | pong => rfl
  | text s => cases hitem
  | binary octets => cases hitem
  | _ => cases hlast

/-- What this side does is not told, and does not stop the reading. -/
theorem IsReader.step_own (h : c.IsReader max) {a : LinkAction} (ha : a.item? = none) :
    (c.step a).1.events = [] ∧ (c.step a).2.IsReader max := by
  cases a with
  | receive item => cases ha
  | established =>
    rw [step]
    split
    · next hs =>
      -- A connection that is being dialled does not read yet.
      have hreading := h.isReading
      simp [Connection.isReading, hs] at hreading
    · exact ⟨rfl, h⟩
  | send text =>
    rw [step]
    split
    · exact ⟨rfl, h.isReading, h.assembler⟩
    · exact ⟨rfl, h⟩
  | close =>
    rw [step]
    split
    · exact ⟨rfl, rfl, h.assembler⟩
    · exact ⟨rfl, h⟩

/-- **All that a step of a connection that reads can do**, and what it tells: it takes nothing
from the peer, or a message, or something that is passed over, or the end. -/
theorem IsReader.step_cases (h : c.IsReader max) (a : LinkAction) :
    (a.item? = none ∧ (c.step a).1.events = [] ∧ (c.step a).2.IsReader max) ∨
    ∃ item, a.item? = some item ∧
      ((item.isLast = false ∧ ∃ octets e, item.octets? = some octets ∧
          LinkEvent.Reports max octets e ∧ c.step a = ({ events := [e] }, c)) ∨
        (item.isLast = false ∧ item.octets? = none ∧ c.step a = ({}, c)) ∨
        (item.isLast = true ∧ (c.step a).1.events = item.lastWords ∧
          (c.step a).2.state = .closed)) := by
  cases a with
  | receive item =>
    refine .inr ⟨item, rfl, ?_⟩
    by_cases hlast : item.isLast = true
    · exact .inr (.inr ⟨hlast, h.step_last hlast⟩)
    · have hgoes : item.isLast = false := Bool.eq_false_iff.mpr hlast
      cases hoctets : item.octets? with
      | none => exact .inr (.inl ⟨hgoes, rfl, h.step_other hgoes hoctets⟩)
      | some octets =>
        obtain ⟨e, he, hstep⟩ := h.step_message hoctets
        exact .inl ⟨hgoes, octets, e, rfl, he, hstep⟩
  | _ => exact .inl ⟨rfl, h.step_own rfl⟩

/-- Once it is over, nothing that comes in is looked at. -/
theorem step_receive_of_closed (h : c.state = .closed) (item : Incoming) :
    c.step (.receive item) = ({}, c) := by
  obtain ⟨chunk, assembler, state⟩ := c
  obtain rfl : state = .closed := h
  rfl

/-- Once it is over, a connection tells nothing and stays as it is. -/
theorem step_of_closed (h : c.state = .closed) (a : LinkAction) :
    (c.step a).1.events = [] ∧ (c.step a).2 = c := by
  obtain ⟨chunk, assembler, state⟩ := c
  obtain rfl : state = .closed := h
  cases a with
  | _ => exact ⟨rfl, rfl⟩

/-! ## Runs -/

/-- What is told along some steps. -/
def events (c : Connection) (actions : List LinkAction) : List LinkEvent :=
  (c.run actions).1.flatMap (·.events)

/-- A connection after some steps. -/
def after (c : Connection) (actions : List LinkAction) : Connection := (c.run actions).2

theorem events_cons (c : Connection) (a : LinkAction) (actions : List LinkAction) :
    c.events (a :: actions) = (c.step a).1.events ++ (c.step a).2.events actions :=
  List.flatMap_cons

theorem after_cons (c : Connection) (a : LinkAction) (actions : List LinkAction) :
    c.after (a :: actions) = (c.step a).2.after actions := rfl

theorem events_append (c : Connection) (first more : List LinkAction) :
    c.events (first ++ more) = c.events first ++ (c.after first).events more := by
  induction first generalizing c with
  | nil => rfl
  | cons a first ih =>
    rw [List.cons_append, events_cons, events_cons, ih, List.append_assoc]
    rfl

theorem after_append (c : Connection) (first more : List LinkAction) :
    c.after (first ++ more) = (c.after first).after more := by
  induction first generalizing c with
  | nil => rfl
  | cons a first ih => exact ih (c.step a).2

theorem events_of_closed (h : c.state = .closed) (actions : List LinkAction) :
    c.events actions = [] := by
  induction actions with
  | nil => rfl
  | cons a actions ih =>
    obtain ⟨hevents, hstays⟩ := step_of_closed h a
    rw [events_cons, hevents, hstays, ih]
    rfl

theorem after_of_closed (h : c.state = .closed) (actions : List LinkAction) :
    c.after actions = c := by
  induction actions with
  | nil => rfl
  | cons a actions ih => rw [after_cons, (step_of_closed h a).2, ih]

/-- **What is told along a run** of a connection that reads: one thing of each message, in
order, and the end if it comes. -/
theorem IsReader.events_run (h : c.IsReader max) (actions : List LinkAction) :
    ∃ told, List.Forall₂ (LinkEvent.Reports max)
        (Incoming.messages (actions.filterMap LinkAction.item?)) told ∧
      c.events actions = told ++ Incoming.farewell (actions.filterMap LinkAction.item?) := by
  induction actions generalizing c with
  | nil => exact ⟨[], .nil, rfl⟩
  | cons a actions ih =>
    rw [events_cons]
    rcases h.step_cases a with ⟨ha, hevents, hreader⟩ | ⟨item, ha, hitem⟩
    · obtain ⟨told, htold, hrest⟩ := ih hreader
      rw [List.filterMap_cons_none ha, hevents]
      exact ⟨told, htold, hrest⟩
    rw [List.filterMap_cons_some ha]
    rcases hitem with ⟨hgoes, octets, e, hoctets, he, hstep⟩ | ⟨hgoes, hoctets, hstep⟩ |
      ⟨hlast, hevents, hclosed⟩
    · obtain ⟨told, htold, hrest⟩ := ih h
      rw [Incoming.messages_of_not_last _ hgoes, Incoming.farewell_of_not_last _ hgoes, hoctets,
        hstep, hrest]
      exact ⟨e :: told, .cons he htold, rfl⟩
    · rw [Incoming.messages_of_not_last _ hgoes, Incoming.farewell_of_not_last _ hgoes, hoctets,
        hstep]
      exact ih h
    · -- Behind the end nothing is told any more.
      rw [Incoming.messages_of_last _ hlast, Incoming.farewell_of_last _ hlast, hevents,
        events_of_closed hclosed, List.append_nil]
      exact ⟨[], .nil, rfl⟩

/-- A connection that reads goes on reading until the end comes. -/
theorem IsReader.after_run (h : c.IsReader max) (actions : List LinkAction) :
    if (actions.filterMap LinkAction.item?).any (·.isLast) then (c.after actions).state = .closed
    else (c.after actions).IsReader max := by
  induction actions generalizing c with
  | nil => exact h
  | cons a actions ih =>
    rw [after_cons]
    rcases h.step_cases a with ⟨ha, -, hreader⟩ | ⟨item, ha, hitem⟩
    · rw [List.filterMap_cons_none ha]
      exact ih hreader
    rw [List.filterMap_cons_some ha, List.any_cons]
    rcases hitem with ⟨hgoes, octets, e, -, -, hstep⟩ | ⟨hgoes, -, hstep⟩ | ⟨hlast, -, hclosed⟩
    · rw [hgoes, hstep, Bool.false_or]
      exact ih h
    · rw [hgoes, hstep, Bool.false_or]
      exact ih h
    · rw [hlast, Bool.true_or, if_pos rfl, after_of_closed hclosed]
      exact hclosed

/-- **One message more** is told of, unless it comes behind the end, and changes nothing else:
it leaves the connection as it was. -/
theorem IsReader.events_insert (h : c.IsReader max) (first more : List LinkAction)
    {item : Incoming} {octets : List UInt8} (hitem : item.octets? = some octets) :
    ∃ own : List LinkEvent,
      (if (first.filterMap LinkAction.item?).any (·.isLast) then own = []
        else ∃ e, LinkEvent.Reports max octets e ∧ own = [e]) ∧
      c.events (first ++ .receive item :: more) =
        c.events first ++ own ++ (c.after first).events more ∧
      c.after (first ++ .receive item :: more) = c.after (first ++ more) := by
  have hstep : ∃ own : List LinkEvent,
      (if (first.filterMap LinkAction.item?).any (·.isLast) then own = []
        else ∃ e, LinkEvent.Reports max octets e ∧ own = [e]) ∧
      (c.after first).step (.receive item) = ({ events := own }, c.after first) := by
    have hafter := h.after_run first
    cases hend : (first.filterMap LinkAction.item?).any (·.isLast) with
    | true =>
      rw [hend, if_pos rfl] at hafter
      exact ⟨[], rfl, step_receive_of_closed hafter item⟩
    | false =>
      rw [hend, if_neg Bool.false_ne_true] at hafter
      obtain ⟨e, he, hstep⟩ := hafter.step_message hitem
      exact ⟨[e], ⟨e, he, rfl⟩, hstep⟩
  obtain ⟨own, hown, hstep⟩ := hstep
  refine ⟨own, hown, ?_, ?_⟩
  · rw [events_append, events_cons, hstep, List.append_assoc]
  · rw [after_append, after_append, after_cons, hstep]

/-! ## From the opening on -/

/-- **What comes in is told of.** Behind the opening there is one event for each message before
the end, in order, and the end if it comes, whatever becomes of the writes. One message more,
wherever it comes, adds at most its own event, and leaves the connection as it was. -/
theorem reads_along (chunk : ChunkSize) (max : Nat) (outcomes : List (Option WriteFailure))
    (actions : List LinkAction) :
    let dialled : Connection := { chunk, assembler := { max }, outcomes }
    let items := actions.filterMap LinkAction.item?
    (∃ told, List.Forall₂ (LinkEvent.Reports max) (Incoming.messages items) told ∧
      dialled.events (.established :: actions) = .opened :: told ++ Incoming.farewell items) ∧
    ∀ item octets more, Incoming.octets? item = some octets → ∃ own later,
      (if items.any (·.isLast) then own = [] else ∃ e, LinkEvent.Reports max octets e ∧ own = [e]) ∧
      dialled.events (.established :: (actions ++ more)) =
        dialled.events (.established :: actions) ++ later ∧
      dialled.events (.established :: (actions ++ .receive item :: more)) =
        dialled.events (.established :: actions) ++ own ++ later ∧
      dialled.after (.established :: (actions ++ .receive item :: more)) =
        dialled.after (.established :: (actions ++ more)) := by
  intro dialled items
  have hreader : IsReader max (dialled.step .established).2 := ⟨rfl, rfl⟩
  have hopened (actions : List LinkAction) : dialled.events (.established :: actions) =
      .opened :: (dialled.step .established).2.events actions := events_cons _ _ _
  constructor
  · obtain ⟨told, htold, hrest⟩ := hreader.events_run actions
    refine ⟨told, htold, ?_⟩
    rw [hopened, hrest]
    rfl
  · intro item octets more hitem
    obtain ⟨own, hown, hevents, hafter⟩ := hreader.events_insert actions more hitem
    refine ⟨own, ((dialled.step .established).2.after actions).events more, hown, ?_, ?_, hafter⟩
    · rw [hopened, hopened, events_append]
      rfl
    · rw [hopened, hopened, hevents]
      rfl

/-- A message that is too long, behind one that is no text and before one that is delivered,
where nothing can be written. -/
theorem reads_along_tooLong :
    let dialled : Connection := {
      chunk := ⟨2, by decide⟩
      assembler := { max := 4 }
      outcomes := [some { cause := { text := "broken pipe" } }] }
    let before : List LinkAction :=
      [.receive (.binary [0x68, 0xFF]), .send "hello", .receive .ping]
    let more : List LinkAction := [.receive (.text "hi"), .receive .close, .receive (.text "late")]
    Incoming.octets? (.text "hello") = some (Text.encode "hello") ∧
      ∃ own later, (∃ e, LinkEvent.Reports 4 (Text.encode "hello") e ∧ own = [e]) ∧
        dialled.events (.established :: (before ++ more)) =
          dialled.events (.established :: before) ++ later ∧
        dialled.events (.established :: (before ++ .receive (.text "hello") :: more)) =
          dialled.events (.established :: before) ++ own ++ later ∧
        dialled.after (.established :: (before ++ .receive (.text "hello") :: more)) =
          dialled.after (.established :: (before ++ more)) :=
  ⟨rfl, (reads_along ⟨2, by decide⟩ 4 [some { cause := { text := "broken pipe" } }]
    [.receive (.binary [0x68, 0xFF]), .send "hello", .receive .ping]).2 (.text "hello") _
      [.receive (.text "hi"), .receive .close, .receive (.text "late")] rfl⟩

example :
    ({ chunk := ⟨2, by decide⟩, assembler := { max := 4 } } : Connection).events
      [.established, .receive (.binary [0x68, 0xFF]), .receive (.text "hello"),
        .receive (.text "hi"), .receive .close, .receive (.text "late")] =
    [.opened, .error (.invalidUtf8 ⟨1, some 1⟩), .error (.messageTooLarge 5 4), .message "hi",
      .closed] := by
  cbv

end Connection

end Multiworld
