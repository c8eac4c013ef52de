import Multiworld.Link.Connection
import Multiworld.Proofs.Frame

/-!
# The life of a connection

A connection is dialled, opens, and closes, and never goes back. Its opening is told first,
then messages and errors, and its end is told last, in the step that ends it. Only an open
connection sends and can be closed, and any other one says where it is in its life.

This side may go on while the peer's closing is answered. So the closing is taken apart into
its reading and the end of its answer, between which other actions may come.

A write may fail, and then at most its first frames are out. That changes nothing in the life of
the connection.

## Main definitions

* `LinkState.stage`: how far a connection has come
* `Line`, `Line.step`: a connection whose reader may be answering the peer's closing
* `Turn`: where one step can lead, and what it tells
* `Told`: what is told of a whole life so far
* `Line.SendsIfOpen`, `Line.ClosesIfOpen`: what this side can do

## Main results

* `Connection.turn_step`, `Line.turn_step`: every step is a turn
* `Connection.write_of_clear`, `Connection.step_send_cases`: what becomes of what is written
* `Line.step_receive_close`: closing that is not interrupted
* `Line.told_events`: what is told along a run
* `Line.lives_after`: the life of a connection
-/

namespace Multiworld

/-! ## States and events -/

/-- How far a connection has come in its life. -/
def LinkState.stage (s : LinkState) : Nat := all.idxOf s

/-- Whether a connection has opened and is not over. -/
def LinkState.isAlive (s : LinkState) : Bool := s = .open || s = .closing

/-- Whether an event is a message or an error. -/
def LinkEvent.isNotice : LinkEvent → Bool
  | .message _ => true
  | .error _ => true
  | _ => false

/-- Where one step can lead, and what it tells. -/
inductive Turn : LinkState → List LinkEvent → LinkState → Prop
  | rests (s : LinkState) : Turn s [] s
  | opens : Turn .connecting [.opened] .open
  | tells {s : LinkState} (hs : s.isAlive) {notices : List LinkEvent}
      (h : ∀ e ∈ notices, e.isNotice) : Turn s notices s
  | closes : Turn .open [] .closing
  | ends {s : LinkState} (hs : s.isAlive) {notices : List LinkEvent}
      (h : ∀ e ∈ notices, e.isNotice) : Turn s (notices ++ [.closed]) .closed

/-- What is told of a connection's life so far: its opening first, its end last, and nothing
but messages and errors between them. -/
inductive Told : LinkState → List LinkEvent → Prop
  | connecting : Told .connecting []
  | alive {s : LinkState} (hs : s.isAlive) {notices : List LinkEvent}
      (h : ∀ e ∈ notices, e.isNotice) : Told s (.opened :: notices)
  | closed {notices : List LinkEvent} (h : ∀ e ∈ notices, e.isNotice) :
      Told .closed (.opened :: notices ++ [.closed])

section Turns

variable {s s' : LinkState} {past events : List LinkEvent}

theorem closed_notMem_notices {notices : List LinkEvent} (h : ∀ e ∈ notices, e.isNotice) :
    .closed ∉ notices := by
  intro hclosed
  exact Bool.false_ne_true (h .closed hclosed)

theorem ne_closed_of_isAlive (h : s.isAlive) : s ≠ .closed := by
  rintro rfl
  exact Bool.false_ne_true h

/-- No turn goes back. -/
theorem Turn.stage_le (h : Turn s events s') : s.stage ≤ s'.stage := by
  cases h with
  | rests => exact Nat.le_refl _
  | opens => decide
  | tells => exact Nat.le_refl _
  | closes => decide
  | ends hs h =>
    -- What ends has opened before.
    cases s with
    | disconnected => cases hs
    | connecting => cases hs
    | _ => decide

theorem Turn.ne_connecting (h : Turn s events s') (hs : s ≠ .connecting) : s' ≠ .connecting := by
  cases h with
  | rests => exact hs
  | tells => exact hs
  | _ => nofun

/-- The end is told in the turn that leads to it. -/
theorem Turn.closed_mem_iff (h : Turn s events s') :
    .closed ∈ events ↔ s ≠ .closed ∧ s' = .closed := by
  cases h with
  | rests => exact iff_of_false List.not_mem_nil fun hs => hs.1 hs.2
  | opens => simp
  | tells hs h => exact iff_of_false (closed_notMem_notices h) fun hs => hs.1 hs.2
  | closes => simp
  | ends hs h => exact iff_of_true List.mem_concat_self ⟨ne_closed_of_isAlive hs, rfl⟩

/-- **A turn goes on with what was told.** -/
theorem Told.append (hpast : Told s past) (h : Turn s events s') : Told s' (past ++ events) := by
  cases h with
  | rests =>
    rw [List.append_nil]
    exact hpast
  | opens =>
    cases hpast with
    | connecting => exact .alive rfl (List.forall_mem_nil _)
    | alive hs => cases hs
  | tells hs h =>
    -- Only a connection that is alive tells anything, and its opening was told.
    cases hpast with
    | connecting => cases hs
    | alive _ hnotices => exact .alive hs (List.forall_mem_append.mpr ⟨hnotices, h⟩)
    | closed => cases hs
  | closes =>
    rw [List.append_nil]
    cases hpast with
    | alive _ hnotices => exact .alive rfl hnotices
  | ends hs h =>
    cases hpast with
    | connecting => cases hs
    | alive _ hnotices =>
      rw [← List.append_assoc]
      exact .closed (List.forall_mem_append.mpr ⟨hnotices, h⟩)
    | closed => cases hs

end Turns

/-! ## Steps -/

namespace Connection

variable {c : Connection}

theorem turn_finish (h : c.state.isAlive) (frames : List Frame) {notices : List LinkEvent}
    (hnotices : ∀ e ∈ notices, e.isNotice) :
    Turn c.state (c.finish frames notices).1.events (c.finish frames notices).2.state :=
  .ends h hnotices

/-- A whole message is given back, or there is an error. -/
theorem turn_receiveMessage (h : c.state.isAlive) (octets : List UInt8) :
    Turn c.state (c.receiveMessage octets).1.events (c.receiveMessage octets).2.state := by
  apply Turn.tells h
  intro e he
  unfold receiveMessage at he
  dsimp only at he
  split at he
  · rw [List.mem_singleton.mp he]
    rfl
  · cases he
  · rw [List.mem_singleton.mp he]
    rfl

/-- **Every step of a connection is a turn.** -/
theorem turn_step (c : Connection) (a : LinkAction) :
    Turn c.state (c.step a).1.events (c.step a).2.state := by
  cases a with
  | established =>
    rw [step]
    split
    · next h =>
      rw [h]
      exact .opens
    · exact .rests c.state
  | send text =>
    rw [step]
    split <;> exact .rests c.state
  | close =>
    rw [step]
    split
    · next h =>
      rw [of_decide_eq_true h]
      exact .closes
    · exact .rests c.state
  | receive item =>
    rw [step]
    split
    · next h =>
      cases item with
      | text s => exact turn_receiveMessage h _
      | binary octets => exact turn_receiveMessage h octets
      | ping => exact .rests c.state
      | pong => exact .rests c.state
      | close => exact turn_finish h _ (List.forall_mem_nil _)
      | failure cause => exact turn_finish h [] (List.forall_mem_singleton.mpr rfl)
      | gone => exact turn_finish h [] (List.forall_mem_nil _)
      | ended => exact turn_finish h [] (List.forall_mem_nil _)
    · exact .rests c.state

/-! ### Writes -/

/-- **As long as no write fails**, all frames are out. -/
theorem write_of_clear (h : c.outcomes = []) (frames : List Frame) :
    c.write frames = (⟨frames, none⟩, c) := by
  obtain ⟨chunk, assembler, state, outcomes⟩ := c
  obtain rfl : outcomes = [] := h
  rfl

/-- Nothing is out that was not to be written. -/
theorem frames_write_subset (c : Connection) (frames : List Frame) :
    (c.write frames).1.frames ⊆ frames := by
  unfold write Written.of
  dsimp only
  split
  · exact List.Subset.refl _
  · exact List.take_subset _ _

/-- A closing frame is out, or nothing is. -/
theorem frames_write_close (c : Connection) :
    (c.write [.close]).1.frames = [] ∨ (c.write [.close]).1.frames = [.close] := by
  unfold write Written.of
  dsimp only
  split
  · exact .inr rfl
  · next f _ =>
    rcases f.frames with _ | n
    · exact .inl rfl
    · exact .inr (List.take_of_length_le (Nat.le_add_left 1 n))

/-- What is out of an answer is a closing frame, if anything is. -/
theorem frames_answer (c : Connection) :
    c.answer.1 = [] ∨ c.state.isOpen = true ∧ c.answer.1 = [.close] := by
  unfold answer
  split
  · next h => exact c.frames_write_close.imp_right fun hframes => ⟨h, hframes⟩
  · exact .inl rfl

theorem frames_step_close (c : Connection) :
    (c.step .close).1.frames = [] ∨ (c.step .close).1.frames = [.close] := by
  rw [step]
  split
  · exact c.frames_write_close
  · exact .inl rfl

theorem frames_answer_subset (c : Connection) : c.answer.1 ⊆ [.close] := by
  rcases c.frames_answer with h | ⟨-, h⟩
  · rw [h]
    exact List.nil_subset _
  · rw [h]
    exact List.Subset.refl _

theorem outcomes_answer_suffix (c : Connection) : c.answer.2.outcomes <:+ c.outcomes := by
  unfold answer
  split
  · exact List.tail_suffix _
  · exact List.suffix_refl _

theorem chunk_answer (c : Connection) : c.answer.2.chunk = c.chunk := by
  unfold answer
  split <;> rfl

/-- A step takes what becomes of its own write, and leaves the rest. -/
theorem outcomes_step_suffix (c : Connection) (a : LinkAction) :
    (c.step a).2.outcomes <:+ c.outcomes := by
  cases a with
  | established =>
    rw [step]
    split <;> exact List.suffix_refl _
  | send text =>
    rw [step]
    split
    · exact List.tail_suffix _
    · exact List.suffix_refl _
  | close =>
    rw [step]
    split
    · exact List.tail_suffix _
    · exact List.suffix_refl _
  | receive item =>
    rw [step]
    split
    · cases item with
      | close => exact c.outcomes_answer_suffix
      | _ => exact List.suffix_refl _
    · exact List.suffix_refl _

theorem clear_step (h : c.outcomes = []) (a : LinkAction) : (c.step a).2.outcomes = [] := by
  rw [← List.suffix_nil, ← h]
  exact c.outcomes_step_suffix a

/-- A message whose write succeeds. -/
theorem step_send_of_none (h : c.state.isOpen = true) (hnone : c.outcomes.head?.join = none)
    (text : String) :
    c.step (.send text) = (
      { frames := Frame.ofMessage c.chunk (Text.encode text) },
      { c with outcomes := c.outcomes.tail }) := by
  rw [step, h, if_pos rfl, write, hnone]
  rfl

/-- A message whose write fails: the first of its frames may be out. -/
theorem step_send_of_some (h : c.state.isOpen = true) {f : WriteFailure}
    (hfails : c.outcomes.head?.join = some f) (text : String) :
    c.step (.send text) = (
      { result := .error (.sendFailed f.cause)
        frames := (Frame.ofMessage c.chunk (Text.encode text)).take f.frames },
      { c with outcomes := c.outcomes.tail }) := by
  rw [step, h, if_pos rfl, write, hfails]
  rfl

theorem step_send_of_open (h : c.state.isOpen = true) (hclear : c.outcomes = []) (text : String) :
    c.step (.send text) = ({ frames := Frame.ofMessage c.chunk (Text.encode text) }, c) := by
  rw [step, h, if_pos rfl, write_of_clear hclear]
  rfl

theorem step_send_of_over (h : c.state.isOpen = false) (text : String) :
    c.step (.send text) = ({ result := .error (.notOpen c.state) }, c) := by
  rw [step, h, if_neg Bool.false_ne_true]

/-- **All that sending can do**: the whole message is out, or there is an error and at most its
first frames are. -/
theorem step_send_cases (c : Connection) (text : String) :
    ((c.step (.send text)).1.result = .ok () ∧
        (c.step (.send text)).1.frames = Frame.ofMessage c.chunk (Text.encode text)) ∨
      ∃ e n, (c.step (.send text)).1.result = .error e ∧
        (c.step (.send text)).1.frames = (Frame.ofMessage c.chunk (Text.encode text)).take n := by
  cases hopen : c.state.isOpen with
  | false =>
    rw [step_send_of_over hopen]
    exact .inr ⟨_, 0, rfl, List.take_zero.symm⟩
  | true =>
    cases hwrite : c.outcomes.head?.join with
    | none =>
      rw [step_send_of_none hopen hwrite]
      exact .inl ⟨rfl, rfl⟩
    | some f =>
      rw [step_send_of_some hopen hwrite]
      exact .inr ⟨_, f.frames, rfl, rfl⟩

theorem step_close_of_open (h : c.state.isOpen = true) (hclear : c.outcomes = []) :
    c.step .close = ({ frames := [.close] }, { c with state := .closing }) := by
  rw [step, h, if_pos rfl, write_of_clear hclear]
  rfl

theorem step_close_of_over (h : c.state.isOpen = false) :
    c.step .close = ({ result := .error (.notOpen c.state) }, c) := by
  rw [step, h, if_neg Bool.false_ne_true]

end Connection

/-! ## Lines -/

/-- A connection whose reader may be busy with the answer to the peer's closing. -/
inductive Line where
  /-- What comes in is taken. -/
  | reading (c : Connection)
  /-- The peer's closing is being answered, and nothing is read any more. -/
  | answering (chunk : ChunkSize) (assembler : Assembler) (outcomes : List (Option WriteFailure))

/-- What happens on a line. -/
inductive LineAction where
  | act (a : LinkAction)
  /-- The peer's closing is read, and an answer begins if one is due. -/
  | answer
  /-- The answer is out. -/
  | answered

namespace Line

/-- The connection of a line. -/
def connection : Line → Connection
  | reading c => c
  | answering chunk assembler outcomes => { chunk, assembler, state := .closing, outcomes }

/-- Where a line is in its life. -/
def state (l : Line) : LinkState := l.connection.state

/-- One step. -/
def step : Line → LineAction → LinkOutput × Line
  | reading c, .act a => ((c.step a).1, reading (c.step a).2)
  | reading c, .answer =>
    if c.isReading then
      let (frames, c) := c.answer
      ({ frames }, answering c.chunk c.assembler c.outcomes)
    else ({}, reading c)
  | reading c, .answered => ({}, reading c)
  | l@(answering ..), .act (.receive _) => ({}, l)
  | l@(answering ..), .act a =>
    let (out, c) := l.connection.step a
    (out, answering c.chunk c.assembler c.outcomes)
  | l@(answering ..), .answer => ({}, l)
  | l@(answering ..), .answered =>
    let (out, c) := l.connection.finish [] []
    (out, reading c)

/-- A line after some steps. -/
def after (l : Line) (actions : List LineAction) : Line := actions.foldl (fun l a => (l.step a).2) l

/-- What is told along some steps. -/
def events : Line → List LineAction → List LinkEvent
  | _, [] => []
  | l, a :: rest => (l.step a).1.events ++ events (l.step a).2 rest

/-- The line of a connection that is being dialled. -/
def dialled (chunk : ChunkSize) (max : Nat) (outcomes : List (Option WriteFailure) := []) : Line :=
  reading { chunk, assembler := { max }, outcomes }

variable {l : Line}

/-! ### Lines and connections -/

/-- **If the peer's closing is answered without interruption**, the two steps are the one step
of the connection. -/
theorem step_receive_close (c : Connection) :
    let (out, l) := (reading c).step .answer
    let (out', l') := l.step .answered
    (reading c).step (.act (.receive .close)) =
      ({ frames := out.frames ++ out'.frames, events := out.events ++ out'.events }, l') := by
  cases h : c.isReading with
  | false => simp [step, Connection.step, h]
  | true => simp [step, Connection.step, h, Connection.receive, Connection.finish, connection]

/-- If nothing is interrupted, a line goes through the steps of its connection. -/
theorem run_reading (c : Connection) (actions : List LinkAction) :
    (reading c).after (actions.map .act) = reading (c.run actions).2 ∧
      (reading c).events (actions.map .act) = (c.run actions).1.flatMap (·.events) := by
  induction actions generalizing c with
  | nil => exact ⟨rfl, rfl⟩
  | cons a actions ih =>
    obtain ⟨hafter, hevents⟩ := ih (c.step a).2
    constructor
    · exact hafter
    · exact congrArg ((c.step a).1.events ++ ·) hevents

/-! ### Runs -/

/-- **Every step of a line is a turn.** -/
theorem turn_step (l : Line) (a : LineAction) :
    Turn l.state (l.step a).1.events (l.step a).2.state := by
  cases l with
  | reading c =>
    cases a with
    | act a => exact c.turn_step a
    | answer =>
      rw [step]
      split
      · next h =>
        rcases Bool.or_eq_true_iff.mp h with ho | hc
        · rw [state, connection, of_decide_eq_true ho]
          exact .closes
        · rw [state, connection, of_decide_eq_true hc]
          exact .rests .closing
      · exact .rests c.state
    | answered => exact .rests c.state
  | answering =>
    -- This side finds the line closing, and can do nothing about it.
    cases a with
    | act a => cases a <;> exact .rests .closing
    | answer => exact .rests .closing
    | answered => exact .ends rfl (List.forall_mem_nil _)

theorem stage_le_after (l : Line) (actions : List LineAction) :
    l.state.stage ≤ (l.after actions).state.stage := by
  induction actions generalizing l with
  | nil => exact Nat.le_refl _
  | cons a actions ih => exact Nat.le_trans (l.turn_step a).stage_le (ih (l.step a).2)

theorem told_events {past : List LinkEvent} (h : Told l.state past) (actions : List LineAction) :
    Told (l.after actions).state (past ++ l.events actions) := by
  induction actions generalizing l past with
  | nil =>
    rw [events, List.append_nil]
    exact h
  | cons a actions ih =>
    -- What was told before this step and in it was told before the rest.
    rw [events, ← List.append_assoc]
    exact ih (h.append (l.turn_step a))

theorem ne_connecting_after (h : l.state ≠ .connecting) (actions : List LineAction) :
    (l.after actions).state ≠ .connecting := by
  induction actions generalizing l with
  | nil => exact h
  | cons a actions ih => exact ih ((l.turn_step a).ne_connecting h)

/-- Once the server has answered, a connection is not being dialled any more. -/
theorem ne_connecting_of_established (l : Line) {actions : List LineAction}
    (h : .act .established ∈ actions) : (l.after actions).state ≠ .connecting := by
  obtain ⟨before, behind, rfl⟩ := List.append_of_mem h
  rw [after, List.foldl_append, List.foldl_cons]
  apply ne_connecting_after
  -- The answer opens a connection that is being dialled, and is nothing new to any other.
  cases before.foldl (fun l a => (l.step a).2) l with
  | answering => nofun
  | reading c =>
    rw [step, Connection.step, state, connection]
    split
    · nofun
    · next hc => exact hc

/-- **As long as no write fails**, none will. -/
theorem clear_step (h : l.connection.outcomes = []) (a : LineAction) :
    (l.step a).2.connection.outcomes = [] := by
  cases l with
  | reading c =>
    cases a with
    | act a => exact Connection.clear_step h a
    | answer =>
      rw [step]
      split
      · have hsuffix := c.outcomes_answer_suffix
        rw [show c.outcomes = [] from h] at hsuffix
        exact List.suffix_nil.mp hsuffix
      · exact h
    | answered => exact h
  | answering =>
    cases a with
    | act a => cases a <;> exact h
    | answer => exact h
    | answered => exact h

theorem clear_after (h : l.connection.outcomes = []) (actions : List LineAction) :
    (l.after actions).connection.outcomes = [] := by
  induction actions generalizing l with
  | nil => exact h
  | cons a actions ih => exact ih (clear_step h a)

/-! ### This side -/

/-- A line sends a message exactly if it is open. -/
structure SendsIfOpen (l : Line) (text : String) : Prop where
  result_iff : (l.step (.act (.send text))).1.result = .ok () ↔ l.state = .open
  /-- It writes that message and no other, and tells nothing. -/
  sent : l.state = .open → (l.step (.act (.send text))).2 = l ∧
    (l.step (.act (.send text))).1.events = [] ∧
    (l.step (.act (.send text))).1.frames =
      Frame.ofMessage l.connection.chunk (Text.encode text) ∧
    ∀ before, Frame.messages (before ++ (l.step (.act (.send text))).1.frames) =
      Frame.messages before ++ [Text.encode text]
  /-- Otherwise it says where it is in its life, and that is all. -/
  refused : l.state ≠ .open → l.step (.act (.send text)) =
    ({ result := .error (.connectionClosed s!"connection is {l.state.text}") }, l)

/-- A line can be closed exactly if it is open. -/
structure ClosesIfOpen (l : Line) : Prop where
  result_iff : (l.step (.act .close)).1.result = .ok () ↔ l.state = .open
  /-- It says so to the peer, and tells nothing. -/
  closed : l.state = .open → (l.step (.act .close)).2.state = .closing ∧
    (l.step (.act .close)).1.events = [] ∧ (l.step (.act .close)).1.frames = [.close]
  /-- Otherwise it says where it is in its life, and that is all. -/
  refused : l.state ≠ .open → l.step (.act .close) =
    ({ result := .error (.connectionClosed s!"connection is {l.state.text}") }, l)

theorem step_send_of_open (h : l.state = .open) (hclear : l.connection.outcomes = [])
    (text : String) :
    l.step (.act (.send text)) =
      ({ frames := Frame.ofMessage l.connection.chunk (Text.encode text) }, l) := by
  cases l with
  | reading c =>
    rw [step, c.step_send_of_open (decide_eq_true h) hclear]
    rfl
  | answering => cases h

theorem step_send_of_over (h : l.state ≠ .open) (text : String) :
    l.step (.act (.send text)) = ({ result := .error (.notOpen l.state) }, l) := by
  cases l with
  | reading c =>
    rw [step, c.step_send_of_over (decide_eq_false h)]
    rfl
  | answering => rfl

theorem sendsIfOpen (hclear : l.connection.outcomes = []) (text : String) :
    l.SendsIfOpen text := by
  by_cases h : l.state = .open
  · have hstep := step_send_of_open h hclear text
    refine ⟨?_, ?_, fun hover => absurd h hover⟩
    · rw [hstep]
      exact iff_of_true rfl h
    · intro
      rw [hstep]
      exact ⟨rfl, rfl, rfl, Frame.messages_append_ofMessage l.connection.chunk (Text.encode text)⟩
  · have hstep := step_send_of_over h text
    refine ⟨?_, fun hopen => absurd hopen h, fun _ => hstep⟩
    rw [hstep]
    exact iff_of_false nofun h

theorem step_close_of_open (h : l.state = .open) (hclear : l.connection.outcomes = []) :
    l.step (.act .close) =
      ({ frames := [.close] }, reading { l.connection with state := .closing }) := by
  cases l with
  | reading c =>
    rw [step, c.step_close_of_open (decide_eq_true h) hclear]
    rfl
  | answering => cases h

theorem step_close_of_over (h : l.state ≠ .open) :
    l.step (.act .close) = ({ result := .error (.notOpen l.state) }, l) := by
  cases l with
  | reading c =>
    rw [step, c.step_close_of_over (decide_eq_false h)]
    rfl
  | answering => rfl

theorem closesIfOpen (hclear : l.connection.outcomes = []) : l.ClosesIfOpen := by
  by_cases h : l.state = .open
  · have hstep := step_close_of_open h hclear
    refine ⟨?_, ?_, fun hover => absurd h hover⟩
    · rw [hstep]
      exact iff_of_true rfl h
    · intro
      rw [hstep]
      exact ⟨rfl, rfl, rfl⟩
  · have hstep := step_close_of_over h
    refine ⟨?_, fun hopen => absurd hopen h, fun _ => hstep⟩
    rw [hstep]
    exact iff_of_false nofun h

/-- **The life of a connection.** Its state goes forward. Its opening is told first, its end
last and in the step that ends it, and messages and errors between them. If no write fails, it
sends and can be closed exactly while it is open. -/
theorem lives_after (chunk : ChunkSize) (max : Nat) (outcomes : List (Option WriteFailure))
    (actions : List LineAction) :
    let l := (dialled chunk max outcomes).after actions
    Told l.state ((dialled chunk max outcomes).events actions) ∧
      (.act .established ∈ actions → l.state ≠ .connecting) ∧
      (∀ more, l.state.stage ≤ (l.after more).state.stage) ∧
      (∀ a, .closed ∈ (l.step a).1.events ↔ l.state ≠ .closed ∧ (l.step a).2.state = .closed) ∧
      (outcomes = [] → (∀ text, l.SendsIfOpen text) ∧ l.ClosesIfOpen) := by
  intro l
  refine ⟨?_, ?_, ?_, ?_, ?_⟩
  · have hdialled : Told (dialled chunk max outcomes).state [] := .connecting
    exact told_events hdialled actions
  · exact ne_connecting_of_established (dialled chunk max outcomes)
  · exact l.stage_le_after
  · exact fun a => (l.turn_step a).closed_mem_iff
  · intro hnone
    have hdialled : (dialled chunk max outcomes).connection.outcomes = [] := hnone
    have hclear : l.connection.outcomes = [] := clear_after hdialled actions
    exact ⟨sendsIfOpen hclear, closesIfOpen hclear⟩

/-- While the peer's closing is answered, this side is refused, and nothing is told of that. -/
example :
    (((dialled ⟨1, by decide⟩ 8).after [.act .established, .answer]).step
      (.act (.send "a"))).1.result = .error (.connectionClosed "connection is closing") ∧
    (dialled ⟨1, by decide⟩ 8).events
      [.act .established, .answer, .act (.send "a"), .answered] = [.opened, .closed] := by
  cbv

end Line

end Multiworld
