import Mathlib.Data.List.Infix
import Multiworld.Client
import Multiworld.Proofs.Link.Life
import Multiworld.Proofs.Outcome

/-!
# What becomes of the texts a client accepts

The texts that a client has accepted are those written, then those given up, then those that
wait. The writer gives up where a text cannot be written. If no write on an open connection fails,
the connection is over by then. Each thing that a client does moves texts along this line, and
none leaves it.

## Main definitions

* `Client.Books`: what is written, given up, and waiting
* `Client.Keeps`: the texts accepted so far are all there

## Main results

* `Client.send_cases`: what sending does to a client
* `Client.writeNext_cases`, `Client.flush_of_open`: what the writer does
* `Client.Keeps.receive`, `Client.Keeps.disconnect` and what goes with them: no step loses
  a text
* `Client.keeps_start`: a new client has accepted nothing
-/

namespace Multiworld

namespace Client

variable {c : Client} {capacity : Nat} {written dropped accepted : List String} {text : String}

/-! ## The books -/

/-- What a client has written, and what it has given up. -/
structure Books (capacity : Nat) (c : Client) (written dropped : List String) : Prop where
  /-- No write on the open connection fails. -/
  clear : c.connection.outcomes = []
  capacity_eq : c.capacity = capacity
  length_le : c.queue.length ≤ capacity
  messages_wire : Frame.messages c.wire = written.map Text.encode
  /-- There is a verdict on each of them, and it says which. -/
  verdicts_eq : ∃ errors : List SendError, errors.length = dropped.length ∧
    c.verdicts = written.map (fun _ => .ok ()) ++ errors.map .error
  dropped_eq_nil : c.writer = .running → dropped = []
  /-- The writer works as long as the connection is open. -/
  writer_eq : c.connection.state.isOpen = true → c.writer = .running
  connection_open : c.isOpen = true → c.connection.state.isOpen = true
  /-- The closing frame is the last one. -/
  wire_eq : ∃ frames, .close ∉ frames ∧
    (c.wire = frames ∨ c.wire = frames ++ [.close] ∧ c.connection.state.isOpen = false)

/-- The texts accepted so far are all there, each in its place. -/
def Keeps (capacity : Nat) (c : Client) (accepted : List String) : Prop :=
  ∃ written dropped, Books capacity c written dropped ∧ accepted = written ++ dropped ++ c.queue

/-- The hub is on no account of the books. -/
theorem Keeps.setHub (h : Keeps capacity c accepted) (hub : Hub) :
    Keeps capacity { c with hub := hub } accepted := by
  obtain ⟨written, dropped, hb, rfl⟩ := h
  exact ⟨written, dropped, { hb with }, rfl⟩

/-- A client that accepts nothing any more. -/
def shut (c : Client) : Client := { c with isOpen := false }

theorem Keeps.shut (h : Keeps capacity c accepted) : Keeps capacity c.shut accepted := by
  obtain ⟨written, dropped, hb, rfl⟩ := h
  exact ⟨written, dropped, { hb with connection_open := nofun }, rfl⟩

/-- A text more waits, if there is room for it. -/
theorem Keeps.enqueue (h : Keeps capacity c accepted) (hroom : c.queue.length < c.capacity)
    (text : String) :
    Keeps capacity { c with queue := c.queue ++ [text] } (accepted ++ [text]) := by
  obtain ⟨written, dropped, hb, rfl⟩ := h
  have hlength : (c.queue ++ [text]).length ≤ capacity := by
    rw [List.length_append, List.length_singleton, ← hb.capacity_eq]
    exact hroom
  exact ⟨written, dropped, { hb with length_le := hlength }, List.append_assoc _ _ _⟩

/-- The next number to be given is that of the texts accepted so far. -/
theorem Keeps.length_eq (h : Keeps capacity c accepted) :
    c.verdicts.length + c.queue.length = accepted.length := by
  obtain ⟨written, dropped, hb, rfl⟩ := h
  obtain ⟨errors, hlength, hverdicts⟩ := hb.verdicts_eq
  rw [hverdicts, List.length_append, List.length_map, List.length_map, hlength,
    List.length_append, List.length_append]

/-! ## Sending -/

/-- **All that sending can do**: it is refused and nothing changes, or the text waits. -/
theorem send_cases (c : Client) (packets : List Packet) :
    (c.isOpen = false ∧
        c.send packets = (.error (.connectionClosed "connection is not open"), c)) ∨
      (c.isOpen = true ∧ c.capacity ≤ c.queue.length ∧
        c.send packets = (.error (.queueFull c.capacity), c)) ∨
      (c.isOpen = true ∧ c.queue.length < c.capacity ∧
        c.send packets = (.ok (c.verdicts.length + c.queue.length),
          { c with queue := c.queue ++ [Batch.write packets] })) := by
  unfold send
  cases ho : c.isOpen with
  | false => exact .inl ⟨rfl, rfl⟩
  | true =>
    by_cases hfull : c.capacity ≤ c.queue.length
    · exact .inr (.inl ⟨rfl, hfull, by rw [if_neg (by decide), if_pos hfull]⟩)
    · exact .inr (.inr ⟨rfl, Nat.lt_of_not_le hfull, by rw [if_neg (by decide), if_neg hfull]⟩)

/-! ## Writing -/

variable {rest : List String}

theorem writeNext_of_ok (hwriter : c.writer = .running) (hqueue : c.queue = text :: rest)
    (hok : (c.connection.step (.send text)).1.result = .ok ()) :
    c.writeNext = { c with
      connection := (c.connection.step (.send text)).2
      queue := rest
      wire := c.wire ++ (c.connection.step (.send text)).1.frames
      verdicts := c.verdicts ++ [.ok ()] } := by
  unfold Client.writeNext
  rw [hwriter, hqueue]
  dsimp only
  rw [hok]

/-- Why the messages behind the oldest one are given up with it. -/
def writeErrors (e : LinkError) (behind : List String) : List SendError :=
  .sendFailed { text := e.message } ::
    behind.map fun _ => .connectionClosed s!"an earlier write failed: {e.message}"

theorem writeNext_of_error (hwriter : c.writer = .running) (hqueue : c.queue = text :: rest)
    {e : LinkError} (he : (c.connection.step (.send text)).1.result = .error e) :
    c.writeNext = { c with
      connection := (c.connection.step (.send text)).2
      queue := []
      wire := c.wire ++ (c.connection.step (.send text)).1.frames
      isOpen := false
      writer := .failed e
      verdicts := c.verdicts ++ (writeErrors e rest).map .error } := by
  unfold Client.writeNext
  rw [hwriter, hqueue]
  dsimp only
  rw [he, writeErrors, List.map_cons, List.map_map]
  rfl

/-- **All that the writer can do**: nothing, or write the oldest text, or give up. -/
theorem writeNext_cases (c : Client) :
    ((c.writer = .running → c.queue = []) ∧ c.writeNext = c) ∨ ∃ text rest, c.writer = .running ∧ c.queue = text :: rest ∧
      (((c.connection.step (.send text)).1.result = .ok () ∧ c.writeNext = { c with
          connection := (c.connection.step (.send text)).2
          queue := rest
          wire := c.wire ++ (c.connection.step (.send text)).1.frames
          verdicts := c.verdicts ++ [.ok ()] }) ∨
        ∃ e, (c.connection.step (.send text)).1.result = .error e ∧ c.writeNext = { c with
          connection := (c.connection.step (.send text)).2
          queue := []
          wire := c.wire ++ (c.connection.step (.send text)).1.frames
          isOpen := false
          writer := .failed e
          verdicts := c.verdicts ++ (writeErrors e rest).map .error }) := by
  by_cases hwriter : c.writer = .running
  · cases hqueue : c.queue with
    | nil =>
      refine .inl ⟨fun _ => rfl, ?_⟩
      rw [Client.writeNext, hwriter, hqueue]
    | cons text rest =>
      refine .inr ⟨text, rest, hwriter, rfl, ?_⟩
      cases hresult : (c.connection.step (.send text)).1.result with
      | ok u => exact .inl ⟨rfl, writeNext_of_ok hwriter hqueue hresult⟩
      | error e => exact .inr ⟨e, rfl, writeNext_of_error hwriter hqueue hresult⟩
  · refine .inl ⟨fun hrunning => absurd hrunning hwriter, ?_⟩
    unfold Client.writeNext
    split
    · next hrunning _ => exact absurd hrunning hwriter
    · rfl

theorem writeNext_of_open (hwriter : c.writer = .running)
    (hopen : c.connection.state.isOpen = true) (hclear : c.connection.outcomes = [])
    (hqueue : c.queue = text :: rest) :
    c.writeNext = { c with
      queue := rest
      wire := c.wire ++ Frame.ofMessage c.connection.chunk (Text.encode text)
      verdicts := c.verdicts ++ [.ok ()] } := by
  have hstep := Connection.step_send_of_open hopen hclear text
  rw [writeNext_of_ok hwriter hqueue (by rw [hstep]), hstep]

theorem writeNext_of_over (hwriter : c.writer = .running)
    (hover : c.connection.state.isOpen = false) (hqueue : c.queue = text :: rest) :
    c.writeNext = { c with
      queue := []
      isOpen := false
      writer := .failed (.notOpen c.connection.state)
      verdicts := c.verdicts ++ (writeErrors (.notOpen c.connection.state) rest).map .error } := by
  have hstep := Connection.step_send_of_over hover text
  rw [writeNext_of_error hwriter hqueue (by rw [hstep]), hstep]
  simp only [List.append_nil]

/-- The same as long as no write on an open connection fails. -/
theorem writeNext_cases_of_clear (hclear : c.connection.outcomes = []) :
    c.writeNext = c ∨ ∃ text rest, c.writer = .running ∧ c.queue = text :: rest ∧
      ((c.connection.state.isOpen = true ∧ c.writeNext = { c with
          queue := rest
          wire := c.wire ++ Frame.ofMessage c.connection.chunk (Text.encode text)
          verdicts := c.verdicts ++ [.ok ()] }) ∨
        (c.connection.state.isOpen = false ∧ c.writeNext = { c with
          queue := []
          isOpen := false
          writer := .failed (.notOpen c.connection.state)
          verdicts := c.verdicts ++
            (writeErrors (.notOpen c.connection.state) rest).map .error })) := by
  rcases writeNext_cases c with ⟨-, hc⟩ | ⟨text, rest, hwriter, hqueue, -⟩
  · exact .inl hc
  · refine .inr ⟨text, rest, hwriter, hqueue, ?_⟩
    cases hopen : c.connection.state.isOpen with
    | true => exact .inl ⟨rfl, writeNext_of_open hwriter hopen hclear hqueue⟩
    | false => exact .inr ⟨rfl, writeNext_of_over hwriter hopen hqueue⟩

theorem Keeps.writeNext (h : Keeps capacity c accepted) :
    Keeps capacity c.writeNext accepted := by
  obtain ⟨written, dropped, hb, rfl⟩ := h
  rcases writeNext_cases_of_clear hb.clear with hc | ⟨text, rest, hwriter, hqueue, hc⟩
  · rw [hc]
    exact ⟨written, dropped, hb, rfl⟩
  obtain rfl := hb.dropped_eq_nil hwriter
  obtain ⟨errors, hlength, hverdicts⟩ := hb.verdicts_eq
  obtain rfl := List.eq_nil_of_length_eq_zero hlength
  rw [List.map_nil, List.append_nil] at hverdicts
  rcases hc with ⟨hopen, hc⟩ | ⟨hover, hc⟩
  · -- The oldest text that waits is the latest one written.
    rw [hc]
    have hlength : rest.length ≤ capacity := by
      have hle := hb.length_le
      rw [hqueue] at hle
      exact Nat.le_of_succ_le hle
    have hmessages :
        Frame.messages (c.wire ++ Frame.ofMessage c.connection.chunk (Text.encode text)) =
          (written ++ [text]).map Text.encode := by
      rw [Frame.messages_append_ofMessage, hb.messages_wire, List.map_append]
      rfl
    have hverdicts' : c.verdicts ++ [.ok ()] =
        (written ++ [text]).map (fun _ => .ok ()) ++ ([] : List SendError).map .error := by
      rw [hverdicts, List.map_append, List.map_nil, List.append_nil]
      rfl
    have hwire : .close ∉ c.wire ++ Frame.ofMessage c.connection.chunk (Text.encode text) := by
      obtain ⟨frames, hclose, hframes | ⟨-, hover⟩⟩ := hb.wire_eq
      · rw [hframes, List.mem_append, not_or]
        exact ⟨hclose, Frame.close_notMem_ofMessage _ _⟩
      · rw [hopen] at hover
        cases hover
    refine ⟨written ++ [text], [], { hb with
      length_le := hlength
      messages_wire := hmessages
      verdicts_eq := ⟨[], rfl, hverdicts'⟩
      dropped_eq_nil := fun _ => rfl
      wire_eq := ⟨_, hwire, .inl rfl⟩ }, ?_⟩
    rw [hqueue]
    simp only [List.append_nil, List.append_assoc, List.singleton_append]
  · -- All that waits is given up.
    rw [hc]
    have hlength : (writeErrors (.notOpen c.connection.state) rest).length = c.queue.length := by
      rw [hqueue, writeErrors, List.length_cons, List.length_map, List.length_cons]
    have hwriter' (hopen : c.connection.state.isOpen = true) :
        Writer.failed (.notOpen c.connection.state) = .running := by
      rw [hover] at hopen
      cases hopen
    refine ⟨written, c.queue, { hb with
      length_le := Nat.zero_le _
      verdicts_eq := ⟨_, hlength, by rw [hverdicts]⟩
      dropped_eq_nil := nofun
      writer_eq := hwriter'
      connection_open := nofun }, ?_⟩
    simp only [List.append_nil]

/-- What every step of the writer keeps, flushing keeps. -/
theorem flush_induction {P : Client → Prop} (h : P c) (hstep : ∀ d, P d → P d.writeNext) :
    P c.flush := by
  rw [Client.flush]
  induction c.queue generalizing c with
  | nil => exact h
  | cons text rest ih => exact ih (hstep c h)

/-- A writer that still works has taken the oldest text, if there was one. -/
theorem queue_writeNext (h : c.writeNext.writer = .running) : c.writeNext.queue = c.queue.tail := by
  rcases writeNext_cases c with ⟨hidle, hc⟩ | ⟨text, rest, -, hqueue, ⟨-, hc⟩ | ⟨e, -, hc⟩⟩
  · rw [hc] at h ⊢
    rw [hidle h, List.tail_nil]
  · rw [hc, hqueue, List.tail_cons]
  · rw [hc] at h
    cases h

/-- The writer does not begin to work again. -/
theorem writer_of_writeNext (h : c.writeNext.writer = .running) : c.writer = .running := by
  rcases writeNext_cases c with ⟨-, hc⟩ | ⟨text, rest, hwriter, -⟩
  · rw [hc] at h
    exact h
  · exact hwriter

/-- A writer that still works has taken all that waited. -/
theorem queue_flush (h : c.flush.writer = .running) : c.flush.queue = [] := by
  -- It has taken a text with each of its steps, and there were as many steps as texts.
  have hsteps (texts : List String) (d : Client)
      (hd : (texts.foldl (fun d _ => d.writeNext) d).writer = .running) :
      d.writer = .running ∧
        (texts.foldl (fun d _ => d.writeNext) d).queue = d.queue.drop texts.length := by
    induction texts generalizing d with
    | nil => exact ⟨hd, rfl⟩
    | cons text texts ih =>
      obtain ⟨hwriter, hqueue⟩ := ih d.writeNext hd
      refine ⟨writer_of_writeNext hwriter, hqueue.trans ?_⟩
      rw [queue_writeNext hwriter, List.drop_tail, List.length_cons]
  exact (hsteps c.queue c h).2.trans List.drop_length

/-- **As long as the connection is open and no write fails, all that waits can be written.** -/
theorem flush_of_open (hwriter : c.writer = .running)
    (hopen : c.connection.state.isOpen = true) (hclear : c.connection.outcomes = []) :
    c.flush = { c with
      queue := []
      wire := c.wire ++
        c.queue.flatMap fun text => Frame.ofMessage c.connection.chunk (Text.encode text)
      verdicts := c.verdicts ++ c.queue.map fun _ => .ok () } := by
  obtain ⟨queue, hqueue⟩ : ∃ queue, c.queue = queue := ⟨_, rfl⟩
  rw [Client.flush, hqueue]
  -- Writing leaves the writer and the connection as they are, so it goes on to the end.
  induction queue generalizing c with
  | nil =>
    rw [List.flatMap_nil, List.map_nil, List.append_nil, List.append_nil, List.foldl_nil, ← hqueue]
  | cons text rest ih =>
    have hnext := writeNext_of_open hwriter hopen hclear hqueue
    rw [List.foldl_cons, ih (by rw [hnext]; exact hwriter) (by rw [hnext]; exact hopen)
      (by rw [hnext]; exact hclear) (by rw [hnext]), hnext]
    simp only [List.flatMap_cons, List.map_cons, List.append_assoc, List.singleton_append]

theorem wire_prefix_writeNext (c : Client) : c.wire <+: c.writeNext.wire := by
  rcases writeNext_cases c with ⟨-, hc⟩ | ⟨text, rest, -, -, ⟨-, hc⟩ | ⟨e, -, hc⟩⟩
  · rw [hc]
  · rw [hc]
    exact List.prefix_append _ _
  · rw [hc]
    exact List.prefix_append _ _

theorem flush_isOpen (h : c.isOpen = false) : c.flush.isOpen = false := by
  refine flush_induction (P := fun d => d.isOpen = false) h fun d hd => ?_
  rcases writeNext_cases d with ⟨-, hc⟩ | ⟨text, rest, -, -, ⟨-, hc⟩ | ⟨e, -, hc⟩⟩
  · rw [hc]
    exact hd
  · rw [hc]
    exact hd
  · rw [hc]

/-! ## Receiving -/

/-- What comes in for a connection leaves it as it is and writes nothing, or ends it and says
so; nothing is written then but the answer to a closing frame. -/
structure Taken (k : Connection) (out : LinkOutput) (k' : Connection) : Prop where
  not_opened : .opened ∉ out.events
  cases : (k'.state = k.state ∧ out.frames = []) ∨
    (k'.state = .closed ∧ .closed ∈ out.events ∧
      (out.frames = [] ∨ k.state.isOpen = true ∧ out.frames = [.close]))

theorem taken_receiveMessage (k : Connection) (octets : List UInt8) :
    Taken k (k.receiveMessage octets).1 (k.receiveMessage octets).2 := by
  refine ⟨?_, .inl ⟨rfl, rfl⟩⟩
  unfold Connection.receiveMessage
  dsimp only
  split
  · nofun
  · nofun
  · nofun

/-- The end of a connection is told last. -/
theorem taken_finish (k k' : Connection) {frames : List Frame} {events : List LinkEvent}
    (hframes : frames = [] ∨ k.state.isOpen = true ∧ frames = [.close])
    (hevents : .opened ∉ events) :
    Taken k (k'.finish frames events).1 (k'.finish frames events).2 := by
  refine ⟨fun h => ?_, .inr ⟨rfl, List.mem_concat_self, hframes⟩⟩
  rcases List.mem_append.mp h with h | h
  · exact hevents h
  · cases List.mem_singleton.mp h

/-- **All that comes in** leaves a connection as it is, or ends it. -/
theorem taken_receive (k : Connection) (item : Incoming) :
    Taken k (k.step (.receive item)).1 (k.step (.receive item)).2 := by
  rw [Connection.step]
  split
  · cases item with
    | text s => exact taken_receiveMessage k _
    | binary octets => exact taken_receiveMessage k octets
    | ping => exact ⟨List.not_mem_nil, .inl ⟨rfl, rfl⟩⟩
    | pong => exact ⟨List.not_mem_nil, .inl ⟨rfl, rfl⟩⟩
    | close => exact taken_finish k k.answer.2 k.frames_answer List.not_mem_nil
    | failure cause => exact taken_finish k k (.inl rfl) (by simp)
    | gone => exact taken_finish k k (.inl rfl) List.not_mem_nil
    | ended => exact taken_finish k k (.inl rfl) List.not_mem_nil
  · exact ⟨List.not_mem_nil, .inl ⟨rfl, rfl⟩⟩

/-- Events reach the hub, and close the door at the end of the connection. -/
theorem foldl_handleEvent (c : Client) {events : List LinkEvent} (h : .opened ∉ events) :
    ∃ hub isOpen, events.foldl handleEvent c = { c with hub := hub, isOpen := isOpen } ∧
      (isOpen = true → c.isOpen = true ∧ .closed ∉ events) := by
  induction events generalizing c with
  | nil => exact ⟨c.hub, c.isOpen, rfl, fun ho => ⟨ho, List.not_mem_nil⟩⟩
  | cons e events ih =>
    rw [List.mem_cons, not_or] at h
    obtain ⟨hub, isOpen, hfold, hopen⟩ := ih (c.handleEvent e) h.2
    cases e with
    | opened => exact absurd rfl h.1
    | closed => exact ⟨hub, isOpen, hfold, fun ho => nomatch (hopen ho).1⟩
    | message text =>
      refine ⟨hub, isOpen, hfold, fun ho => ⟨(hopen ho).1, ?_⟩⟩
      rw [List.mem_cons, not_or]
      exact ⟨nofun, (hopen ho).2⟩
    | error e =>
      refine ⟨hub, isOpen, hfold, fun ho => ⟨(hopen ho).1, ?_⟩⟩
      rw [List.mem_cons, not_or]
      exact ⟨nofun, (hopen ho).2⟩

/-- **All that receiving can do to a client.** -/
theorem receive_eq (c : Client) (item : Incoming) :
    ∃ hub isOpen, c.receive item = { c with
        hub := hub
        isOpen := isOpen
        connection := (c.connection.step (.receive item)).2
        wire := c.wire ++ (c.connection.step (.receive item)).1.frames } ∧
      (isOpen = true → c.isOpen = true ∧
        .closed ∉ (c.connection.step (.receive item)).1.events) :=
  foldl_handleEvent _ (taken_receive c.connection item).not_opened

theorem Keeps.receive (h : Keeps capacity c accepted) (item : Incoming) :
    Keeps capacity (c.receive item) accepted := by
  obtain ⟨hub, isOpen, hc, hopen⟩ := receive_eq c item
  obtain ⟨-, htaken⟩ := taken_receive c.connection item
  obtain ⟨written, dropped, hb, rfl⟩ := h
  rw [hc]
  refine ⟨written, dropped, ?_, rfl⟩
  have hclear := Connection.clear_step hb.clear (.receive item)
  obtain ⟨frames, hclose, hwire⟩ := hb.wire_eq
  rcases htaken with ⟨hstate, hframes⟩ | ⟨hstate, htold, hframes⟩
  · rw [hframes, List.append_nil]
    rw [← hstate] at hwire
    exact { hb with
      clear := hclear
      writer_eq := fun ho => hb.writer_eq (hstate ▸ ho)
      connection_open := fun ho => hstate ▸ hb.connection_open (hopen ho).1
      wire_eq := ⟨frames, hclose, hwire⟩ }
  · have hclosed : (c.connection.step (.receive item)).2.state.isOpen = false := by
      rw [hstate]
      rfl
    have hmessages : Frame.messages (c.wire ++ (c.connection.step (.receive item)).1.frames) =
        written.map Text.encode := by
      rw [Frame.messages_append_closing c.wire (hframes.imp_right And.right), hb.messages_wire]
    -- Only an open connection answers, so no closing frame was written before the answer.
    have hwire' : c.wire ++ (c.connection.step (.receive item)).1.frames = frames ∨
        c.wire ++ (c.connection.step (.receive item)).1.frames = frames ++ [.close] := by
      rcases hframes with hframes | ⟨ho, hframes⟩
      · rw [hframes, List.append_nil]
        exact hwire.imp_right And.left
      · rcases hwire with hwire | ⟨-, hover⟩
        · rw [hframes, hwire]
          exact .inr rfl
        · rw [ho] at hover
          cases hover
    have hnotOpen {p : Prop}
        (ho : (c.connection.step (.receive item)).2.state.isOpen = true) : p := by
      rw [hclosed] at ho
      cases ho
    exact { hb with
      clear := hclear
      messages_wire := hmessages
      writer_eq := hnotOpen
      connection_open := fun ho => absurd htold (hopen ho).2
      wire_eq := ⟨frames, hclose, hwire'.imp_right fun hw => ⟨hw, hclosed⟩⟩ }

theorem wire_prefix_receive (c : Client) (item : Incoming) : c.wire <+: (c.receive item).wire := by
  obtain ⟨hub, isOpen, hc, -⟩ := receive_eq c item
  rw [hc]
  exact List.prefix_append _ _

/-! ## Disconnecting -/

/-- What is left to do when nothing waits any more. -/
def finish (c : Client) : Client :=
  if c.connection.state.isOpen then { c with
    writer := .joined
    connection := (c.connection.step .close).2
    wire := c.wire ++ (c.connection.step .close).1.frames }
  else { c with writer := .joined }

/-- **Disconnecting** writes what waits and closes the connection, but only once. -/
theorem disconnect_cases (c : Client) :
    (c.writer = .joined ∧ c.disconnect.2 = c.shut) ∨ c.disconnect.2 = c.shut.flush.finish := by
  unfold Client.disconnect
  split
  · next h => exact .inl ⟨h, rfl⟩
  · refine .inr ?_
    dsimp only [finish, Client.shut]
    split
    · rfl
    · rfl

theorem Keeps.finish (h : Keeps capacity c accepted) (hshut : c.isOpen = false) :
    Keeps capacity c.finish accepted := by
  obtain ⟨written, dropped, hb, rfl⟩ := h
  have hnot {p : Prop} (ho : c.isOpen = true) : p := by
    rw [hshut] at ho
    cases ho
  unfold Client.finish
  cases hopen : c.connection.state.isOpen with
  | true =>
    have hwire : ∃ frames, Frame.close ∉ frames ∧ c.wire ++ [.close] = frames ++ [.close] := by
      obtain ⟨frames, hclose, hwire | ⟨-, hover⟩⟩ := hb.wire_eq
      · exact ⟨frames, hclose, by rw [hwire]⟩
      · rw [hopen] at hover
        cases hover
    obtain ⟨frames, hclose, hwire⟩ := hwire
    rw [if_pos rfl, Connection.step_close_of_open hopen hb.clear]
    exact ⟨written, dropped, { hb with
      messages_wire := (Frame.messages_append_close c.wire).trans hb.messages_wire
      dropped_eq_nil := nofun
      writer_eq := nofun
      connection_open := hnot
      wire_eq := ⟨frames, hclose, .inr ⟨hwire, rfl⟩⟩ }, rfl⟩
  | false =>
    rw [if_neg Bool.false_ne_true]
    have hover {p : Prop} (ho : c.connection.state.isOpen = true) : p := by
      rw [hopen] at ho
      cases ho
    exact ⟨written, dropped, { hb with
      dropped_eq_nil := nofun
      writer_eq := hover
      connection_open := hnot }, rfl⟩

/-- Whatever becomes of the closing frame, nothing else is written. -/
theorem finish_eq (c : Client) :
    ∃ connection closing, (closing = [] ∨ closing = [.close]) ∧
      c.finish = { c with
        writer := .joined
        connection := connection
        wire := c.wire ++ closing } := by
  unfold Client.finish
  split
  · exact ⟨_, _, c.connection.frames_step_close, rfl⟩
  · exact ⟨c.connection, [], .inl rfl, by rw [List.append_nil]⟩

theorem wire_prefix_finish (c : Client) : c.wire <+: c.finish.wire := by
  obtain ⟨connection, closing, -, hc⟩ := c.finish_eq
  rw [hc]
  exact List.prefix_append _ _

/-- **Disconnecting an open client** writes all that waits, and then the closing frame. -/
theorem disconnect_of_open (hwriter : c.writer = .running)
    (hopen : c.connection.state.isOpen = true) (hclear : c.connection.outcomes = []) :
    c.disconnect = (.ok (), { c with
      queue := []
      isOpen := false
      writer := .joined
      connection := { c.connection with state := .closing }
      wire := c.wire ++ (c.queue.flatMap fun text =>
        Frame.ofMessage c.connection.chunk (Text.encode text)) ++ [.close]
      verdicts := c.verdicts ++ c.queue.map fun _ => .ok () }) := by
  have hflush := flush_of_open (c := c.shut) hwriter hopen hclear
  unfold Client.disconnect
  split
  · next hjoined =>
    rw [hwriter] at hjoined
    cases hjoined
  · rw [← Client.shut, hflush]
    dsimp only [Client.shut]
    rw [hopen, if_pos rfl, hwriter, Connection.step_close_of_open hopen hclear]
    rfl

/-! ## Opening -/

/-- **A new client has accepted nothing**, and its connection is open. -/
theorem keeps_start {s : ClientSettings} {w : World} (h : start s w none = .ok c) :
    Keeps s.queueCapacity.toNat c [] := by
  obtain ⟨connection, hconnection, h⟩ := bind_eq_ok_iff.mp h
  dsimp only at h
  split at h
  · cases h
  obtain rfl := Except.ok.inj h
  -- A connection is dialled first, and the server's answer opens it.
  have hstate : connection.state = .connecting := by
    unfold Connection.ofSettings at hconnection
    cases hv : s.link.validate with
    | error e =>
      rw [hv] at hconnection
      cases hconnection
    | ok chunk =>
      rw [hv] at hconnection
      obtain rfl := Except.ok.inj hconnection
      rfl
  have hopen : (connection.step .established).2.state = .open := by
    rw [Connection.step, if_pos hstate]
  refine ⟨[], [], ⟨rfl, rfl, Nat.zero_le _, rfl, ⟨[], rfl, rfl⟩, fun _ => rfl, fun _ => rfl, fun _ => ?_,
    [], List.not_mem_nil, .inl rfl⟩, rfl⟩
  show (connection.step .established).2.state.isOpen = true
  rw [hopen]
  rfl

end Client

end Multiworld
