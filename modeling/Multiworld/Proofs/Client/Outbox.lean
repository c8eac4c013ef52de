import Multiworld.Proofs.Client.Writer

/-!
# What a client sends

A client from its start on, through any row of requests, steps of the writer, messages that
come in, and disconnecting. A request may be waited for or not, and may be overtaken by a
disconnection after the connection was found open; the writer may take its steps at any time.
The texts on the wire and those that wait are at each moment the ones accepted so far.

## Main definitions

* `Request`, `Client.hand`, `Client.call`, `Client.answer`: what a client can be asked to send,
  and what it says
* `ClientAction`, `Ledger`: what happens to a client, and what it has accepted
* `Ledger.Kept`: what each single thing that a client does keeps
* `Client.Orderly`: nothing is lost, doubled or reordered

## Main results

* `Client.hand_cases`, `Client.waited_call`: what a request does
* `Client.answer_eq`: what is said of a request that was waited for
* `Ledger.Kept.act`, `Ledger.Kept.foldl`: what each single thing that a client does keeps, every
  row of actions keeps
* `Ledger.kept_keeps`: the accepted texts are all there
* `Client.orderly_after`: a client is orderly after any row of actions
-/

namespace Multiworld

/-- What a client can be asked to send. -/
inductive Request where
  | raw (packets : List Packet)
  | say (text : String)
  | bounce (tag : String) (data : Payload)
  | death (d : DeathNotice)
  | enableDeaths
  | disableDeaths

/-- The packets that a request sends, if there is anything to send. -/
def Request.packets? (c : Client) : Request → Option (List Packet)
  | .raw packets => some packets
  | .say text => some [.say text]
  | .bounce tag data => some [.bounce (.tagged tag data)]
  | .death d => some [.bounce (.tagged DeathNotice.tag d.payload)]
  | .enableDeaths => c.hub.tagsWithDeath?.map fun tags => [.connectUpdate { tags }]
  | .disableDeaths => c.hub.tagsWithoutDeath?.map fun tags => [.connectUpdate { tags }]

namespace Client

variable {c : Client} {capacity : Nat} {accepted : List String}

/-! ## Requests -/

/-- A message handed over, and its number. -/
def handPackets (c : Client) (packets : List Packet) : Except SendError (Option Nat) × Client :=
  ((c.send packets).1.map some, (c.send packets).2)

/-- A request that is not waited for: what it sends is handed over. -/
def hand (c : Client) : Request → Except SendError (Option Nat) × Client
  | .raw packets => c.handPackets packets
  | .say text => c.handPackets [.say text]
  | .bounce tag data => c.handPackets [.bounce (.tagged tag data)]
  | .death d => c.handPackets [.bounce (.tagged DeathNotice.tag d.payload)]
  | .enableDeaths => c.changeTags c.hub.tagsWithDeath?
  | .disableDeaths => c.changeTags c.hub.tagsWithoutDeath?

/-- What is said of a request that is waited for: whether there was anything to send, or why it
was not written. -/
def answer (c : Client) : Request → Except SendError Bool
  | .raw packets => (c.sendAndWait packets).1.map fun _ => true
  | .say text => (c.say text).1.map fun _ => true
  | .bounce tag data => (c.bounce tag data).1.map fun _ => true
  | .death d => (c.sendDeath d).1.map fun _ => true
  | .enableDeaths => c.enableDeaths.1
  | .disableDeaths => c.disableDeaths.1

/-- A request that is waited for. -/
def call (c : Client) : Request → Client
  | .raw packets => (c.sendAndWait packets).2
  | .say text => (c.say text).2
  | .bounce tag data => (c.bounce tag data).2
  | .death d => (c.sendDeath d).2
  | .enableDeaths => c.enableDeaths.2
  | .disableDeaths => c.disableDeaths.2

/-- The verdict on what was handed over: there may have been nothing to hand over. -/
def verdictOn (c : Client) : Except SendError (Option Nat) → Except SendError Bool
  | .error e => .error e
  | .ok none => .ok false
  | .ok (some number) => (c.verdict number).map fun _ => true

/-- Packets handed over once the connection was found open, which it need not be any more. -/
def handLate (c : Client) (packets : List Packet) : Except SendError Nat × Client :=
  match c.writer with
  | .running =>
    ((({ c with isOpen := true } : Client).send packets).1,
      { (({ c with isOpen := true } : Client).send packets).2 with isOpen := c.isOpen })
  | _ => (.error (.connectionClosed "writer has stopped"), c)

/-- What handing over some packets gives: they are refused and nothing changes, or they wait,
and only the hub may take note of it. -/
def HandedOver (c : Client) (packets : List Packet)
    (out : Except SendError (Option Nat) × Client) : Prop :=
  (∃ e, (c.send packets).1 = .error e ∧ out = (.error e, c)) ∨
    ∃ number hub, (c.send packets).1 = .ok number ∧
      out = (.ok (some number), { (c.send packets).2 with hub := hub })

theorem handedOver_handPackets (c : Client) (packets : List Packet) :
    HandedOver c packets (c.handPackets packets) := by
  unfold handPackets
  rcases c.send_cases packets with ⟨-, h⟩ | ⟨-, -, h⟩ | ⟨-, -, h⟩
  · exact .inl ⟨_, by rw [h], by rw [h]; rfl⟩
  · exact .inl ⟨_, by rw [h], by rw [h]; rfl⟩
  · exact .inr ⟨_, c.hub, by rw [h], by rw [h]; rfl⟩

theorem handedOver_changeTags (c : Client) (tags : List String) :
    HandedOver c [.connectUpdate { tags }] (c.changeTags (some tags)) := by
  unfold changeTags
  rcases c.send_cases [.connectUpdate { tags }] with ⟨-, h⟩ | ⟨-, -, h⟩ | ⟨-, -, h⟩
  · exact .inl ⟨_, by rw [h], by simp only [h]⟩
  · exact .inl ⟨_, by rw [h], by simp only [h]⟩
  · exact .inr ⟨_, c.hub.setTags tags, by rw [h], by simp only [h]⟩

/-- **All that a request does when it is handed over**: there may be nothing to send. -/
theorem hand_cases (c : Client) (r : Request) :
    (r.packets? c = none ∧ c.hand r = (.ok none, c)) ∨
      ∃ packets, r.packets? c = some packets ∧ HandedOver c packets (c.hand r) := by
  have htags (tags? : Option (List String)) :
      ((tags?.map fun tags => [Packet.connectUpdate { tags }]) = none ∧
          c.changeTags tags? = (.ok none, c)) ∨
        ∃ packets, (tags?.map fun tags => [Packet.connectUpdate { tags }]) = some packets ∧
          HandedOver c packets (c.changeTags tags?) := by
    cases tags? with
    | none => exact .inl ⟨rfl, rfl⟩
    | some tags => exact .inr ⟨_, rfl, handedOver_changeTags c tags⟩
  cases r with
  | enableDeaths => exact htags c.hub.tagsWithDeath?
  | disableDeaths => exact htags c.hub.tagsWithoutDeath?
  | _ => exact .inr ⟨_, rfl, handedOver_handPackets c _⟩

/-- What waiting for a message adds to handing it over: if it was accepted, the writer does
its work, and the hub may take note of the end. -/
def Waited (handed : Except SendError (Option Nat) × Client) (c' : Client) : Prop :=
  ((∀ number, handed.1 ≠ .ok (some number)) ∧ c' = handed.2) ∨
    ∃ number hub, handed.1 = .ok (some number) ∧ c' = { handed.2.flush with hub := hub }

theorem sendAndWait_cases (c : Client) (packets : List Packet) :
    (∃ e, (c.handPackets packets).1 = .error e ∧ c.sendAndWait packets = (.error e, c) ∧
        (c.handPackets packets).2 = c) ∨
      ∃ number verdict, (c.handPackets packets).1 = .ok (some number) ∧
        c.sendAndWait packets = (verdict, (c.handPackets packets).2.flush) := by
  unfold sendAndWait handPackets
  rcases c.send_cases packets with ⟨-, h⟩ | ⟨-, -, h⟩ | ⟨-, -, h⟩
  · rw [h]
    exact .inl ⟨_, rfl, rfl, rfl⟩
  · rw [h]
    exact .inl ⟨_, rfl, rfl, rfl⟩
  · rw [h]
    exact .inr ⟨_, _, rfl, rfl⟩

theorem waited_sendAndWait (c : Client) (packets : List Packet) :
    Waited (c.handPackets packets) (c.sendAndWait packets).2 := by
  rcases c.sendAndWait_cases packets with ⟨e, he, hc, hsame⟩ | ⟨number, verdict, hok, hc⟩
  · rw [Waited, he, hc, hsame]
    exact .inl ⟨nofun, rfl⟩
  · rw [Waited, hok, hc]
    exact .inr ⟨number, _, rfl, rfl⟩

/-- A death is logged once it is written. -/
theorem waited_sendDeath (c : Client) (d : DeathNotice) :
    Waited (c.hand (.death d)) (c.sendDeath d).2 := by
  unfold sendDeath bounce
  rcases c.sendAndWait_cases [.bounce (.tagged DeathNotice.tag d.payload)] with
    ⟨e, he, hc, hsame⟩ | ⟨number, verdict, hok, hc⟩
  · rw [Waited, hand, he, hc, hsame]
    exact .inl ⟨nofun, rfl⟩
  · rw [Waited, hand, hok, hc]
    cases verdict with
    | error e => exact .inr ⟨number, _, rfl, rfl⟩
    | ok u => exact .inr ⟨number, _, rfl, rfl⟩

theorem waited_changeTagsAndWait (c : Client) (tags? : Option (List String)) :
    Waited (c.changeTags tags?) (c.changeTagsAndWait tags?).2 := by
  unfold changeTagsAndWait
  -- It was refused, or there was nothing to tell, or there is a verdict to wait for.
  rcases hc : c.changeTags tags? with ⟨e | (_ | number), c'⟩
  · exact .inl ⟨nofun, rfl⟩
  · exact .inl ⟨nofun, rfl⟩
  · exact .inr ⟨number, _, rfl, rfl⟩

/-- **All that a request does when it is waited for.** -/
theorem waited_call (c : Client) (r : Request) : Waited (c.hand r) (c.call r) := by
  cases r with
  | raw packets => exact c.waited_sendAndWait packets
  | say text => exact c.waited_sendAndWait _
  | bounce tag data => exact c.waited_sendAndWait _
  | death d => exact c.waited_sendDeath d
  | enableDeaths => exact c.waited_changeTagsAndWait _
  | disableDeaths => exact c.waited_changeTagsAndWait _

/-- The verdict is no matter of the hub. -/
theorem verdictOn_setHub (c : Client) (hub : Hub) (handed : Except SendError (Option Nat)) :
    ({ c with hub := hub } : Client).verdictOn handed = c.verdictOn handed := by
  rcases handed with e | _ | number
  · rfl
  · rfl
  · rfl

theorem answer_sendAndWait (c : Client) (packets : List Packet) :
    ((c.sendAndWait packets).1.map fun _ => true) =
      (c.sendAndWait packets).2.verdictOn (c.handPackets packets).1 := by
  unfold sendAndWait handPackets
  rcases c.send packets with ⟨e | number, c'⟩
  · rfl
  · rfl

theorem answer_sendDeath (c : Client) (d : DeathNotice) :
    ((c.sendDeath d).1.map fun _ => true) =
      (c.sendDeath d).2.verdictOn (c.hand (.death d)).1 := by
  have hbounce := c.answer_sendAndWait [.bounce (.tagged DeathNotice.tag d.payload)]
  unfold sendDeath bounce
  rcases hc : c.sendAndWait [.bounce (.tagged DeathNotice.tag d.payload)] with ⟨e | u, c'⟩
  · rw [hc] at hbounce
    exact hbounce
  · -- The death is logged, and that is a matter of the hub.
    rw [hc] at hbounce
    exact hbounce.trans (verdictOn_setHub c' _ _).symm

theorem answer_changeTagsAndWait (c : Client) (tags? : Option (List String)) :
    (c.changeTagsAndWait tags?).1 =
      (c.changeTagsAndWait tags?).2.verdictOn (c.changeTags tags?).1 := by
  unfold changeTagsAndWait
  rcases c.changeTags tags? with ⟨e | _ | number, c'⟩
  · rfl
  · rfl
  · rfl

/-- **What is said of a request that is waited for** is the verdict on what it handed over. -/
theorem answer_eq (c : Client) (r : Request) : c.answer r = (c.call r).verdictOn (c.hand r).1 := by
  cases r with
  | raw packets => exact c.answer_sendAndWait packets
  | say text => exact c.answer_sendAndWait _
  | bounce tag data => exact c.answer_sendAndWait _
  | death d => exact c.answer_sendDeath d
  | enableDeaths => exact c.answer_changeTagsAndWait _
  | disableDeaths => exact c.answer_changeTagsAndWait _

/-! ## What is accepted -/

/-- The texts that a request adds to those accepted. -/
def taken (c : Client) (r : Request) : List String :=
  match (c.hand r).1, r.packets? c with
  | .ok (some _), some packets => [Batch.write packets]
  | _, _ => []

/-- The text that a late hand-over adds to those accepted. -/
def takenLate (c : Client) (packets : List Packet) : List String :=
  match (c.handLate packets).1 with
  | .ok _ => [Batch.write packets]
  | .error _ => []

theorem send_ok {packets : List Packet} {number : Nat} (h : (c.send packets).1 = .ok number) :
    (c.isOpen = true ∧ c.queue.length < c.capacity) ∧
      number = c.verdicts.length + c.queue.length ∧
      (c.send packets).2 = { c with queue := c.queue ++ [Batch.write packets] } := by
  rcases c.send_cases packets with ⟨-, hc⟩ | ⟨-, -, hc⟩ | ⟨hopen, hroom, hc⟩
  · rw [hc] at h
    cases h
  · rw [hc] at h
    cases h
  · rw [hc] at h
    obtain rfl := Except.ok.inj h
    rw [hc]
    exact ⟨⟨hopen, hroom⟩, rfl, rfl⟩

theorem handLate_cases (c : Client) (packets : List Packet) :
    (∃ e, c.handLate packets = (.error e, c)) ∨
      (c.queue.length < c.capacity ∧ c.writer = .running ∧
        c.handLate packets = (.ok (c.verdicts.length + c.queue.length),
          { c with queue := c.queue ++ [Batch.write packets] })) := by
  unfold handLate
  split
  · next hwriter =>
    rcases ({ c with isOpen := true } : Client).send_cases packets with
      ⟨ho, -⟩ | ⟨-, -, hc⟩ | ⟨-, hroom, hc⟩
    · cases ho
    · rw [hc]
      exact .inl ⟨_, rfl⟩
    · rw [hc]
      exact .inr ⟨hroom, hwriter, rfl⟩
  · exact .inl ⟨_, rfl⟩

end Client

/-! ## Runs -/

/-- What happens to a client. -/
inductive ClientAction where
  /-- A request that is not waited for. -/
  | hand (r : Request)
  /-- Packets handed over after the connection was found open earlier. -/
  | handLate (packets : List Packet)
  /-- A request that is waited for. -/
  | call (r : Request)
  /-- The writer takes a step. -/
  | write
  | receive (item : Incoming)
  /-- The application subscribes to what comes in, or changes the tags. -/
  | setHub (hub : Hub)
  /-- A disconnection begins: nothing is accepted any more. -/
  | shut
  | disconnect

/-- A client, and the texts it has accepted so far. -/
structure Ledger where
  client : Client
  accepted : List String

namespace Ledger

/-- One action. -/
def act (s : Ledger) : ClientAction → Ledger
  | .hand r => ⟨(s.client.hand r).2, s.accepted ++ s.client.taken r⟩
  | .handLate packets =>
    ⟨(s.client.handLate packets).2, s.accepted ++ s.client.takenLate packets⟩
  | .call r => ⟨s.client.call r, s.accepted ++ s.client.taken r⟩
  | .write => ⟨s.client.writeNext, s.accepted⟩
  | .receive item => ⟨s.client.receive item, s.accepted⟩
  | .setHub hub => ⟨{ s.client with hub := hub }, s.accepted⟩
  | .shut => ⟨s.client.shut, s.accepted⟩
  | .disconnect => ⟨s.client.disconnect.2, s.accepted⟩

/-- Actions in a row, from the start of a client on. -/
def after (c : Client) (actions : List ClientAction) : Ledger := actions.foldl act ⟨c, []⟩

/-- What each single thing that a client does keeps, about the client and what it has accepted. -/
structure Kept (P : Client → List String → Prop) : Prop where
  setHub {c : Client} {accepted : List String} (h : P c accepted) (hub : Hub) :
    P { c with hub := hub } accepted
  shut {c : Client} {accepted : List String} (h : P c accepted) : P c.shut accepted
  /-- Only a client that is open, or whose writer works, lets a text wait, and only if there is
  room. -/
  enqueue {c : Client} {accepted : List String} (h : P c accepted)
    (hworks : c.isOpen = true ∨ c.writer = .running) (hroom : c.queue.length < c.capacity)
    (text : String) : P { c with queue := c.queue ++ [text] } (accepted ++ [text])
  writeNext {c : Client} {accepted : List String} (h : P c accepted) : P c.writeNext accepted
  receive {c : Client} {accepted : List String} (h : P c accepted) (item : Incoming) :
    P (c.receive item) accepted
  finish {c : Client} {accepted : List String} (h : P c accepted) (hshut : c.isOpen = false)
    (hempty : c.writer = .running → c.queue = []) : P c.finish accepted

namespace Kept

variable {P : Client → List String → Prop} {c : Client} {accepted : List String}

theorem hand (hP : Kept P) (h : P c accepted) (r : Request) :
    P (c.hand r).2 (accepted ++ c.taken r) := by
  unfold Client.taken
  rcases c.hand_cases r with ⟨hp, hc⟩ | ⟨packets, hp, ⟨e, -, hc⟩ | ⟨number, hub, hok, hc⟩⟩
  · rw [hc, hp, List.append_nil]
    exact h
  · rw [hc, List.append_nil]
    exact h
  · obtain ⟨⟨hopen, hroom⟩, -, hsend⟩ := Client.send_ok hok
    rw [hc, hp, hsend]
    exact hP.setHub (hP.enqueue h (.inl hopen) hroom _) hub

theorem handLate (hP : Kept P) (h : P c accepted) (packets : List Packet) :
    P (c.handLate packets).2 (accepted ++ c.takenLate packets) := by
  unfold Client.takenLate
  rcases c.handLate_cases packets with ⟨e, hc⟩ | ⟨hroom, hwriter, hc⟩
  · rw [hc, List.append_nil]
    exact h
  · rw [hc]
    exact hP.enqueue h (.inr hwriter) hroom _

theorem flush (hP : Kept P) (h : P c accepted) : P c.flush accepted :=
  Client.flush_induction (P := fun d => P d accepted) h fun _ hd => hP.writeNext hd

theorem call (hP : Kept P) (h : P c accepted) (r : Request) :
    P (c.call r) (accepted ++ c.taken r) := by
  rcases c.waited_call r with ⟨-, hc⟩ | ⟨number, hub, -, hc⟩
  · rw [hc]
    exact hP.hand h r
  · rw [hc]
    exact hP.setHub (hP.flush (hP.hand h r)) hub

theorem disconnect (hP : Kept P) (h : P c accepted) : P c.disconnect.2 accepted := by
  rcases c.disconnect_cases with ⟨-, hc⟩ | hc
  · rw [hc]
    exact hP.shut h
  · rw [hc]
    exact hP.finish (hP.flush (hP.shut h)) (Client.flush_isOpen rfl) Client.queue_flush

/-- **What each single thing keeps, every action keeps.** -/
theorem act (hP : Kept P) {s : Ledger} (h : P s.client s.accepted) (a : ClientAction) :
    P (s.act a).client (s.act a).accepted := by
  cases a with
  | hand r => exact hP.hand h r
  | handLate packets => exact hP.handLate h packets
  | call r => exact hP.call h r
  | write => exact hP.writeNext h
  | receive item => exact hP.receive h item
  | setHub hub => exact hP.setHub h hub
  | shut => exact hP.shut h
  | disconnect => exact hP.disconnect h

theorem foldl (hP : Kept P) {s : Ledger} (h : P s.client s.accepted)
    (actions : List ClientAction) :
    P (actions.foldl Ledger.act s).client (actions.foldl Ledger.act s).accepted := by
  induction actions generalizing s with
  | nil => exact h
  | cons a actions ih => exact ih (hP.act h a)

end Kept

/-- **No action loses a text.** -/
theorem kept_keeps (capacity : Nat) : Kept (Client.Keeps capacity) where
  setHub h hub := h.setHub hub
  shut h := h.shut
  enqueue h _ hroom text := h.enqueue hroom text
  writeNext h := h.writeNext
  receive h item := h.receive item
  finish h hshut _ := h.finish hshut

/-- **What is on the wire stays there.** -/
theorem kept_wire (frames : List Frame) : Kept fun c _ => frames <+: c.wire where
  setHub h _ := h
  shut h := h
  enqueue h _ _ _ := h
  writeNext h := h.trans (Client.wire_prefix_writeNext _)
  receive h item := h.trans (Client.wire_prefix_receive _ item)
  finish h _ _ := h.trans (Client.wire_prefix_finish _)

end Ledger

namespace Client

variable {c : Client} {capacity : Nat} {accepted : List String}

/-! ## Order -/

/-- A client whose accepted texts are on the wire or wait, in the order of their acceptance. -/
structure Orderly (capacity : Nat) (c : Client) (accepted : List String) : Prop where
  bounded : c.queue.length ≤ capacity
  /-- While the client is open, only a full queue refuses anything. -/
  full_iff : c.isOpen = true → ∀ r packets, r.packets? c = some packets →
    ((c.hand r).1 = .error (.queueFull capacity) ↔ c.queue.length = capacity)
  /-- What is accepted has the next number. -/
  numbered : c.isOpen = true → ∀ r packets, r.packets? c = some packets →
    c.queue.length < capacity → (c.hand r).1 = .ok (some accepted.length)
  /-- What is refused leaves everything as it is. -/
  refused : ∀ r e, (c.hand r).1 = .error e → (c.hand r).2 = c ∧ c.call r = c
  /-- What is said of a request that is waited for is the verdict on what it handed over. -/
  answered : ∀ r, c.answer r = (c.call r).verdictOn (c.hand r).1
  refused_late : ∀ packets e, (c.handLate packets).1 = .error e → (c.handLate packets).2 = c
  /-- If no write failed, nothing is lost, doubled, split, merged or reordered. -/
  conserved : (∀ e, .error e ∉ c.verdicts) →
    Frame.messages c.wire ++ c.queue.map Text.encode = accepted.map Text.encode
  /-- The verdict on a text is good exactly if it is on the wire. -/
  delivered : ∀ number text, accepted[number]? = some text →
    (c.verdict number = .ok () ↔ (Frame.messages c.wire)[number]? = some (Text.encode text))
  /-- Disconnecting writes all that waits, and then the closing frame. -/
  flushed : c.connection.state.isOpen = true →
    c.disconnect.1 = .ok () ∧ c.disconnect.2.queue = [] ∧
      c.disconnect.2.wire = c.wire ++ (c.queue.flatMap fun text =>
        Frame.ofMessage c.connection.chunk (Text.encode text)) ++ [.close] ∧
      Frame.messages c.disconnect.2.wire = accepted.map Text.encode
  /-- Nothing is ever written behind a closing frame. -/
  last : ∀ before behind, c.wire = before ++ .close :: behind → behind = []
  silent : .close ∈ c.wire → ∀ a, (Ledger.act ⟨c, accepted⟩ a).client.wire = c.wire

theorem Keeps.full_iff (h : Keeps capacity c accepted) (hopen : c.isOpen = true) (r : Request)
    {packets : List Packet} (hp : r.packets? c = some packets) :
    ((c.hand r).1 = .error (.queueFull capacity) ↔ c.queue.length = capacity) ∧
      (c.queue.length < capacity → (c.hand r).1 = .ok (some accepted.length)) := by
  have hnumber := h.length_eq
  obtain ⟨written, dropped, hb, -⟩ := h
  have hcapacity := hb.capacity_eq
  have hle := hb.length_le
  rcases c.hand_cases r with ⟨hnone, -⟩ | ⟨packets', hp', hc⟩
  · rw [hp] at hnone
    cases hnone
  obtain rfl := Option.some.inj (hp.symm.trans hp')
  -- An open client refuses only if there is no room.
  rcases c.send_cases packets with ⟨hshut, -⟩ | ⟨-, hfull, hsend⟩ | ⟨-, hroom, hsend⟩
  · rw [hopen] at hshut
    cases hshut
  · have hhand : (c.hand r).1 = .error (.queueFull c.capacity) := by
      rcases hc with ⟨e, he, hc⟩ | ⟨number, hub, hok, -⟩
      · rw [hsend] at he
        rw [hc, ← Except.error.inj he]
      · rw [hsend] at hok
        cases hok
    rw [hcapacity] at hfull hhand
    refine ⟨iff_of_true hhand (Nat.le_antisymm hle hfull), fun hlt => ?_⟩
    exact absurd hfull (Nat.not_le.mpr hlt)
  · have hhand : (c.hand r).1 = .ok (some accepted.length) := by
      rcases hc with ⟨e, he, -⟩ | ⟨number, hub, hok, hc⟩
      · rw [hsend] at he
        cases he
      · rw [hsend] at hok
        rw [hc, ← Except.ok.inj hok, hnumber]
    rw [hcapacity] at hroom
    exact ⟨iff_of_false (by rw [hhand]; nofun) (Nat.ne_of_lt hroom), fun _ => hhand⟩

theorem hand_error {r : Request} {e : SendError} (h : (c.hand r).1 = .error e) :
    (c.hand r).2 = c ∧ c.call r = c := by
  have hsame : (c.hand r).2 = c := by
    rcases c.hand_cases r with ⟨-, hc⟩ | ⟨packets, -, ⟨e', -, hc⟩ | ⟨number, hub, -, hc⟩⟩
    · rw [hc]
    · rw [hc]
    · rw [hc] at h
      cases h
  refine ⟨hsame, ?_⟩
  rcases c.waited_call r with ⟨-, hc⟩ | ⟨number, hub, hok, -⟩
  · rw [hc, hsame]
  · rw [h] at hok
    cases hok

/-- The verdict on a text is good exactly if it is among those written. -/
theorem verdict_iff {written : List String} {errors : List SendError}
    (h : c.verdicts = written.map (fun _ => .ok ()) ++ errors.map .error) (number : Nat) :
    c.verdict number = .ok () ↔ number < written.length := by
  unfold verdict
  rw [h]
  by_cases hn : number < written.length
  · rw [List.getElem?_append_left (by rw [List.length_map]; exact hn), List.getElem?_map,
      List.getElem?_eq_getElem hn]
    exact iff_of_true rfl hn
  · rw [List.getElem?_append_right (by rw [List.length_map]; exact Nat.le_of_not_lt hn),
      List.getElem?_map]
    refine iff_of_false ?_ hn
    cases errors[number - (written.map fun _ => (.ok () : Except SendError Unit)).length]? with
    | none => nofun
    | some e => nofun

theorem Keeps.delivered (h : Keeps capacity c accepted) {number : Nat} {text : String}
    (htext : accepted[number]? = some text) :
    c.verdict number = .ok () ↔ (Frame.messages c.wire)[number]? = some (Text.encode text) := by
  obtain ⟨written, dropped, hb, rfl⟩ := h
  obtain ⟨errors, -, hverdicts⟩ := hb.verdicts_eq
  rw [verdict_iff hverdicts, hb.messages_wire, List.getElem?_map]
  by_cases hn : number < written.length
  · rw [List.append_assoc, List.getElem?_append_left hn] at htext
    rw [htext]
    exact iff_of_true hn rfl
  · rw [List.getElem?_eq_none (Nat.le_of_not_lt hn)]
    exact iff_of_false hn nofun

theorem Keeps.conserved (h : Keeps capacity c accepted) (hgood : ∀ e, .error e ∉ c.verdicts) :
    Frame.messages c.wire ++ c.queue.map Text.encode = accepted.map Text.encode := by
  obtain ⟨written, dropped, hb, rfl⟩ := h
  obtain ⟨errors, hlength, hverdicts⟩ := hb.verdicts_eq
  -- Without a bad verdict nothing was given up.
  cases errors with
  | nil =>
    obtain rfl := List.eq_nil_of_length_eq_zero hlength.symm
    rw [hb.messages_wire, List.append_nil, List.map_append]
  | cons e errors =>
    refine absurd ?_ (hgood e)
    rw [hverdicts]
    exact List.mem_append_right _ List.mem_cons_self

theorem Keeps.flushed (h : Keeps capacity c accepted) (hopen : c.connection.state.isOpen = true) :
    c.disconnect.1 = .ok () ∧ c.disconnect.2.queue = [] ∧
      c.disconnect.2.wire = c.wire ++ (c.queue.flatMap fun text =>
        Frame.ofMessage c.connection.chunk (Text.encode text)) ++ [.close] ∧
      Frame.messages c.disconnect.2.wire = accepted.map Text.encode := by
  obtain ⟨written, dropped, hb, rfl⟩ := h
  have hwriter := hb.writer_eq hopen
  obtain rfl := hb.dropped_eq_nil hwriter
  rw [disconnect_of_open hwriter hopen hb.clear]
  refine ⟨rfl, rfl, rfl, ?_⟩
  rw [Frame.messages_append_close, Frame.messages_append_flatMap, hb.messages_wire,
    List.append_nil, List.map_append]

theorem Keeps.last (h : Keeps capacity c accepted) (before : List Frame) {behind : List Frame}
    (hwire : c.wire = before ++ .close :: behind) : behind = [] := by
  obtain ⟨written, dropped, hb, -⟩ := h
  obtain ⟨frames, hclose, hframes | ⟨hframes, -⟩⟩ := hb.wire_eq
  · rw [hframes] at hwire
    rw [hwire] at hclose
    exact absurd (List.mem_append_right _ List.mem_cons_self) hclose
  · -- The one closing frame is the last frame, so none comes earlier.
    rw [hframes] at hwire
    rcases List.append_eq_append_iff.mp hwire with ⟨more, hbefore, hmore⟩ | ⟨more, hbefore, hmore⟩
    · cases more with
      | nil => exact (List.cons.inj hmore).2.symm
      | cons f more =>
        have hlength := congrArg List.length hmore
        simp at hlength
    · cases more with
      | nil => exact (List.cons.inj hmore).2
      | cons f more =>
        obtain ⟨rfl, -⟩ := List.cons.inj hmore
        rw [hbefore] at hclose
        exact absurd (List.mem_append_right _ List.mem_cons_self) hclose

theorem Keeps.silent (h : Keeps capacity c accepted) (hclose : .close ∈ c.wire) (a : ClientAction) :
    (Ledger.act ⟨c, accepted⟩ a).client.wire = c.wire := by
  -- The next client is in order too, so what it wrote more would be behind the closing frame.
  obtain ⟨before, behind, hwire⟩ := List.append_of_mem hclose
  obtain rfl := h.last before hwire
  obtain ⟨more, hmore⟩ := (Ledger.kept_wire c.wire).act (s := ⟨c, accepted⟩) (List.prefix_refl _) a
  have hnext := (Ledger.kept_keeps capacity).act (s := ⟨c, accepted⟩) h a
  have hlast : more = [] := by
    refine hnext.last before ?_
    rw [← hmore, hwire, List.append_assoc]
    rfl
  rw [← hmore, hlast, List.append_nil]

theorem Keeps.orderly (h : Keeps capacity c accepted) : Orderly capacity c accepted where
  bounded := by
    obtain ⟨written, dropped, hb, -⟩ := h
    exact hb.length_le
  full_iff hopen r _ hp := (h.full_iff hopen r hp).1
  numbered hopen r _ hp := (h.full_iff hopen r hp).2
  refused _ _ := hand_error
  answered := c.answer_eq
  refused_late packets e he := by
    rcases c.handLate_cases packets with ⟨e', hc⟩ | ⟨-, -, hc⟩
    · rw [hc]
    · rw [hc] at he
      cases he
  conserved := h.conserved
  delivered _ _ := h.delivered
  flushed := h.flushed
  last before _ := h.last before
  silent := h.silent

/-- **From its start on, a client is orderly**, whatever it is asked to send, whatever comes in,
and whenever the writer takes its steps. -/
theorem orderly_after {s : ClientSettings} {w : World} (h : start s w none = .ok c)
    (actions : List ClientAction) :
    Orderly s.queueCapacity.toNat (Ledger.after c actions).client
      (Ledger.after c actions).accepted :=
  ((Ledger.kept_keeps _).foldl (keeps_start h) actions).orderly

theorem orderly_after_disconnect :
    ∃ c, start {} {} none = .ok c ∧
      Orderly 256 (Ledger.after c [.hand (.say "a"), .hand .enableDeaths, .disconnect]).client
        (Ledger.after c [.hand (.say "a"), .hand .enableDeaths, .disconnect]).accepted :=
  ⟨_, rfl, orderly_after (s := {}) (w := {}) rfl _⟩

end Client

end Multiworld
