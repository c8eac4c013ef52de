import Multiworld.Proofs.Client.Departure

/-!
# Writes that fail

The socket may fail a client at any write, and leave it in doubt how much of the text is out. The
client gives up there: that text and all behind it have a verdict that says so, and nothing is
accepted any more. So nothing is lost in silence, whatever becomes of the writes.

## Main definitions

* `Client.Rests`: a client that has nothing to write any more
* `Client.Intact`, `Client.GaveUp`: a client whose writes have succeeded so far, and one that gave
  up at a text
* `Client.Settled`: one or the other, and what it has accepted

## Main results

* `Client.kept_settled`: every action leaves a client settled
* `Client.answered_after`: nothing is lost in silence
-/

namespace Multiworld

namespace Client

variable {c : Client} {written behind accepted : List String} {text : String}

/-! ## Before and after a failure -/

/-- A client that has nothing to write any more, and accepts nothing. -/
structure Rests (c : Client) : Prop where
  queue_eq : c.queue = []
  isOpen_eq : c.isOpen = false

/-- A client whose writes have succeeded so far. -/
structure Intact (c : Client) (written : List String) : Prop where
  writer_eq : c.writer = .running ∨ c.writer = .joined ∧ c.Rests
  verdicts_eq : c.verdicts = written.map fun _ => .ok ()
  messages_wire : Frame.messages c.wire = written.map Text.encode

/-- A client that gave up at a text. -/
structure GaveUp (c : Client) (written : List String) (text : String) (behind : List String) :
    Prop where
  rests : c.Rests
  /-- That text is told why, and those behind it are told that an earlier one failed. -/
  verdicts_eq : ∃ e, (c.writer = .failed e ∨ c.writer = .joined) ∧
    c.verdicts = written.map (fun _ => .ok ()) ++ (writeErrors e behind).map .error
  /-- All of that text may be out, but nothing behind it is. -/
  messages_wire : Frame.messages c.wire = written.map Text.encode ∨
    Frame.messages c.wire = (written ++ [text]).map Text.encode

/-- What a client has accepted is written or waits; or it is written up to the text at which the
client gave up. -/
def Settled (c : Client) (accepted : List String) : Prop :=
  (∃ written, c.Intact written ∧ accepted = written ++ c.queue) ∨
    ∃ written text behind, c.GaveUp written text behind ∧ accepted = written ++ text :: behind

theorem GaveUp.writer_ne (h : c.GaveUp written text behind) : c.writer ≠ .running := by
  obtain ⟨e, hwriter, -⟩ := h.verdicts_eq
  rcases hwriter with hwriter | hwriter
  · rw [hwriter]
    nofun
  · rw [hwriter]
    nofun

/-! ## Actions -/

theorem Rests.not_works (h : c.Rests) (hwriter : c.writer ≠ .running) :
    ¬ (c.isOpen = true ∨ c.writer = .running) := by
  rintro (hopen | hrunning)
  · rw [h.isOpen_eq] at hopen
    cases hopen
  · exact hwriter hrunning

theorem Settled.enqueue (h : c.Settled accepted) (hworks : c.isOpen = true ∨ c.writer = .running)
    (text : String) :
    Settled { c with queue := c.queue ++ [text] } (accepted ++ [text]) := by
  rcases h with ⟨written, hi, rfl⟩ | ⟨written, failed, behind, hg, rfl⟩
  · refine .inl ⟨written, { hi with writer_eq := ?_ }, List.append_assoc _ _ _⟩
    rcases hi.writer_eq with hrunning | ⟨hjoined, hrests⟩
    · exact .inl hrunning
    · exact absurd hworks (hrests.not_works (by rw [hjoined]; nofun))
  · exact absurd hworks (hg.rests.not_works hg.writer_ne)

theorem Settled.writeNext (h : c.Settled accepted) : c.writeNext.Settled accepted := by
  rcases c.writeNext_cases with ⟨-, hc⟩ | ⟨text, rest, hwriter, hqueue, hstep⟩
  · rw [hc]
    exact h
  rcases h with ⟨written, hi, rfl⟩ | ⟨written, failed, behind, hg, -⟩
  · rcases hstep with ⟨hok, hc⟩ | ⟨e, he, hc⟩
    · -- The text is written, and is the latest one.
      rw [hc, hqueue]
      refine .inl ⟨written ++ [text], ⟨.inl hwriter, ?_, ?_⟩, List.append_cons _ _ _⟩
      · rw [hi.verdicts_eq, List.map_append]
        rfl
      · rcases c.connection.step_send_cases text with ⟨-, hframes⟩ | ⟨e, n, he, -⟩
        · rw [hframes, Frame.messages_append_ofMessage, hi.messages_wire, List.map_append]
          rfl
        · rw [he] at hok
          cases hok
    · -- All that waits is given up, and the first of it may be out.
      rw [hc, hqueue]
      refine .inr ⟨written, text, rest, ⟨⟨rfl, rfl⟩, ⟨e, .inl rfl, ?_⟩, ?_⟩, rfl⟩
      · rw [hi.verdicts_eq]
      · rcases c.connection.step_send_cases text with ⟨hok, -⟩ | ⟨e', n, -, hframes⟩
        · rw [hok] at he
          cases he
        · rw [hframes, List.map_append, ← hi.messages_wire]
          exact Frame.messages_append_take _ _ _ n
  · exact absurd hwriter hg.writer_ne

theorem Settled.receive (h : c.Settled accepted) (item : Incoming) :
    (c.receive item).Settled accepted := by
  obtain ⟨hub, isOpen, hc, hopen⟩ := c.receive_eq item
  have hmessages : Frame.messages (c.wire ++ (c.connection.step (.receive item)).1.frames) =
      Frame.messages c.wire := by
    apply Frame.messages_append_closing
    rcases (taken_receive c.connection item).cases with ⟨-, hframes⟩ | ⟨-, -, hframes⟩
    · exact .inl hframes
    · exact hframes.imp_right And.right
  have hrests (hr : c.Rests) : (c.receive item).Rests := by
    refine ⟨?_, (onward_receive c item).shut hr.isOpen_eq⟩
    rw [hc]
    exact hr.queue_eq
  rw [hc] at hrests ⊢
  rcases h with ⟨written, hi, rfl⟩ | ⟨written, text, behind, hg, rfl⟩
  · exact .inl ⟨written, { hi with
      writer_eq := hi.writer_eq.imp_right fun hw => ⟨hw.1, hrests hw.2⟩
      messages_wire := hmessages.trans hi.messages_wire }, rfl⟩
  · refine .inr ⟨written, text, behind, { hg with
      rests := hrests hg.rests
      messages_wire := ?_ }, rfl⟩
    rw [hmessages]
    exact hg.messages_wire

theorem Settled.finish (h : c.Settled accepted) (hshut : c.isOpen = false)
    (hempty : c.writer = .running → c.queue = []) : c.finish.Settled accepted := by
  obtain ⟨connection, closing, hclosing, hc⟩ := c.finish_eq
  have hmessages := Frame.messages_append_closing c.wire hclosing
  rw [hc]
  rcases h with ⟨written, hi, rfl⟩ | ⟨written, text, behind, hg, rfl⟩
  · -- The writer has taken all that waited, and now it has ended.
    have hqueue : c.queue = [] := by
      rcases hi.writer_eq with hrunning | ⟨-, hrests⟩
      · exact hempty hrunning
      · exact hrests.queue_eq
    exact .inl ⟨written, { hi with
      writer_eq := .inr ⟨rfl, hqueue, hshut⟩
      messages_wire := hmessages.trans hi.messages_wire }, rfl⟩
  · obtain ⟨e, -, hverdicts⟩ := hg.verdicts_eq
    refine .inr ⟨written, text, behind, {
      rests := ⟨hg.rests.queue_eq, hshut⟩
      verdicts_eq := ⟨e, .inr rfl, hverdicts⟩
      messages_wire := ?_ }, rfl⟩
    rw [hmessages]
    exact hg.messages_wire

/-- **Every action leaves a client settled**, whatever becomes of its writes. -/
theorem kept_settled : Ledger.Kept Settled where
  setHub h hub := by
    rcases h with ⟨written, hi, rfl⟩ | ⟨written, text, behind, hg, rfl⟩
    · refine .inl ⟨written, { hi with writer_eq := ?_ }, rfl⟩
      exact hi.writer_eq.imp_right fun hw => ⟨hw.1, { hw.2 with }⟩
    · exact .inr ⟨written, text, behind, { hg with rests := { hg.rests with } }, rfl⟩
  shut h := by
    rcases h with ⟨written, hi, rfl⟩ | ⟨written, text, behind, hg, rfl⟩
    · refine .inl ⟨written, { hi with writer_eq := ?_ }, rfl⟩
      exact hi.writer_eq.imp_right fun hw => ⟨hw.1, hw.2.queue_eq, rfl⟩
    · exact .inr ⟨written, text, behind, { hg with rests := ⟨hg.rests.queue_eq, rfl⟩ }, rfl⟩
  enqueue h hworks _ text := h.enqueue hworks text
  writeNext h := h.writeNext
  receive h item := h.receive item
  finish h hshut hempty := h.finish hshut hempty

theorem settled_start {s : ClientSettings} {w : World} {outcomes : List (Option WriteFailure)}
    (h : start s w none outcomes = .ok c) : c.Settled [] := by
  obtain ⟨connection, -, h⟩ := bind_eq_ok_iff.mp h
  dsimp only at h
  split at h
  · cases h
  obtain rfl := Except.ok.inj h
  exact .inl ⟨[], ⟨.inl rfl, rfl, rfl⟩, rfl⟩

/-! ## Verdicts -/

/-- What is on the wire is accepted, and nothing before it is missing. -/
theorem Settled.messages_prefix (h : c.Settled accepted) :
    Frame.messages c.wire <+: accepted.map Text.encode := by
  rcases h with ⟨written, hi, rfl⟩ | ⟨written, text, behind, hg, rfl⟩
  · rw [hi.messages_wire, List.map_append]
    exact List.prefix_append _ _
  · rcases hg.messages_wire with hwire | hwire
    · rw [hwire, List.map_append]
      exact List.prefix_append _ _
    · rw [hwire, List.append_cons written text behind]
      exact (List.prefix_append _ _).map _

/-- There are good verdicts on the texts written, which are on the wire, and on no others. -/
theorem Settled.exists_written (h : c.Settled accepted) :
    ∃ (written : List String) (errors : List SendError),
      c.verdicts = written.map (fun _ => .ok ()) ++ errors.map .error ∧
        written.map Text.encode <+: Frame.messages c.wire := by
  rcases h with ⟨written, hi, -⟩ | ⟨written, text, behind, hg, -⟩
  · refine ⟨written, [], ?_, ?_⟩
    · rw [hi.verdicts_eq, List.map_nil, List.append_nil]
    · rw [hi.messages_wire]
  · obtain ⟨e, -, hverdicts⟩ := hg.verdicts_eq
    refine ⟨written, writeErrors e behind, hverdicts, ?_⟩
    rcases hg.messages_wire with hwire | hwire
    · rw [hwire]
    · rw [hwire, List.map_append]
      exact List.prefix_append _ _

/-- A text on which there is a good verdict is on the wire. -/
theorem Settled.delivered (h : c.Settled accepted) {number : Nat}
    (htext : accepted[number]? = some text) (hgood : c.verdict number = .ok ()) :
    (Frame.messages c.wire)[number]? = some (Text.encode text) := by
  obtain ⟨written, errors, hverdicts, hwritten⟩ := h.exists_written
  have hnumber : number < (Frame.messages c.wire).length := by
    have hlength := hwritten.length_le
    rw [List.length_map] at hlength
    exact Nat.lt_of_lt_of_le ((verdict_iff hverdicts number).mp hgood) hlength
  have hsame := List.prefix_iff_getElem?.mp h.messages_prefix number hnumber
  rw [List.getElem?_map, htext] at hsame
  rw [List.getElem?_eq_getElem hnumber]
  exact hsame.symm

/-- Once the writer has ended, there is a verdict on everything. -/
theorem Settled.length_verdicts (h : c.Settled accepted) (hwriter : c.writer ≠ .running) :
    c.verdicts.length = accepted.length := by
  rcases h with ⟨written, hi, rfl⟩ | ⟨written, text, behind, hg, rfl⟩
  · rcases hi.writer_eq with hrunning | ⟨-, hrests⟩
    · exact absurd hrunning hwriter
    · rw [hi.verdicts_eq, hrests.queue_eq, List.append_nil, List.length_map]
  · obtain ⟨e, -, hverdicts⟩ := hg.verdicts_eq
    rw [hverdicts, writeErrors]
    simp

/-- **Nothing is lost in silence**, whatever becomes of the writes. The messages on the wire are
the first of those accepted, in that order. One on which there is a good verdict is among them.
And once a client was disconnected, there is a verdict on all it has accepted. -/
theorem answered_after {s : ClientSettings} {w : World} {outcomes : List (Option WriteFailure)}
    (h : start s w none outcomes = .ok c) (actions : List ClientAction) :
    let d := (Ledger.after c actions).client
    let accepted := (Ledger.after c actions).accepted
    Frame.messages d.wire <+: accepted.map Text.encode ∧
      (∀ number text, accepted[number]? = some text → d.verdict number = .ok () →
        (Frame.messages d.wire)[number]? = some (Text.encode text)) ∧
      (.disconnect ∈ actions → d.verdicts.length = accepted.length) := by
  intro d accepted
  have hsettled : d.Settled accepted := kept_settled.foldl (settled_start h) actions
  refine ⟨hsettled.messages_prefix, fun _ _ => hsettled.delivered, ?_⟩
  intro hdisconnect
  apply hsettled.length_verdicts
  rw [joined_after c hdisconnect]
  nofun

/-- The second of three texts cannot be written. -/
example :
    ∃ c, start {} {} none [none, some { cause := { text := "broken pipe" } }] = .ok c ∧
      (Ledger.after c [.hand (.say "a"), .hand (.say "b"), .hand (.say "c"),
        .disconnect]).client.verdicts = [.ok (),
          .error (.sendFailed { text := "send failed: broken pipe" }),
          .error (.connectionClosed "an earlier write failed: send failed: broken pipe")] :=
  ⟨_, rfl, rfl⟩

end Client

end Multiworld
