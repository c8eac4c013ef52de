import Multiworld.Proofs.Frame.Splitting
import Multiworld.Proofs.Link.Life

/-!
# What the peer reads of what is sent

Whatever happens on a line, as long as no message meets a write that fails, the messages that are
sent on it are written one behind the other, each cut as it should be. So the peer can split the
frames into messages, and gets those that were sent, in order. Closing frames are looked past, and
nothing else is ever written.

## Main definitions

* `Line.sent`: the texts that are sent along a run
* `Line.frames`: the frames that are written along a run
* `Line.NoSendFails`: a run on which no message meets a write that fails
* `Line.ReadsAsSent`: how what is sent is cut, and how it is read

## Main results

* `Line.noSendFails_of_clear`: runs on which no write fails
* `Line.messageFrames_step`, `Line.messageFrames_run`: what is written in a step and along a run
* `Line.readsAsSent`: how messages are cut, and the only way to split their frames
-/

namespace Multiworld

namespace Connection

variable (c : Connection)

theorem chunk_step (a : LinkAction) : (c.step a).2.chunk = c.chunk := by
  cases a with
  | established =>
    rw [step]
    split <;> rfl
  | send text =>
    rw [step]
    split <;> rfl
  | close =>
    rw [step]
    split <;> rfl
  | receive item =>
    rw [step]
    split
    · cases item with
      | close => exact c.chunk_answer
      | _ => rfl
    · rfl

/-- What comes in is answered by nothing but a closing frame. -/
theorem frames_step_receive (item : Incoming) : (c.step (.receive item)).1.frames ⊆ [.close] := by
  rw [step]
  split
  · cases item with
    | close => exact c.frames_answer_subset
    | _ => exact List.nil_subset _
  · exact List.nil_subset _

end Connection

namespace Line

/-- The text that is sent in a step, if one is. -/
def sentBy (l : Line) : LineAction → Option String
  | .act (.send text) =>
    match (l.step (.act (.send text))).1.result with
    | .ok () => some text
    | .error _ => none
  | _ => none

/-- The texts that are sent along some steps. -/
def sent : Line → List LineAction → List String
  | _, [] => []
  | l, a :: rest => (l.sentBy a).toList ++ sent (l.step a).2 rest

/-- The frames that are written along some steps. -/
def frames : Line → List LineAction → List Frame
  | _, [] => []
  | l, a :: rest => (l.step a).1.frames ++ frames (l.step a).2 rest

/-- Whether a step sends a message whose write fails. -/
def FailsToSend (l : Line) (a : LineAction) : Prop :=
  ∃ text cause, a = .act (.send text) ∧ (l.step a).1.result = .error (.sendFailed cause)

/-- Along some steps, no message meets a write that fails. -/
def NoSendFails : Line → List LineAction → Prop
  | _, [] => True
  | l, a :: rest => ¬ l.FailsToSend a ∧ NoSendFails (l.step a).2 rest

variable (l : Line)

theorem chunk_step (a : LineAction) : (l.step a).2.connection.chunk = l.connection.chunk := by
  cases l with
  | reading c =>
    cases a with
    | act a => exact c.chunk_step a
    | answer =>
      rw [step]
      split
      · exact c.chunk_answer
      · rfl
    | answered => rfl
  | answering =>
    cases a with
    | act a => cases a <;> rfl
    | answer => rfl
    | answered => rfl

/-- Only sending writes anything but a closing frame. -/
theorem frames_step_subset {a : LineAction} (h : ∀ text, a ≠ .act (.send text)) :
    (l.step a).1.frames ⊆ [.close] := by
  cases l with
  | reading c =>
    cases a with
    | act a =>
      cases a with
      | established =>
        rw [step, Connection.step]
        split <;> exact List.nil_subset _
      | send text => exact absurd rfl (h text)
      | close =>
        rw [step, Connection.step]
        split
        · exact c.frames_write_subset _
        · exact List.nil_subset _
      | receive item => exact c.frames_step_receive item
    | answer =>
      rw [step]
      split
      · exact c.frames_answer_subset
      · exact List.nil_subset _
    | answered => exact List.nil_subset _
  | answering =>
    cases a with
    | act a => cases a <;> exact List.nil_subset _
    | answer => exact List.nil_subset _
    | answered => exact List.nil_subset _

variable {l : Line}

/-- If the write of a message does not fail, all its frames are out. -/
theorem step_send_of_not_fails (h : l.state = .open) {text : String}
    (hwritten : ¬ l.FailsToSend (.act (.send text))) :
    (l.step (.act (.send text))).1.result = .ok () ∧
      (l.step (.act (.send text))).1.frames =
        Frame.ofMessage l.connection.chunk (Text.encode text) := by
  cases l with
  | reading c =>
    have hopen : c.state.isOpen = true := decide_eq_true h
    cases hwrite : c.outcomes.head?.join with
    | none =>
      rw [step, c.step_send_of_none hopen hwrite]
      exact ⟨rfl, rfl⟩
    | some f =>
      refine absurd ⟨text, f.cause, rfl, ?_⟩ hwritten
      rw [step, c.step_send_of_some hopen hwrite]
  | answering => cases h

/-- If no write fails at all, no message meets one that does. -/
theorem noSendFails_of_clear (h : l.connection.outcomes = []) (actions : List LineAction) :
    l.NoSendFails actions := by
  induction actions generalizing l with
  | nil => trivial
  | cons a actions ih =>
    refine ⟨?_, ih (clear_step h a)⟩
    rintro ⟨text, cause, rfl, hfails⟩
    by_cases hopen : l.state = .open
    · rw [step_send_of_open hopen h] at hfails
      cases hfails
    · rw [step_send_of_over hopen] at hfails
      cases hfails

/-- **What is written in a step** is the message that is sent, if one is. -/
theorem messageFrames_step {a : LineAction} (hwritten : ¬ l.FailsToSend a) :
    Frame.messageFrames (l.step a).1.frames =
      ((l.sentBy a).toList.map Text.encode).flatMap (Frame.ofMessage l.connection.chunk) := by
  by_cases hsend : ∃ text, a = .act (.send text)
  · obtain ⟨text, rfl⟩ := hsend
    rw [sentBy]
    by_cases hopen : l.state = .open
    · obtain ⟨hresult, hframes⟩ := step_send_of_not_fails hopen hwritten
      rw [hresult, hframes, Frame.messageFrames_ofMessage]
      exact (List.flatMap_singleton _ _).symm
    · rw [step_send_of_over hopen]
      rfl
  · -- Nothing else sends, so no part of a message is written.
    have hnone : l.sentBy a = none := by
      unfold sentBy
      split
      · exact absurd ⟨_, rfl⟩ hsend
      · rfl
    have hwritten : (l.step a).1.frames ⊆ [.close] := by
      apply l.frames_step_subset
      intro text h
      exact hsend ⟨text, h⟩
    simp [hnone, Frame.messageFrames_of_subset hwritten]

/-- **What is written along a run** are the messages that are sent. -/
theorem messageFrames_run {actions : List LineAction} (hwritten : l.NoSendFails actions) :
    Frame.messageFrames (l.frames actions) =
      ((l.sent actions).map Text.encode).flatMap (Frame.ofMessage l.connection.chunk) := by
  induction actions generalizing l with
  | nil => rfl
  | cons a actions ih =>
    -- The size of slices is the same after the step.
    simp only [frames, sent, Frame.messageFrames_append, messageFrames_step hwritten.1,
      ih hwritten.2, chunk_step, List.map_append, List.flatMap_append]

/-- How messages are cut, and how what is sent on a line is read. -/
structure ReadsAsSent (l : Line) : Prop where
  /-- A message gives slice after slice, as many as it should, and then nothing more. The first of
  them begins a text, and the others go on with it. -/
  cut : ∀ chunk message, ∃ pieces, IsCut chunk message pieces ∧
    (∀ n, (Cutting.start chunk message).answers (pieces.length + n) =
      pieces.map some ++ List.replicate n none) ∧
    Frame.ofMessage chunk message = Frame.ofSlices pieces
  /-- There is one way to read the frames as messages, and it gives those that are sent, as long as
  none of them meets a write that fails. -/
  splits_iff : ∀ actions, l.NoSendFails actions → ∀ groups messages,
    Frame.Splits (Frame.messageFrames (l.frames actions)) groups messages ↔
      messages = (l.sent actions).map Text.encode ∧
        groups = messages.map (Frame.ofMessage l.connection.chunk)

/-- **What the peer reads of what is sent** are the messages that are sent, in order. -/
theorem readsAsSent (l : Line) : l.ReadsAsSent where
  cut chunk message := by
    refine ⟨slices chunk message, slices_isCut chunk message, ?_, rfl⟩
    intro n
    exact Cutting.answers_start chunk message n
  splits_iff actions hwritten groups messages := by
    rw [messageFrames_run hwritten, Frame.splits_iff, and_comm]
    constructor
    · rintro ⟨rfl, rfl⟩
      exact ⟨rfl, rfl⟩
    · rintro ⟨rfl, rfl⟩
      exact ⟨rfl, rfl⟩

end Line

end Multiworld
