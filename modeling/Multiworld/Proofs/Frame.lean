import Multiworld.Frame

/-!
# Messages in a run of frames

The frames of a message, written behind any frames, add that message and no other to the
run. Nothing has to be known of the frames before, since every message begins with a frame
that says so.

## Main results

* `Frame.messages_append_ofMessage`: a message more
* `Frame.messages_append_take`: the first frames of a message
* `Frame.messages_append_close`: a closing frame is no message
-/

namespace Multiworld

namespace Frame

variable (chunk : ChunkSize) (message : List UInt8)

/-- The slices of a message, one after the other, complete what was begun. -/
theorem messagesFrom_continuations (started : List UInt8) :
    messagesFrom started ((slices chunk message).map .continuation) = [started ++ message] := by
  fun_induction slices chunk message generalizing started with
  | case1 message h => rfl
  | case2 message h ih =>
    rw [List.map_cons, messagesFrom, if_neg Bool.false_ne_true, ih, List.append_assoc,
      List.take_append_drop]

theorem messages_ofMessage : messages (ofMessage chunk message) = [message] := by
  rw [messages, ofMessage, slices]
  split
  · rfl
  · rw [ofSlices, messagesFrom, if_neg Bool.false_ne_true, messagesFrom_continuations,
      List.take_append_drop]

/-- A message begins with a frame that says so. -/
theorem exists_ofMessage_eq : ∃ s rest, ofMessage chunk message = text s :: rest := by
  rw [ofMessage, slices]
  split
  · exact ⟨_, _, rfl⟩
  · exact ⟨_, _, rfl⟩

/-- What was begun before is given up where a message begins. -/
theorem messagesFrom_append_text (started : List UInt8) (frames : List Frame) (s : Slice)
    (rest : List Frame) :
    messagesFrom started (frames ++ text s :: rest) =
      messagesFrom started frames ++ messages (text s :: rest) := by
  -- Whatever the frames before have begun, the first frame of the message begins anew.
  induction frames generalizing started with
  | nil => rfl
  | cons f frames ih =>
    cases f with
    | close => exact ih started
    | text t =>
      rw [List.cons_append, messagesFrom, messagesFrom, ih, ih]
      split <;> rfl
    | continuation t =>
      rw [List.cons_append, messagesFrom, messagesFrom, ih, ih]
      split <;> rfl

/-- **The frames of a message add one message** to the frames before. -/
theorem messages_append_ofMessage (frames : List Frame) :
    messages (frames ++ ofMessage chunk message) = messages frames ++ [message] := by
  obtain ⟨s, rest, hm⟩ := exists_ofMessage_eq chunk message
  rw [hm, messages, messagesFrom_append_text, ← hm, messages_ofMessage]
  rfl

theorem messages_append_flatMap {α : Type} (frames : List Frame) (f : α → List UInt8)
    (xs : List α) :
    messages (frames ++ xs.flatMap fun x => ofMessage chunk (f x)) =
      messages frames ++ xs.map f := by
  induction xs generalizing frames with
  | nil => simp only [List.flatMap_nil, List.map_nil, List.append_nil]
  | cons x xs ih =>
    rw [List.flatMap_cons, ← List.append_assoc, ih, messages_append_ofMessage, List.append_assoc]
    rfl

/-- As long as its last slice is missing, a message is not complete. -/
theorem messagesFrom_take_continuations (started : List UInt8) (n : Nat) :
    messagesFrom started (((slices chunk message).map .continuation).take n) = [] ∨
      messagesFrom started (((slices chunk message).map .continuation).take n) =
        [started ++ message] := by
  fun_induction slices chunk message generalizing started n with
  | case1 message h =>
    cases n with
    | zero => exact .inl rfl
    | succ n => exact .inr (by rw [List.map_singleton, List.take_succ_cons, List.take_nil]; rfl)
  | case2 message h ih =>
    cases n with
    | zero => exact .inl rfl
    | succ n =>
      rw [List.map_cons, List.take_succ_cons, messagesFrom, if_neg Bool.false_ne_true]
      have hrest := ih (started ++ message.take chunk.octets) n
      rwa [List.append_assoc, List.take_append_drop] at hrest

theorem messages_take_ofMessage (n : Nat) :
    messages ((ofMessage chunk message).take n) = [] ∨
      messages ((ofMessage chunk message).take n) = [message] := by
  cases n with
  | zero => exact .inl rfl
  | succ n =>
    rw [messages, ofMessage, slices]
    split
    · rw [ofSlices, List.map_nil, List.take_succ_cons, List.take_nil]
      exact .inr rfl
    · rw [ofSlices, List.take_succ_cons, messagesFrom, if_neg Bool.false_ne_true]
      have hrest := messagesFrom_take_continuations chunk (message.drop chunk.octets)
        (message.take chunk.octets) n
      rwa [List.take_append_drop] at hrest

/-- **The first frames of a message add it or nothing** to the frames before. -/
theorem messages_append_take (frames : List Frame) (n : Nat) :
    messages (frames ++ (ofMessage chunk message).take n) = messages frames ∨
      messages (frames ++ (ofMessage chunk message).take n) = messages frames ++ [message] := by
  have htake := messages_take_ofMessage chunk message n
  cases n with
  | zero => exact .inl (by rw [List.take_zero, List.append_nil])
  | succ n =>
    obtain ⟨s, rest, hm⟩ := exists_ofMessage_eq chunk message
    rw [hm, List.take_succ_cons] at htake ⊢
    rw [messages, messagesFrom_append_text]
    rcases htake with h | h
    · exact .inl (by rw [h, List.append_nil]; rfl)
    · exact .inr (by rw [h]; rfl)

theorem messagesFrom_append_close (started : List UInt8) (frames : List Frame) :
    messagesFrom started (frames ++ [close]) = messagesFrom started frames := by
  induction frames generalizing started with
  | nil => rfl
  | cons f frames ih =>
    cases f with
    | close => exact ih started
    | text t => rw [List.cons_append, messagesFrom, messagesFrom, ih, ih]
    | continuation t => rw [List.cons_append, messagesFrom, messagesFrom, ih, ih]

/-- A closing frame is no message. -/
theorem messages_append_close (frames : List Frame) :
    messages (frames ++ [close]) = messages frames :=
  messagesFrom_append_close [] frames

theorem messages_append_closing (frames : List Frame) {closing : List Frame}
    (h : closing = [] ∨ closing = [close]) : messages (frames ++ closing) = messages frames := by
  rcases h with rfl | rfl
  · rw [List.append_nil]
  · exact messages_append_close frames

theorem close_notMem_ofMessage : close ∉ ofMessage chunk message := by
  intro h
  rw [ofMessage] at h
  cases hs : slices chunk message with
  | nil =>
    rw [hs] at h
    cases h
  | cons s rest =>
    rw [hs, ofSlices, List.mem_cons] at h
    rcases h with h | h
    · cases h
    · obtain ⟨t, -, ht⟩ := List.mem_map.mp h
      cases ht

end Frame

end Multiworld
