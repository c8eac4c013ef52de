/-!
# Frames

An outgoing message is cut into slices of a bounded size, the last of which is marked, and
each slice travels as a frame. The first frame of a message says that a text begins, the
others that it goes on, so a run of frames is a run of messages again.

## Main definitions

* `ChunkSize`: the size of slices, which is not zero
* `Slice`, `slices`: the slices of a message
* `Cutting`, `Cutting.next`: the slices of a message, one at a time
* `Frame`, `Frame.ofMessage`: the frames of a message
* `Frame.messages`: the messages of a run of frames

## Main results

* `flatMap_octets_slices`: the slices of a message make up the message
* `Cutting.answers_start`: the slices come one by one, and then nothing
-/

namespace Multiworld

/-- The size of slices in octets. -/
structure ChunkSize where
  octets : Nat
  pos : 0 < octets
deriving DecidableEq

/-- A piece of a message. -/
structure Slice where
  octets : List UInt8
  isFinal : Bool
deriving DecidableEq

/-- The slices of a message. An empty message has one slice, which is empty. -/
def slices (chunk : ChunkSize) (message : List UInt8) : List Slice :=
  if message.length ≤ chunk.octets then [⟨message, true⟩]
  else ⟨message.take chunk.octets, false⟩ :: slices chunk (message.drop chunk.octets)
termination_by message.length
decreasing_by
  have := chunk.pos
  rw [List.length_drop]
  omega

/-- The slices of a message make up the message. -/
theorem flatMap_octets_slices (chunk : ChunkSize) (message : List UInt8) :
    (slices chunk message).flatMap (·.octets) = message := by
  fun_induction slices chunk message with
  | case1 message h => simp
  | case2 message h ih => rw [List.flatMap_cons, ih, List.take_append_drop]

/-- A message that is being cut: what is left of it, and nothing once its last slice is given. -/
structure Cutting where
  chunk : ChunkSize
  rest : Option (List UInt8)
deriving DecidableEq

namespace Cutting

/-- A message of which no slice is given yet. -/
def start (chunk : ChunkSize) (message : List UInt8) : Cutting := ⟨chunk, some message⟩

/-- The next slice, if there is one. -/
def next (c : Cutting) : Option Slice × Cutting :=
  match c.rest with
  | none => (none, c)
  | some octets =>
    if octets.length ≤ c.chunk.octets then (some ⟨octets, true⟩, { c with rest := none })
    else
      (some ⟨octets.take c.chunk.octets, false⟩,
        { c with rest := some (octets.drop c.chunk.octets) })

/-- The answers to a number of requests for a slice. -/
def answers (c : Cutting) : (requests : Nat) → List (Option Slice)
  | 0 => []
  | n + 1 => c.next.1 :: c.next.2.answers n

/-- Nothing comes behind the last slice. -/
theorem answers_none (chunk : ChunkSize) (n : Nat) :
    (Cutting.mk chunk none).answers n = List.replicate n none := by
  induction n with
  | zero => rfl
  | succ n ih => rw [answers, List.replicate_succ]; exact congrArg _ ih

/-- A message gives its slices one by one, and then nothing. -/
theorem answers_start (chunk : ChunkSize) (message : List UInt8) (n : Nat) :
    (start chunk message).answers ((slices chunk message).length + n) =
      (slices chunk message).map some ++ List.replicate n none := by
  fun_induction slices chunk message with
  | case1 message h =>
    have hnext : (start chunk message).next = (some ⟨message, true⟩, ⟨chunk, none⟩) := if_pos h
    rw [List.length_singleton, Nat.add_comm, answers, hnext, answers_none]
    rfl
  | case2 message h ih =>
    have hnext : (start chunk message).next =
        (some ⟨message.take chunk.octets, false⟩, start chunk (message.drop chunk.octets)) :=
      if_neg h
    rw [List.length_cons, Nat.add_right_comm, answers, hnext, ih]
    rfl

end Cutting

/-- What is written to the peer. -/
inductive Frame where
  /-- The first slice of a message. -/
  | text (slice : Slice)
  /-- Any other slice of a message. -/
  | continuation (slice : Slice)
  /-- Nothing more is to come. -/
  | close
deriving DecidableEq

namespace Frame

/-- The frames of slices in order. -/
def ofSlices : List Slice → List Frame
  | [] => []
  | s :: rest => .text s :: rest.map .continuation

/-- The frames of a message. -/
def ofMessage (chunk : ChunkSize) (message : List UInt8) : List Frame :=
  ofSlices (slices chunk message)

/-- The messages of a run of frames, the octets of an unfinished one being given. -/
def messagesFrom (started : List UInt8) : List Frame → List (List UInt8)
  | [] => []
  | .text s :: rest =>
    if s.isFinal then s.octets :: messagesFrom [] rest else messagesFrom s.octets rest
  | .continuation s :: rest =>
    if s.isFinal then (started ++ s.octets) :: messagesFrom [] rest
    else messagesFrom (started ++ s.octets) rest
  | .close :: rest => messagesFrom started rest

/-- The messages of a run of frames. -/
def messages (frames : List Frame) : List (List UInt8) := messagesFrom [] frames

end Frame

end Multiworld
