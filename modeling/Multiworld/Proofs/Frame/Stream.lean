import Multiworld.Proofs.Frame.Assembler
import Multiworld.Proofs.Frame.Splitting

/-!
# Messages cut and put together again

Messages one after the other, each cut into slices of a size of its own, and all the slices
taken by one assembler. Every message within the limit is given back by its last slice. Of a
longer one, the slice that takes it beyond the limit says so, and the others say nothing. So
the texts that are given back are those within the limit, however they were cut.

## Main definitions

* `Outgoing`: a message on its way, and how it is cut
* `Assembler.Returns`: the right answers to the slices of a message
* `Assembler.delivered`: the texts that answers give

## Main results

* `slices_eq_concat`: the last slice of a message is the final one
* `Assembler.pushAll_slices`: behind a message, an assembler is as it was before
* `Assembler.pushAll_stream`: messages in a row are given back
-/

namespace Multiworld

/-- The last slice of a message is final, and no other one is. -/
theorem slices_eq_concat (chunk : ChunkSize) (message : List UInt8) :
    ∃ body last, slices chunk message = body ++ [last] ∧ last.isFinal ∧
      ∀ p ∈ body, ¬ p.isFinal := by
  obtain ⟨body, last, hs, hbody, hlast, -⟩ := (slices_isCut chunk message).eq_concat
  refine ⟨body, last, hs, hlast, ?_⟩
  intro p hp
  exact Bool.eq_false_iff.mp (hbody p hp).2

/-- A message on its way, and the size of the slices into which it is cut. -/
structure Outgoing where
  text : String
  chunk : ChunkSize

namespace Outgoing

/-- The slices of a message. -/
def slices (m : Outgoing) : List Slice := Multiworld.slices m.chunk (Text.encode m.text)

/-- How many octets a message has. -/
def size (m : Outgoing) : Nat := (Text.encode m.text).length

theorem octets_slices (m : Outgoing) : Pieces.octets m.slices = Text.encode m.text :=
  flatMap_octets_slices m.chunk (Text.encode m.text)

theorem size_slices (m : Outgoing) : Pieces.size m.slices = m.size := by
  rw [Pieces.size, octets_slices, size]

end Outgoing

namespace Assembler

/-- The text that an answer gives, if it gives one. -/
def text? : Answer → Option String
  | .ok text => text
  | .error _ => none

/-- The texts that answers give, in order. -/
def delivered (answers : List Answer) : List String := answers.filterMap text?

/-- The right answers to the slices of a message under a limit: one for each slice. -/
structure Returns (max : Nat) (m : Outgoing) (answers : List Answer) : Prop where
  length_eq : answers.length = m.slices.length
  /-- A message within the limit is given back by its one final slice, and not before. -/
  whole : m.size ≤ max → ∃ body last, m.slices = body ++ [last] ∧ last.isFinal ∧
    (∀ p ∈ body, ¬ p.isFinal) ∧
      answers = List.replicate body.length (.ok none) ++ [.ok (some m.text)]
  /-- A longer one is never given back. The first slice to exceed the limit says how long the
  message is with it. -/
  tooLong : max < m.size → ∃ before piece after, m.slices = before ++ piece :: after ∧
    Pieces.size before ≤ max ∧ max < Pieces.size (before ++ [piece]) ∧
      answers = List.replicate before.length (.ok none) ++
        .error (.messageTooLarge (Pieces.size (before ++ [piece])) max) ::
          List.replicate after.length (.ok none)

variable (max : Nat) (m : Outgoing)

/-! ## One message -/

/-- Behind a message, an assembler is as it was before. -/
theorem pushAll_slices : ((having max []).pushAll m.slices).2 = having max [] := by
  obtain ⟨body, last, hs, hlast, -⟩ := slices_eq_concat m.chunk (Text.encode m.text)
  have hslices : m.slices = body ++ [last] := hs
  -- Nothing is unfinished where the last slice is final.
  rw [pushAll_progress, hslices, Pieces.unfinished_concat, if_pos hlast]

/-- **The slices of one message are answered rightly.** -/
theorem returns_slices : Returns max m ((having max []).pushAll m.slices).1 := by
  obtain ⟨body, last, hs, hlast, hbody⟩ := slices_eq_concat m.chunk (Text.encode m.text)
  have hslices : m.slices = body ++ [last] := hs
  have hdropLast : ∀ p ∈ m.slices.dropLast, ¬ p.isFinal := by
    rw [hslices, List.dropLast_concat]
    exact hbody
  have hanswers := answers_message max hdropLast
  refine ⟨hanswers.length_eq, ?_, ?_⟩
  · intro hle
    rw [← m.size_slices] at hle
    obtain ⟨answer, heq, htext, -⟩ := hanswers.complete hle body last hslices hlast
    -- The slices make up the octets of a text, so that text is what the last one gives.
    have hgives : answer = .ok (some m.text) := htext m.text m.octets_slices.symm
    rw [hgives] at heq
    exact ⟨body, last, hslices, hlast, hbody, heq⟩
  · intro hlt
    rw [← m.size_slices] at hlt
    exact hanswers.tooLarge hlt

theorem delivered_append (answers more : List Answer) :
    delivered (answers ++ more) = delivered answers ++ delivered more :=
  List.filterMap_append

/-- Answers that give nothing. -/
theorem delivered_replicate (n : Nat) : delivered (List.replicate n (.ok none)) = [] := by
  apply List.filterMap_eq_nil_iff.mpr
  intro answer h
  rw [List.eq_of_mem_replicate h]
  rfl

variable {max m}

/-- A message is given back once if it is within the limit, and otherwise never. -/
theorem Returns.delivered_eq {answers : List Answer} (h : Returns max m answers) :
    delivered answers = if m.size ≤ max then [m.text] else [] := by
  by_cases hle : m.size ≤ max
  · obtain ⟨body, last, -, -, -, heq⟩ := h.whole hle
    rw [if_pos hle, heq, delivered_append, delivered_replicate]
    rfl
  · obtain ⟨before, piece, after, -, -, -, heq⟩ := h.tooLong (Nat.lt_of_not_le hle)
    rw [if_neg hle, heq, delivered_append, delivered_replicate]
    exact delivered_replicate after.length

/-! ## Messages in a row -/

theorem exists_returns (max : Nat) (messages : List Outgoing) :
    ∃ answers, ((having max []).pushAll (messages.flatMap (·.slices))).1 = answers.flatten ∧
      List.Forall₂ (Returns max) messages answers := by
  induction messages with
  | nil => exact ⟨[], rfl, .nil⟩
  | cons m messages ih =>
    obtain ⟨answers, hrest, hanswers⟩ := ih
    refine ⟨((having max []).pushAll m.slices).1 :: answers, ?_,
      .cons (returns_slices max m) hanswers⟩
    -- The messages behind the first one find the assembler as it was at first.
    rw [List.flatMap_cons, pushAll_append, pushAll_slices, hrest, List.flatten_cons]

theorem delivered_flatten {messages : List Outgoing} {answers : List (List Answer)}
    (h : List.Forall₂ (Returns max) messages answers) :
    delivered answers.flatten =
      (messages.map (·.text)).filter fun text => (Text.encode text).length ≤ max := by
  induction h with
  | nil => rfl
  | @cons m own messages rest hm _ ih =>
    rw [List.flatten_cons, delivered_append, hm.delivered_eq, ih, List.map_cons]
    by_cases hle : m.size ≤ max
    · rw [if_pos hle, List.filter_cons_of_pos (by exact decide_eq_true hle)]
      rfl
    · rw [if_neg hle, List.filter_cons_of_neg (by exact fun h => hle (of_decide_eq_true h))]
      rfl

/-- **Messages in a row are given back** by the assembler that takes their slices: those
within the limit, each by its own last slice, in order, and no others, however each of them
was cut. -/
theorem pushAll_stream (max : Nat) (messages : List Outgoing) :
    (∃ answers, ((Assembler.mk max (.collecting [])).pushAll
        (messages.flatMap (·.slices))).1 = answers.flatten ∧
      List.Forall₂ (Returns max) messages answers) ∧
    delivered ((Assembler.mk max (.collecting [])).pushAll (messages.flatMap (·.slices))).1 =
      (messages.map (·.text)).filter fun text => (Text.encode text).length ≤ max := by
  obtain ⟨answers, heq, hanswers⟩ := exists_returns max messages
  rw [having_nil] at heq
  refine ⟨⟨answers, heq, hanswers⟩, ?_⟩
  rw [heq]
  exact delivered_flatten hanswers

/-- A cut inside a character does no harm, and neither does a message that is too long. -/
example : ((Assembler.mk 3 (.collecting [])).pushAll
    ([⟨"é", 1, by decide⟩, ⟨"abcd", 3, by decide⟩, ⟨"", 3, by decide⟩].flatMap
      Outgoing.slices)).1 =
    [.ok none, .ok (some "é"), .ok none, .error (.messageTooLarge 4 3), .ok (some "")] := by
  cbv

end Assembler

end Multiworld
