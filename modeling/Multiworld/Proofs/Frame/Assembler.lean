import Mathlib.Data.List.DropRight
import Multiworld.Frame.Assembler
import Multiworld.Proofs.Text.Utf8

/-!
# Messages put together

Pieces that come in one after another are cut into messages, each of which ends with its
last piece. An assembler answers the pieces of a message as if no other message had come
before it, and what it keeps is determined by the pieces of the unfinished message alone.

## Main definitions

* `Pieces.octets`, `Pieces.size`: what pieces hold, and how many octets
* `Pieces.cut`: the messages that pieces make up
* `Pieces.unfinished`: the pieces of the message in progress
* `Assembler.having`: an assembler in the middle of a message
* `Assembler.Answers`: the right answers to the pieces of a message

## Main results

* `Pieces.flatten_cut`, `Pieces.dropLast_of_mem_cut`, `Pieces.isFinal_of_mem_cut`: the
  messages make up the pieces, and each ends where a final piece is
* `Assembler.pushAll_progress`: what an assembler keeps
* `Assembler.pushAll_answers`: an assembler gives the right answers
-/

namespace Multiworld

/-! ## Messages in pieces -/

namespace Pieces

/-- The octets of pieces. -/
def octets (pieces : List Slice) : List UInt8 := pieces.flatMap (·.octets)

/-- How many octets pieces hold. -/
def size (pieces : List Slice) : Nat := (octets pieces).length

/-- The messages that pieces make up, some pieces of the first one having come already. Only
the last message may lack its final piece. -/
def cutFrom (started : List Slice) : List Slice → List (List Slice)
  | [] => if started = [] then [] else [started]
  | piece :: rest =>
    if piece.isFinal then (started ++ [piece]) :: cutFrom [] rest
    else cutFrom (started ++ [piece]) rest

/-- The messages that pieces make up. -/
def cut (pieces : List Slice) : List (List Slice) := cutFrom [] pieces

/-- The pieces since the last final one. -/
def unfinished (pieces : List Slice) : List Slice := pieces.rtakeWhile fun p => !p.isFinal

@[simp] theorem octets_append (ps qs : List Slice) : octets (ps ++ qs) = octets ps ++ octets qs :=
  List.flatMap_append

theorem octets_singleton (p : Slice) : octets [p] = p.octets := List.append_nil _

@[simp] theorem size_append (ps qs : List Slice) : size (ps ++ qs) = size ps + size qs := by
  rw [size, octets_append, List.length_append]
  rfl

theorem size_singleton (p : Slice) : size [p] = p.octets.length := by
  rw [size, octets_singleton]

/-- With one more piece there are as many octets as the assembler counts. -/
theorem size_concat (ps : List Slice) (p : Slice) :
    size (ps ++ [p]) = (octets ps).length + p.octets.length := by
  rw [size_append, size_singleton, size]

theorem size_le_of_append {max : Nat} {ps qs : List Slice} (h : size (ps ++ qs) ≤ max) :
    size ps ≤ max := by
  rw [size_append] at h
  exact Nat.le_of_add_right_le h

theorem lt_size_append {max : Nat} {ps : List Slice} (h : max < size ps) (qs : List Slice) :
    max < size (ps ++ qs) :=
  Nat.lt_of_not_le fun hle => Nat.not_le_of_lt h (size_le_of_append hle)

theorem flatten_cutFrom (started pieces : List Slice) :
    (cutFrom started pieces).flatten = started ++ pieces := by
  induction pieces generalizing started with
  | nil =>
    rw [cutFrom]
    split
    · next h => rw [h]; rfl
    · simp
  | cons piece rest ih =>
    rw [cutFrom]
    split
    · rw [List.flatten_cons, ih]
      simp
    · rw [ih]
      simp

/-- The messages make up the pieces. -/
theorem flatten_cut (pieces : List Slice) : (cut pieces).flatten = pieces :=
  flatten_cutFrom [] pieces

theorem forall_mem_concat {started : List Slice} {p : Slice} (hs : ∀ q ∈ started, ¬ q.isFinal)
    (hp : ¬ p.isFinal) : ∀ q ∈ started ++ [p], ¬ q.isFinal := by
  rw [List.forall_mem_append]
  exact ⟨hs, List.forall_mem_singleton.mpr hp⟩

theorem dropLast_of_mem_cutFrom {started pieces message : List Slice}
    (hs : ∀ p ∈ started, ¬ p.isFinal) (hm : message ∈ cutFrom started pieces) :
    message ≠ [] ∧ ∀ p ∈ message.dropLast, ¬ p.isFinal := by
  induction pieces generalizing started with
  | nil =>
    by_cases h : started = []
    · rw [cutFrom, if_pos h] at hm
      exact absurd hm List.not_mem_nil
    · rw [cutFrom, if_neg h] at hm
      obtain rfl := List.mem_singleton.mp hm
      exact ⟨h, fun p hp => hs p (List.dropLast_subset message hp)⟩
  | cons p rest ih =>
    by_cases hp : p.isFinal
    · rw [cutFrom, if_pos hp] at hm
      rcases List.mem_cons.mp hm with rfl | hm
      · exact ⟨List.concat_ne_nil _ _, by rwa [List.dropLast_concat]⟩
      · exact ih (List.forall_mem_nil _) hm
    · rw [cutFrom, if_neg hp] at hm
      exact ih (forall_mem_concat hs hp) hm

/-- A message has pieces, and only its last one may be final. -/
theorem dropLast_of_mem_cut {pieces message : List Slice} (hm : message ∈ cut pieces) :
    message ≠ [] ∧ ∀ p ∈ message.dropLast, ¬ p.isFinal :=
  dropLast_of_mem_cutFrom (List.forall_mem_nil _) hm

theorem isFinal_of_mem_cutFrom {started pieces message : List Slice}
    (hm : message ∈ (cutFrom started pieces).dropLast) :
    ∃ body last, message = body ++ [last] ∧ last.isFinal := by
  induction pieces generalizing started with
  | nil =>
    by_cases h : started = []
    · rw [cutFrom, if_pos h] at hm
      exact absurd hm List.not_mem_nil
    · rw [cutFrom, if_neg h] at hm
      exact absurd hm List.not_mem_nil
  | cons p rest ih =>
    by_cases hp : p.isFinal
    · rw [cutFrom, if_pos hp] at hm
      -- If nothing comes after it, the finished message is the last one itself.
      cases hrest : cutFrom [] rest with
      | nil =>
        rw [hrest] at hm
        exact absurd hm List.not_mem_nil
      | cons m ms =>
        rw [hrest, List.dropLast_cons_cons, ← hrest] at hm
        rcases List.mem_cons.mp hm with rfl | hm
        · exact ⟨started, p, rfl, hp⟩
        · exact ih hm
    · rw [cutFrom, if_neg hp] at hm
      exact ih hm

/-- Every message but the last one has a final piece. -/
theorem isFinal_of_mem_cut {pieces message : List Slice} (hm : message ∈ (cut pieces).dropLast) :
    ∃ body last, message = body ++ [last] ∧ last.isFinal :=
  isFinal_of_mem_cutFrom hm

@[simp] theorem unfinished_concat (pieces : List Slice) (p : Slice) :
    unfinished (pieces ++ [p]) = if p.isFinal then [] else unfinished pieces ++ [p] := by
  rw [unfinished, List.rtakeWhile_concat]
  cases p.isFinal <;> rfl

/-- A message that outgrows a limit has a piece that takes it there. -/
theorem exists_crossing {max : Nat} {message : List Slice} (h : max < size message) :
    ∃ before piece after, message = before ++ piece :: after ∧ size before ≤ max ∧
      max < size (before ++ [piece]) := by
  -- From the end: either the message without its last piece is too long already, or it is
  -- the last piece that takes it there.
  induction message using List.reverseRecOn with
  | nil => exact absurd h (Nat.not_lt_zero _)
  | append_singleton ms p ih =>
    by_cases hms : max < size ms
    · obtain ⟨before, piece, after, rfl, hle, hlt⟩ := ih hms
      exact ⟨before, piece, after ++ [p], by simp, hle, hlt⟩
    · exact ⟨ms, p, [], rfl, Nat.le_of_not_lt hms, h⟩

end Pieces

namespace Assembler

open Pieces

/-- What was answered to a piece. -/
abbrev Answer := Except LinkError (Option String)

/-! ## One piece -/

/-- An assembler to which the pieces of an unfinished message have come. -/
def having (max : Nat) (started : List Slice) : Assembler :=
  ⟨max, if max < size started then .skipping else .collecting (octets started)⟩

theorem having_of_lt {max : Nat} {started : List Slice} (h : max < size started) :
    having max started = ⟨max, .skipping⟩ := by
  rw [having, if_pos h]

theorem having_of_le {max : Nat} {started : List Slice} (h : size started ≤ max) :
    having max started = ⟨max, .collecting (octets started)⟩ := by
  rw [having, if_neg (Nat.not_lt.mpr h)]

theorem having_nil (max : Nat) : having max [] = ⟨max, .collecting []⟩ := rfl

/-- The rest of a message that is too long is passed over. -/
theorem push_skipping {max : Nat} {started : List Slice} (h : max < size started) (p : Slice) :
    (having max started).push p =
      (.ok none, having max (if p.isFinal then [] else started ++ [p])) := by
  rw [having_of_lt h, push]
  cases hp : p.isFinal with
  | true => rfl
  | false =>
    simp only [Bool.false_eq_true, if_false, having_of_lt (lt_size_append h [p])]

/-- The piece that takes a message beyond the limit says so. -/
theorem push_crossing {max : Nat} {started : List Slice} {p : Slice} (h : size started ≤ max)
    (hlt : max < size (started ++ [p])) :
    (having max started).push p = (.error (.messageTooLarge (size (started ++ [p])) max),
      having max (if p.isFinal then [] else started ++ [p])) := by
  rw [having_of_le h, push]
  simp only [← size_concat, if_pos hlt]
  cases hp : p.isFinal with
  | true => rfl
  | false => simp only [Bool.false_eq_true, if_false, having_of_lt hlt]

/-- A piece in the middle of a message is kept. -/
theorem push_body {max : Nat} {started : List Slice} {p : Slice}
    (hle : size (started ++ [p]) ≤ max) (hp : ¬ p.isFinal) :
    (having max started).push p = (.ok none, having max (started ++ [p])) := by
  rw [having_of_le (size_le_of_append hle), having_of_le hle, push]
  simp only [← size_concat, if_neg (Nat.not_lt.mpr hle), if_neg hp, octets_append, octets_singleton]

/-- The last piece of a message gives its text. -/
theorem push_last {max : Nat} {started : List Slice} {p : Slice}
    (hle : size (started ++ [p]) ≤ max) (hp : p.isFinal) :
    (having max started).push p =
      (((Text.decode (octets (started ++ [p]))).mapError .invalidUtf8).map some,
        having max []) := by
  rw [having_of_le (size_le_of_append hle), push]
  simp only [← size_concat, if_neg (Nat.not_lt.mpr hle), if_pos hp, octets_append, octets_singleton]
  rfl

/-- After one more piece, the message in progress is longer by it, or it is over. -/
theorem push_progress (max : Nat) (started : List Slice) (p : Slice) :
    ((having max started).push p).2 =
      having max (if p.isFinal then [] else started ++ [p]) := by
  -- The message is too long already, becomes too long, ends, or goes on.
  by_cases h : max < size started
  · rw [push_skipping h]
  by_cases hlt : max < size (started ++ [p])
  · rw [push_crossing (Nat.not_lt.mp h) hlt]
  by_cases hp : p.isFinal
  · rw [push_last (Nat.not_lt.mp hlt) hp, if_pos hp]
  · rw [push_body (Nat.not_lt.mp hlt) hp, if_neg hp]

/-! ## One message -/

/-- The right answers to the pieces of a message under a limit. If the message outgrows the
limit, the piece that takes it there says so. If it does not and is finished, its last piece
gives the text or says that it is none. All other pieces give nothing. -/
structure Answers (max : Nat) (message : List Slice) (answers : List Answer) : Prop where
  length_eq : answers.length = message.length
  tooLarge : max < size message → ∃ before piece after,
    message = before ++ piece :: after ∧ size before ≤ max ∧ max < size (before ++ [piece]) ∧
      answers = List.replicate before.length (.ok none) ++
        .error (.messageTooLarge (size (before ++ [piece])) max) ::
          List.replicate after.length (.ok none)
  complete : size message ≤ max → ∀ body last, message = body ++ [last] → last.isFinal →
    ∃ answer, answers = List.replicate body.length (.ok none) ++ [answer] ∧
      (∀ s, Text.encode s = octets message → answer = .ok (some s)) ∧
        ((∀ s, Text.encode s ≠ octets message) → ∃ fault, answer = .error (.invalidUtf8 fault))
  incomplete : size message ≤ max → (∀ p ∈ message, ¬ p.isFinal) →
    answers = List.replicate message.length (.ok none)

theorem pushAll_append (a : Assembler) (ps qs : List Slice) :
    a.pushAll (ps ++ qs) = ((a.pushAll ps).1 ++ ((a.pushAll ps).2.pushAll qs).1,
      ((a.pushAll ps).2.pushAll qs).2) := by
  induction ps generalizing a with
  | nil => rfl
  | cons p ps ih =>
    simp only [List.cons_append, pushAll, ih]

theorem length_pushAll (a : Assembler) (ps : List Slice) : (a.pushAll ps).1.length = ps.length := by
  induction ps generalizing a with
  | nil => rfl
  | cons p ps ih => rw [pushAll, List.length_cons, List.length_cons, ih]

/-- **What an assembler keeps** is determined by the pieces of the unfinished message. -/
theorem pushAll_progress (max : Nat) (pieces : List Slice) :
    ((having max []).pushAll pieces).2 = having max (unfinished pieces) := by
  -- From the end, as the pieces since the last final one are counted from there.
  induction pieces using List.reverseRecOn with
  | nil => rfl
  | append_singleton ps p ih =>
    rw [pushAll_append, ih, unfinished_concat]
    exact push_progress max (unfinished ps) p

/-- Pieces that keep a message within the limit give nothing. -/
theorem pushAll_body {max : Nat} (started : List Slice) {ps : List Slice}
    (hle : size (started ++ ps) ≤ max) (hps : ∀ p ∈ ps, ¬ p.isFinal) :
    (having max started).pushAll ps =
      (List.replicate ps.length (.ok none), having max (started ++ ps)) := by
  induction ps generalizing started with
  | nil => rw [List.append_nil]; rfl
  | cons p ps ih =>
    rw [List.forall_mem_cons] at hps
    rw [List.append_cons] at hle ⊢
    have hp : size (started ++ [p]) ≤ max := size_le_of_append hle
    simp only [pushAll, push_body hp hps.1, ih _ hle hps.2]
    rfl

/-- Pieces of a message that has become too long give nothing. -/
theorem pushAll_skipping {max : Nat} {started : List Slice} (h : max < size started)
    {ps : List Slice} (hps : ∀ p ∈ ps.dropLast, ¬ p.isFinal) :
    ((having max started).pushAll ps).1 = List.replicate ps.length (.ok none) := by
  induction ps generalizing started with
  | nil => rfl
  | cons p ps ih =>
    simp only [pushAll, push_skipping h]
    cases ps with
    | nil => rfl
    | cons q ps =>
      rw [List.dropLast_cons_cons, List.forall_mem_cons] at hps
      rw [if_neg hps.1, ih (lt_size_append h [p]) hps.2]
      rfl

/-- **The pieces of one message** are answered rightly. -/
theorem answers_message (max : Nat) {message : List Slice}
    (hm : ∀ p ∈ message.dropLast, ¬ p.isFinal) :
    Answers max message ((having max []).pushAll message).1 where
  length_eq := length_pushAll _ message
  tooLarge h := by
    obtain ⟨before, piece, after, rfl, hle, hlt⟩ := exists_crossing h
    refine ⟨before, piece, after, rfl, hle, hlt, ?_⟩
    -- What comes before the crossing is kept, and what comes after it is passed over.
    rw [List.dropLast_append_of_ne_nil (List.cons_ne_nil _ _), List.forall_mem_append] at hm
    rw [pushAll_append, pushAll_body [] hle hm.1, List.nil_append]
    simp only [pushAll, push_crossing hle hlt]
    cases after with
    | nil => rfl
    | cons q after =>
      rw [List.dropLast_cons_cons, List.forall_mem_cons] at hm
      rw [if_neg hm.2.1, pushAll_skipping hlt hm.2.2]
  complete hle body last he hlast := by
    subst he
    rw [List.dropLast_concat] at hm
    have hbody : size ([] ++ body) ≤ max := size_le_of_append hle
    refine ⟨((having max body).push last).1, ?_, ?_, ?_⟩
    · rw [pushAll_append, pushAll_body [] hbody hm]
      rfl
    · intro s hs
      rw [push_last hle hlast, Text.decode_eq_ok_iff.mpr hs]
      rfl
    · intro hs
      rw [push_last hle hlast]
      cases hd : Text.decode (octets (body ++ [last])) with
      | ok s => exact absurd (Text.decode_eq_ok_iff.mp hd) (hs s)
      | error fault => exact ⟨fault, rfl⟩
  incomplete hle hps := by
    rw [pushAll_body [] hle hps]

/-! ## Runs -/

theorem pushAll_cutFrom (max : Nat) {started : List Slice} (hs : ∀ p ∈ started, ¬ p.isFinal)
    (pieces : List Slice) :
    ∃ answers, ((having max []).pushAll (started ++ pieces)).1 = answers.flatten ∧
      List.Forall₂ (Answers max) (cutFrom started pieces) answers := by
  induction pieces generalizing started with
  | nil =>
    rw [cutFrom, List.append_nil]
    by_cases hnil : started = []
    · subst hnil
      exact ⟨[], rfl, .nil⟩
    · rw [if_neg hnil]
      refine ⟨[_], (List.append_nil _).symm, .cons (answers_message max ?_) .nil⟩
      exact fun p hp => hs p (List.dropLast_subset started hp)
  | cons p rest ih =>
    rw [cutFrom, List.append_cons]
    by_cases hp : p.isFinal
    · -- The message is over, and the next one finds the assembler as it was at first.
      have hnone : ∀ q ∈ ([] : List Slice), ¬ q.isFinal := List.forall_mem_nil _
      obtain ⟨answers, hrest, hanswers⟩ := ih hnone
      have hover : ((having max []).pushAll (started ++ [p])).2 = having max [] := by
        rw [pushAll_progress, unfinished_concat, if_pos hp]
      rw [if_pos hp, pushAll_append, hover, ← List.nil_append rest, hrest]
      refine ⟨_ :: answers, rfl, .cons (answers_message max ?_) hanswers⟩
      rwa [List.dropLast_concat]
    · -- The message goes on, and the induction has one more piece of it.
      rw [if_neg hp]
      exact ih (forall_mem_concat hs hp)

theorem pending_having (max : Nat) (started : List Slice) :
    (having max started).pending = if max < size started then 0 else size started := by
  by_cases h : max < size started
  · rw [having_of_lt h, if_pos h]
    rfl
  · rw [having_of_le (Nat.not_lt.mp h), if_neg h]
    rfl

/-- **An assembler answers the pieces of each message rightly**, whatever came before. At every
point it keeps no more than the limit, and it keeps nothing once a message is over and while
it passes over the rest of one that is too long. -/
theorem pushAll_answers (max : Nat) (pieces : List Slice) :
    (∃ answers, ((Assembler.mk max (.collecting [])).pushAll pieces).1 = answers.flatten ∧
      List.Forall₂ (Answers max) (cut pieces) answers) ∧
    ∀ seen, seen <+: pieces →
      let kept := ((Assembler.mk max (.collecting [])).pushAll seen).2.pending
      kept ≤ max ∧ (∀ p, seen.getLast? = some p → p.isFinal → kept = 0) ∧
        (max < size (unfinished seen) → kept = 0) := by
  rw [← having_nil]
  refine ⟨pushAll_cutFrom max (List.forall_mem_nil _) pieces, fun seen _ => ?_⟩
  simp only [pushAll_progress, pending_having]
  refine ⟨?_, fun p hlast hp => ?_, fun h => if_pos h⟩
  · split
    · exact Nat.zero_le max
    · next h => exact Nat.not_lt.mp h
  · obtain ⟨before, rfl⟩ := List.getLast?_eq_some_iff.mp hlast
    rw [unfinished_concat, if_pos hp]
    exact ite_self 0

end Assembler

end Multiworld
