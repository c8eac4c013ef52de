import Mathlib.Algebra.Order.Floor.Div
import Multiworld.Proofs.Frame

/-!
# Frames, split into messages again

A message has as many slices as it has chunks, and one if it is empty. All but the last are full and
unmarked, so the run of frames of some messages can be read as messages in one way only: a frame
that begins a text, and those that go on with it up to the marked one.

## Main definitions

* `IsCut`: a message is cut as it should be
* `MakesUp`: slices up to a final one, and their octets
* `Frame.Carries`: the frames of one message
* `Frame.messageFrames`: the frames that are part of a message
* `Frame.Splits`: a run of frames is split into messages

## Main results

* `slices_isCut`: messages are cut as they should be
* `Frame.Carries.append_inj`: where one message ends
* `Frame.splits_iff`: the only way to split the frames of some messages
-/

namespace Multiworld

/-! ## Slices -/

/-- A message is cut as it should be. -/
structure IsCut (chunk : ChunkSize) (message : List UInt8) (pieces : List Slice) : Prop where
  /-- An empty message has one slice. -/
  length_eq : pieces.length = max 1 (message.length ⌈/⌉ chunk.octets)
  octets_eq : pieces.flatMap (·.octets) = message
  /-- All slices but the last are full. The last one is marked, and is not empty beside others. -/
  eq_concat : ∃ body last, pieces = body ++ [last] ∧
    (∀ p ∈ body, p.octets.length = chunk.octets ∧ p.isFinal = false) ∧
      last.isFinal = true ∧ last.octets.length ≤ chunk.octets ∧
        (last.octets = [] → message = [])

/-- A full slice more. -/
theorem ceilDiv_eq_sub_add_one {n c : Nat} (hc : 0 < c) (h : c < n) :
    n ⌈/⌉ c = (n - c) ⌈/⌉ c + 1 := by
  rw [Nat.ceilDiv_eq_add_pred_div, Nat.ceilDiv_eq_add_pred_div, ← Nat.add_div_right _ hc]
  congr 1
  omega

/-- **Messages are cut as they should be.** -/
theorem slices_isCut (chunk : ChunkSize) (message : List UInt8) :
    IsCut chunk message (slices chunk message) := by
  fun_induction slices chunk message with
  | case1 message h =>
    refine ⟨?_, by simp, [], ⟨message, true⟩, rfl, by simp, rfl, h, id⟩
    have hone : message.length ⌈/⌉ chunk.octets ≤ 1 :=
      (ceilDiv_le_iff_le_mul chunk.pos).mpr (by rwa [Nat.mul_one])
    rw [Nat.max_eq_left hone]
    rfl
  | case2 message h ih =>
    obtain ⟨hlength, hoctets, body, last, hpieces, hbody, hfinal, hle, hlast⟩ := ih
    have hlt := Nat.lt_of_not_le h
    have hdrop := List.length_drop (i := chunk.octets) (l := message)
    refine ⟨?_, ?_, ⟨message.take chunk.octets, false⟩ :: body, last, ?_, ?_, hfinal, hle, ?_⟩
    · have hceil := ceilDiv_eq_sub_add_one chunk.pos hlt
      have hpos : 0 < (message.length - chunk.octets) ⌈/⌉ chunk.octets := by
        apply Nat.pos_of_ne_zero
        intro hzero
        have hnil := (ceilDiv_le_iff_le_mul chunk.pos).mp (Nat.le_of_eq hzero)
        omega
      rw [List.length_cons, hlength, hdrop]
      omega
    · rw [List.flatMap_cons, hoctets, List.take_append_drop]
    · rw [hpieces, List.cons_append]
    · refine List.forall_mem_cons.mpr ⟨⟨?_, rfl⟩, hbody⟩
      rw [List.length_take, Nat.min_eq_left (Nat.le_of_lt hlt)]
    · -- What is left behind a full slice is not empty, and so neither is the last slice of it.
      intro hnil
      rw [hlast hnil, List.length_nil] at hdrop
      omega

/-- Nothing comes behind a last slice that is full. -/
example : slices ⟨2, by decide⟩ [1, 2, 3, 4] = [⟨[1, 2], false⟩, ⟨[3, 4], true⟩] := by
  cbv

/-- Slices make up some octets, and the last of them is the only one that is final. -/
inductive MakesUp : List Slice → List UInt8 → Prop
  | last {s : Slice} (h : s.isFinal = true) : MakesUp [s] s.octets
  | more {s : Slice} {rest : List Slice} {octets : List UInt8} (h : s.isFinal = false)
      (hrest : MakesUp rest octets) : MakesUp (s :: rest) (s.octets ++ octets)

theorem makesUp_slices (chunk : ChunkSize) (message : List UInt8) :
    MakesUp (slices chunk message) message := by
  fun_induction slices chunk message with
  | case1 message h => exact .last rfl
  | case2 message h ih =>
    have hmore := MakesUp.more (s := ⟨message.take chunk.octets, false⟩) rfl ih
    rwa [List.take_append_drop] at hmore

namespace Frame

variable {pieces pieces' : List Slice} {octets octets' : List UInt8} {f f' x y : List Frame}

/-! ## Where a message ends -/

/-- However the first frame is told from the others, slices up to a final one are known from the
frames that begin with theirs. -/
theorem makesUp_append_inj {first : Slice → Frame} (hfirst : Function.Injective first) {s t : Slice}
    (h : MakesUp (s :: pieces) octets) (h' : MakesUp (t :: pieces') octets')
    (heq : first s :: (pieces.map continuation ++ x) = first t :: (pieces'.map continuation ++ y)) :
    s :: pieces = t :: pieces' ∧ octets = octets' ∧ x = y := by
  obtain ⟨hhead, htail⟩ := List.cons.inj heq
  obtain rfl := hfirst hhead
  clear heq hhead
  induction pieces generalizing first s octets pieces' octets' with
  | nil =>
    cases h with
    | more _ hrest => cases hrest
    | last hs =>
      cases h' with
      | last => exact ⟨rfl, rfl, htail⟩
      | more hs' => exact absurd (hs.symm.trans hs') nofun
  | cons u pieces ih =>
    cases h with
    | more hs hrest =>
      cases h' with
      | last hs' => exact absurd (hs.symm.trans hs') nofun
      | @more _ _ octets' _ hrest' =>
        cases pieces' with
        | nil => cases hrest'
        | cons v pieces' =>
          -- The second frames are those of two slices again.
          have hinj : Function.Injective continuation := fun _ _ => continuation.inj
          obtain ⟨hframe, hbehind⟩ := List.cons.inj htail
          obtain rfl := hinj hframe
          obtain ⟨hpieces, rfl, hxy⟩ := ih hinj hrest hbehind hrest'
          exact ⟨congrArg _ hpieces, rfl, hxy⟩

/-- Frames carry a message: the first one begins a text, the others go on with it, and only the last
one is marked. -/
def Carries (frames : List Frame) (message : List UInt8) : Prop :=
  ∃ pieces, frames = ofSlices pieces ∧ MakesUp pieces message

theorem carries_ofMessage (chunk : ChunkSize) (message : List UInt8) :
    Carries (ofMessage chunk message) message :=
  ⟨slices chunk message, rfl, makesUp_slices chunk message⟩

theorem Carries.ne_nil (h : Carries f octets) : f ≠ [] := by
  obtain ⟨pieces, rfl, hpieces⟩ := h
  cases hpieces with
  | last => simp [ofSlices]
  | more => simp [ofSlices]

/-- **Where one message ends** is known from the frames, whatever comes behind it. -/
theorem Carries.append_inj (h : Carries f octets) (h' : Carries f' octets') (heq : f ++ x = f' ++ y) :
    f = f' ∧ octets = octets' ∧ x = y := by
  obtain ⟨pieces, rfl, hpieces⟩ := h
  obtain ⟨pieces', rfl, hpieces'⟩ := h'
  cases pieces with
  | nil => cases hpieces
  | cons s pieces =>
    cases pieces' with
    | nil => cases hpieces'
    | cons t pieces' =>
      have hinj : Function.Injective text := fun _ _ => text.inj
      obtain ⟨hsame, hoctets, hxy⟩ := makesUp_append_inj hinj hpieces hpieces' heq
      exact ⟨congrArg ofSlices hsame, hoctets, hxy⟩

/-! ## Messages in a row -/

/-- The frames that are part of a message. -/
def messageFrames (frames : List Frame) : List Frame := frames.filter fun f => f ≠ .close

theorem messageFrames_of_subset {written : List Frame} (h : written ⊆ [.close]) :
    messageFrames written = [] := by
  apply List.filter_eq_nil_iff.mpr
  intro f hf hclose
  exact of_decide_eq_true hclose (List.mem_singleton.mp (h hf))

theorem messageFrames_ofMessage (chunk : ChunkSize) (message : List UInt8) :
    messageFrames (ofMessage chunk message) = ofMessage chunk message := by
  apply List.filter_eq_self.mpr
  intro f hf
  refine decide_eq_true ?_
  rintro rfl
  exact close_notMem_ofMessage chunk message hf

theorem messageFrames_append (before behind : List Frame) :
    messageFrames (before ++ behind) = messageFrames before ++ messageFrames behind :=
  List.filter_append ..

/-- A run of frames is split into the groups of some messages. -/
structure Splits (frames : List Frame) (groups : List (List Frame)) (messages : List (List UInt8)) :
    Prop where
  flatten_eq : groups.flatten = frames
  carries : List.Forall₂ Carries groups messages

variable {frames : List Frame} {groups groups' : List (List Frame)}
  {messages messages' : List (List UInt8)}

/-- There is one way to split a run of frames at most. -/
theorem Splits.unique (h : Splits frames groups messages) (h' : Splits frames groups' messages') :
    groups = groups' ∧ messages = messages' := by
  obtain ⟨rfl, hcarries⟩ := h
  obtain ⟨heq, hcarries'⟩ := h'
  induction hcarries generalizing groups' messages' with
  | nil =>
    cases hcarries' with
    | nil => exact ⟨rfl, rfl⟩
    | cons hfirst => exact absurd (List.append_eq_nil_iff.mp heq).1 hfirst.ne_nil
  | cons hfirst _ ih =>
    cases hcarries' with
    | nil => exact absurd (List.append_eq_nil_iff.mp heq.symm).1 hfirst.ne_nil
    | cons hfirst' hrest' =>
      -- The first messages end in one place, and the others lie behind it.
      obtain ⟨rfl, rfl, hbehind⟩ := hfirst'.append_inj hfirst heq
      obtain ⟨rfl, rfl⟩ := ih hbehind hrest'
      exact ⟨rfl, rfl⟩

theorem splits_flatMap (chunk : ChunkSize) (messages : List (List UInt8)) :
    Splits (messages.flatMap (ofMessage chunk)) (messages.map (ofMessage chunk)) messages where
  flatten_eq := (List.flatMap_def ..).symm
  carries := by
    apply List.forall₂_map_left_iff.mpr
    exact List.forall₂_same.mpr fun message _ => carries_ofMessage chunk message

/-- **The only way to split the frames of some messages** is into the frames of each. -/
theorem splits_iff {chunk : ChunkSize} {sent : List (List UInt8)} :
    Splits (sent.flatMap (ofMessage chunk)) groups messages ↔
      groups = sent.map (ofMessage chunk) ∧ messages = sent := by
  constructor
  · intro h
    exact h.unique (splits_flatMap chunk sent)
  · rintro ⟨rfl, rfl⟩
    exact splits_flatMap chunk messages

end Frame

end Multiworld
