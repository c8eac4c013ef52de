import Mathlib.Data.List.Forall2
import Mathlib.Data.List.Induction
import Multiworld.Packet.Batch
import Multiworld.Proofs.Outcome
import Multiworld.Proofs.Packet.Wire

/-!
# Batches, element by element

A message that is a list is read as a batch, and each element of the list is in it once: as
a packet, or set aside under its index. What becomes of an element depends on nothing but
the element.

A list is a text that `Json.read` reads as one. The notation has more texts, which are those of
`Json.IsValue`: there a number may be beyond all floats, half of a surrogate pair may stand alone,
and brackets may nest deeper than 127. A message with any of these in one of its elements is
refused as a whole.

## Main definitions

* `Batch.kept`: the indices that are not set aside
* `Batch.Accounts`: a batch accounts for the elements of a list
* `Skipped.shift`: an element set aside, counted from further to the left

## Main results

* `Packet.ofElement_eq_ok_iff` and what goes with it: what becomes of an element
* `Command.isKnown_iff`, `Packet.commandName_eq`: the tables of names agree
* `Json.readSequence_eq_ok_iff`: the items of a list are read exactly if the value is a list
* `Batch.ofElements_append`: elements are read independently of those before them
* `Batch.read_elementwise`: the batch of a message accounts for its elements
-/

namespace Multiworld

open Json

/-! ## Commands and their names -/

namespace Command

theorem ofName?_eq_some_iff {s : String} {c : Command} : ofName? s = some c ↔ s = c.name := by
  constructor
  · intro h
    unfold ofName? at h
    have hname := List.find?_some h
    exact (of_decide_eq_true hname).symm
  · rintro rfl
    exact ofName?_name c

/-- **The names that are known are those that are read** as the name of a command. -/
theorem isKnown_iff {s : String} : isKnown s = true ↔ ∃ c, ofName? s = some c := by
  rw [isKnown, known_eq, List.contains_iff_mem, List.mem_map]
  constructor
  · rintro ⟨c, -, rfl⟩
    exact ⟨c, ofName?_name c⟩
  · rintro ⟨c, hc⟩
    exact ⟨c, c.mem_all, (ofName?_eq_some_iff.mp hc).symm⟩

end Command

/-! ## One element -/

namespace Packet

variable {j : Json} {c : Command} {p : Packet} {fs : List (String × Json)}

/-- The fields of a command make up a packet of that command. -/
theorem command_of_ofFields (h : ofFields c fs = .ok p) : p.command = c := by
  obtain ⟨-, -, h⟩ := bind_eq_ok_iff.mp h
  cases c with
  | _ =>
    obtain ⟨body, -, hp⟩ := bind_eq_ok_iff.mp h
    obtain rfl := Except.ok.inj hp
    rfl

/-- **All that can become of an element**: it names no command, or one that is not known,
or one whose packet its fields have to make up. -/
theorem ofElement_cases (j : Json) :
    ((∀ name, j.field? "cmd" ≠ some (.str name)) ∧ ofElement j = .error .missingCommand) ∨
      (∃ name, j.field? "cmd" = some (.str name) ∧ name ∉ Command.known ∧
        ofElement j = .error (.unknownCommand name)) ∨
      ∃ c fs, j = .obj fs ∧ lookup "cmd" fs = some (.str c.name) ∧
        ofElement j = (ofFields c fs).mapError (.malformed c.name) := by
  by_cases hnamed : ∃ name, j.field? "cmd" = some (.str name)
  · obtain ⟨name, hname⟩ := hnamed
    obtain ⟨fs, rfl⟩ : ∃ fs, j = .obj fs := by
      cases j with
      | obj fs => exact ⟨fs, rfl⟩
      | _ => cases hname
    have hlookup : lookup "cmd" fs = some (.str name) := hname
    cases hknown : Command.isKnown name with
    | false =>
      have hmem : name ∉ Command.known := by
        intro hmem
        rw [Command.isKnown, List.contains_iff_mem.mpr hmem] at hknown
        cases hknown
      refine .inr (.inl ⟨name, hname, hmem, ?_⟩)
      simp only [ofElement, hlookup, hknown]
      rfl
    | true =>
      -- A name that is known is that of a command.
      obtain ⟨c, hc⟩ := Command.isKnown_iff.mp hknown
      obtain rfl := Command.ofName?_eq_some_iff.mp hc
      refine .inr (.inr ⟨c, fs, rfl, hlookup, ?_⟩)
      simp only [ofElement, hlookup, hknown, ofNamed_name]
      rfl
  · have hunnamed := not_exists.mp hnamed
    refine .inl ⟨hunnamed, ?_⟩
    unfold ofElement
    split
    · split
      · next name hname => exact absurd hname (hunnamed name)
      · rfl
    · rfl

theorem ofElement_eq_missingCommand_iff :
    ofElement j = .error .missingCommand ↔ ∀ name, j.field? "cmd" ≠ some (.str name) := by
  rcases ofElement_cases j with ⟨hn, h⟩ | ⟨name, hn, -, h⟩ | ⟨c, fs, rfl, hn, h⟩
  · exact iff_of_true h hn
  · exact iff_of_false (by rw [h]; nofun) fun hall => hall name hn
  · refine iff_of_false ?_ fun hall => hall _ hn
    rw [h]
    cases ofFields c fs <;> nofun

theorem ofElement_eq_unknownCommand_iff {name : String} :
    ofElement j = .error (.unknownCommand name) ↔
      j.field? "cmd" = some (.str name) ∧ name ∉ Command.known := by
  rcases ofElement_cases j with ⟨hn, h⟩ | ⟨name', hn, hname, h⟩ | ⟨c, fs, rfl, hn, h⟩
  · exact iff_of_false (by rw [h]; nofun) fun hnamed => hn name hnamed.1
  · rw [h, hn]
    constructor
    · rintro ⟨⟩
      exact ⟨rfl, hname⟩
    · rintro ⟨⟨⟩, -⟩
      rfl
  · constructor
    · rw [h]
      cases ofFields c fs <;> nofun
    · rintro ⟨hname, hunknown⟩
      obtain rfl := Json.str.inj (Option.some.inj (hn.symm.trans hname))
      exact absurd (List.contains_iff_mem.mp c.isKnown_name) hunknown

theorem ofElement_of_lookup (hn : lookup "cmd" fs = some (.str c.name)) :
    ofElement (.obj fs) = (ofFields c fs).mapError (.malformed c.name) := by
  simp only [ofElement, hn, c.isKnown_name, ofNamed_name]
  rfl

theorem ofElement_eq_malformed_iff {name : String} {why : Mismatch} :
    ofElement j = .error (.malformed name why) ↔
      ∃ c fs, Command.name c = name ∧ j = .obj fs ∧ lookup "cmd" fs = some (.str name) ∧
        ofFields c fs = .error why := by
  constructor
  · intro h
    rcases ofElement_cases j with ⟨-, h'⟩ | ⟨name', -, -, h'⟩ | ⟨c, fs, rfl, hn, h'⟩
    · cases h.symm.trans h'
    · cases h.symm.trans h'
    · rw [h] at h'
      cases hf : ofFields c fs with
      | ok p =>
        rw [hf] at h'
        cases h'
      | error e =>
        rw [hf] at h'
        cases h'
        exact ⟨c, fs, rfl, rfl, hn, hf⟩
  · rintro ⟨c, fs, rfl, rfl, hn, hf⟩
    rw [ofElement_of_lookup hn, hf]
    rfl

theorem ofElement_eq_ok_iff :
    ofElement j = .ok p ↔ ∃ fs, j = .obj fs ∧
      lookup "cmd" fs = some (.str p.commandName) ∧ ofFields p.command fs = .ok p := by
  rw [commandName_eq]
  constructor
  · intro h
    rcases ofElement_cases j with ⟨-, h'⟩ | ⟨name, -, -, h'⟩ | ⟨c, fs, rfl, hn, h'⟩
    · cases h.symm.trans h'
    · cases h.symm.trans h'
    · rw [h] at h'
      cases hf : ofFields c fs with
      | error e =>
        rw [hf] at h'
        cases h'
      | ok q =>
        rw [hf] at h'
        cases h'
        obtain rfl := command_of_ofFields hf
        exact ⟨fs, rfl, hn, hf⟩
  · rintro ⟨fs, rfl, hn, hf⟩
    rw [ofElement_of_lookup hn, hf]
    rfl

end Packet

/-! ## Texts that are lists -/

namespace Json

theorem readScalar_ne_arr {cs rest : List Char} {j : Json} (h : readScalar cs = .ok (j, rest))
    (js : List Json) : j ≠ .arr js := by
  rintro rfl
  unfold readScalar at h
  split at h
  · cases h
  iterate 4
    · obtain ⟨_, -, he⟩ := map_eq_ok_iff.mp h
      cases he
  · split at h
    · obtain ⟨_, -, he⟩ := map_eq_ok_iff.mp h
      cases he
    · cases h

/-- A value of the wrong type is never taken. -/
theorem wrongType_ne_ok {α : Type} (wanted : Wanted) (cs : List Char) (a : α) :
    wrongType wanted cs ≠ .ok a := by
  intro h
  unfold wrongType at h
  split at h
  · cases h
  · cases h
  · obtain ⟨_, -, h⟩ := bind_eq_ok_iff.mp h
    cases h

theorem readValue_of_bracket {cs rest : List Char} (h : skipBlanks cs = '[' :: rest)
    (depth : Nat) :
    readValue (depth + 1) cs =
      (readItems (readValue depth) (rest.length + 1) [] rest).map fun p => (.arr p.1, p.2) := by
  rw [readValue, h]
  rfl

/-- Only an opening bracket begins a list. -/
theorem exists_bracket_of_readValue {depth : Nat} {cs rest : List Char} {js : List Json}
    (h : readValue depth cs = .ok (.arr js, rest)) : ∃ more, skipBlanks cs = '[' :: more := by
  unfold readValue at h
  split at h
  · next more hmore => exact ⟨more, hmore⟩
  · cases depth with
    | zero => cases h
    | succ depth =>
      obtain ⟨_, -, he⟩ := map_eq_ok_iff.mp h
      cases he
  · exact absurd rfl (readScalar_ne_arr h js)

/-- **The items of a list are read exactly if the value is read as that list.** -/
theorem readSequence_eq_ok_iff {s : String} {js : List Json} :
    readSequence s = .ok js ↔ read s = .ok (.arr js) := by
  by_cases hb : ∃ cs, skipBlanks s.toList = '[' :: cs
  · obtain ⟨cs, hcs⟩ := hb
    -- Behind the bracket both read the same items, and then only blanks.
    have hsequence : readSequence s = (readItems (readValue 126) (cs.length + 1) [] cs >>= fun p =>
        readEnd p.2 >>= fun _ => .ok p.1) := by
      unfold readSequence
      rw [hcs]
      rfl
    have hvalue : readValue maxDepth s.toList =
        (readItems (readValue 126) (cs.length + 1) [] cs).map fun p => (.arr p.1, p.2) :=
      readValue_of_bracket hcs 126
    rw [hsequence, read, hvalue]
    constructor
    · intro h
      obtain ⟨p, hitems, h⟩ := bind_eq_ok_iff.mp h
      obtain ⟨u, hend, hp⟩ := bind_eq_ok_iff.mp h
      obtain rfl := Except.ok.inj hp
      rw [hitems]
      exact bind_eq_ok_iff.mpr ⟨_, rfl, bind_eq_ok_iff.mpr ⟨u, hend, rfl⟩⟩
    · intro h
      obtain ⟨q, hq, h⟩ := bind_eq_ok_iff.mp h
      obtain ⟨p, hitems, rfl⟩ := map_eq_ok_iff.mp hq
      obtain ⟨u, hend, hp⟩ := bind_eq_ok_iff.mp h
      obtain rfl := Json.arr.inj (Except.ok.inj hp)
      exact bind_eq_ok_iff.mpr ⟨p, hitems, bind_eq_ok_iff.mpr ⟨u, hend, rfl⟩⟩
  · refine iff_of_false (fun h => ?_) fun h => hb ?_
    · unfold readSequence at h
      split at h
      · next cs hcs => exact hb ⟨cs, hcs⟩
      · exact wrongType_ne_ok _ _ _ h
    · obtain ⟨⟨j, rest⟩, hvalue, h⟩ := bind_eq_ok_iff.mp h
      obtain ⟨-, -, h⟩ := bind_eq_ok_iff.mp h
      obtain rfl := Except.ok.inj h
      exact exists_bracket_of_readValue hvalue

end Json

/-! ## The elements of a batch -/

/-- An element set aside, counted from `n` elements further to the left. -/
def Skipped.shift (n : Nat) (s : Skipped) : Skipped := { s with index := n + s.index }

namespace Batch

/-- Reading begins at any index alike. -/
theorem ofElements_shift (n index : Nat) (js : List Json) :
    ofElements (n + index) js =
      ⟨(ofElements index js).packets, (ofElements index js).skipped.map (·.shift n)⟩ := by
  induction js generalizing index with
  | nil => rfl
  | cons j js ih =>
    rw [ofElements, ofElements, Nat.add_assoc, ih (index + 1)]
    cases Packet.ofElement j <;> rfl

/-- **Elements are read independently of those before them**, which only count. -/
theorem ofElements_append (index : Nat) (js ks : List Json) :
    ofElements index (js ++ ks) =
      ⟨(ofElements index js).packets ++ (ofElements (index + js.length) ks).packets,
        (ofElements index js).skipped ++ (ofElements (index + js.length) ks).skipped⟩ := by
  induction js generalizing index with
  | nil => rfl
  | cons j js ih =>
    rw [List.cons_append, ofElements, ofElements, ih (index + 1), List.length_cons,
      Nat.add_right_comm, Nat.add_assoc]
    cases Packet.ofElement j <;> rfl

/-- The indices below `n` that are not set aside, in order. -/
def kept (b : Batch) (n : Nat) : List Nat :=
  (List.range n).filter fun i => b.skipped.all (·.index ≠ i)

/-- A batch holds every element of a list, which was read by itself. -/
structure Holds (b : Batch) (js : List Json) : Prop where
  length_add : b.packets.length + b.skipped.length = js.length
  increasing : b.skipped.Pairwise (·.index < ·.index)
  mem_iff : ∀ i r, ⟨i, r⟩ ∈ b.skipped ↔ ∃ j, js[i]? = some j ∧ Packet.ofElement j = .error r
  kept : List.Forall₂ (fun i p => ∃ j, js[i]? = some j ∧ Packet.ofElement j = .ok p)
    (b.kept js.length) b.packets

namespace Holds

variable {b : Batch} {js : List Json} {j : Json}

theorem nil : Holds ⟨[], []⟩ [] where
  length_add := rfl
  increasing := .nil
  mem_iff := by simp
  kept := .nil

theorem index_lt (h : Holds b js) {s : Skipped} (hs : s ∈ b.skipped) : s.index < js.length := by
  obtain ⟨j, hj, -⟩ := (h.mem_iff s.index s.reason).mp hs
  obtain ⟨hlt, -⟩ := List.getElem?_eq_some_iff.mp hj
  exact hlt

/-- An element of a list that is one longer is one of the list, or the last. -/
theorem getElem?_concat {i : Nat} {k : Json} :
    (js ++ [j])[i]? = some k ↔ js[i]? = some k ∨ i = js.length ∧ k = j := by
  rcases Nat.lt_trichotomy i js.length with hi | rfl | hi
  · rw [List.getElem?_append_left hi]
    exact (or_iff_left fun h => Nat.ne_of_lt hi h.1).symm
  · rw [List.getElem?_concat_length, List.getElem?_eq_none (Nat.le_refl _), Option.some.injEq]
    simp [eq_comm]
  · have hle : (js ++ [j]).length ≤ i := by
      rw [List.length_append, List.length_singleton]
      exact hi
    rw [List.getElem?_eq_none hle, List.getElem?_eq_none (Nat.le_of_lt hi)]
    simp [Nat.ne_of_gt hi]

theorem kept_mono (h : Holds b js) :
    List.Forall₂ (fun i p => ∃ k, (js ++ [j])[i]? = some k ∧ Packet.ofElement k = .ok p)
      (b.kept js.length) b.packets := by
  refine h.kept.imp fun i p hp => ?_
  obtain ⟨k, hk, hp⟩ := hp
  exact ⟨k, getElem?_concat.mpr (.inl hk), hp⟩

theorem concat_packet (h : Holds b js) {p : Packet} (hp : Packet.ofElement j = .ok p) :
    Holds ⟨b.packets ++ [p], b.skipped⟩ (js ++ [j]) := by
  have hlast : b.skipped.all (·.index ≠ js.length) = true := by
    rw [List.all_eq_true]
    intro s hs
    exact decide_eq_true (Nat.ne_of_lt (h.index_lt hs))
  refine ⟨?_, h.increasing, fun i r => ?_, ?_⟩
  · rw [List.length_append, List.length_append, List.length_singleton, List.length_singleton,
      ← h.length_add, Nat.add_right_comm]
  · rw [h.mem_iff]
    constructor
    · rintro ⟨k, hk, hr⟩
      exact ⟨k, getElem?_concat.mpr (.inl hk), hr⟩
    · rintro ⟨k, hk, hr⟩
      rcases getElem?_concat.mp hk with hk | ⟨-, rfl⟩
      · exact ⟨k, hk, hr⟩
      · cases hp.symm.trans hr
  · rw [Batch.kept, List.length_append, List.length_singleton, List.range_succ,
      List.filter_append, List.filter_singleton, hlast]
    exact List.rel_append h.kept_mono (.cons ⟨j, List.getElem?_concat_length, hp⟩ .nil)

theorem concat_skipped (h : Holds b js) {r : SkipReason} (hr : Packet.ofElement j = .error r) :
    Holds ⟨b.packets, b.skipped ++ [⟨js.length, r⟩]⟩ (js ++ [j]) := by
  refine ⟨?_, ?_, fun i r' => ?_, ?_⟩
  · rw [List.length_append, List.length_append, List.length_singleton, List.length_singleton,
      ← h.length_add, Nat.add_assoc]
  · refine List.pairwise_append.mpr ⟨h.increasing, List.pairwise_singleton _ _, fun s hs t ht => ?_⟩
    obtain rfl := List.mem_singleton.mp ht
    exact h.index_lt hs
  · rw [List.mem_append, h.mem_iff, List.mem_singleton]
    constructor
    · rintro (⟨k, hk, hr'⟩ | he)
      · exact ⟨k, getElem?_concat.mpr (.inl hk), hr'⟩
      · cases he
        exact ⟨j, List.getElem?_concat_length, hr⟩
    · rintro ⟨k, hk, hr'⟩
      rcases getElem?_concat.mp hk with hk | ⟨rfl, rfl⟩
      · exact .inl ⟨k, hk, hr'⟩
      · obtain rfl := Except.error.inj (hr.symm.trans hr')
        exact .inr rfl
  · -- The new index is not among those that were kept, and is not kept itself.
    have hkept : Batch.kept ⟨b.packets, b.skipped ++ [⟨js.length, r⟩]⟩ (js ++ [j]).length =
        b.kept js.length := by
      have hlast : (b.skipped ++ [(⟨js.length, r⟩ : Skipped)]).all (·.index ≠ js.length) =
          false := by
        rw [List.all_append, List.all_cons, decide_eq_false (not_not_intro rfl), Bool.false_and,
          Bool.and_false]
      rw [Batch.kept, List.length_append, List.length_singleton, List.range_succ,
        List.filter_append, List.filter_singleton, hlast, cond_false, List.append_nil]
      refine List.filter_congr fun i hi => ?_
      have hne : js.length ≠ i := Nat.ne_of_gt (List.mem_range.mp hi)
      rw [List.all_append, List.all_cons, List.all_nil, decide_eq_true hne, Bool.and_true,
        Bool.and_true]
    rw [hkept]
    exact h.kept_mono

end Holds

theorem holds_ofElements (js : List Json) : Holds (ofElements 0 js) js := by
  induction js using List.reverseRecOn with
  | nil => exact .nil
  | append_singleton js j ih =>
    rw [ofElements_append, Nat.zero_add, ofElements, ofElements]
    cases hj : Packet.ofElement j with
    | ok p => simpa using ih.concat_packet hj
    | error r => simpa using ih.concat_skipped hj

/-- A batch accounts for the elements of a list: each is a packet or is set aside, and which
of the two, and why, is settled by the element alone. -/
structure Accounts (b : Batch) (js : List Json) : Prop where
  /-- No element is lost. -/
  length_add : b.packets.length + b.skipped.length = js.length
  /-- No index is set aside twice, or before a smaller one. -/
  increasing : b.skipped.Pairwise (·.index < ·.index)
  index_lt : ∀ s ∈ b.skipped, s.index < js.length
  /-- The packets are those of the elements that are not set aside, in order. -/
  packets : List.Forall₂ (fun i p => ∃ fs, js[i]? = some (.obj fs) ∧
      lookup "cmd" fs = some (.str p.commandName) ∧ Packet.ofFields p.command fs = .ok p)
    (b.kept js.length) b.packets
  /-- An element names no command. -/
  missing_iff : ∀ i j, js[i]? = some j →
    (⟨i, .missingCommand⟩ ∈ b.skipped ↔ ∀ name, j.field? "cmd" ≠ some (.str name))
  /-- An element names a command that is none of those known here. -/
  unknown_iff : ∀ i j, js[i]? = some j → ∀ name, (⟨i, .unknownCommand name⟩ ∈ b.skipped ↔
    j.field? "cmd" = some (.str name) ∧ name ∉ Command.known)
  /-- An element names a command, and its fields make up no packet of it. -/
  malformed_iff : ∀ i j, js[i]? = some j → ∀ name why, (⟨i, .malformed name why⟩ ∈ b.skipped ↔
    ∃ c fs, Command.name c = name ∧ j = .obj fs ∧ lookup "cmd" fs = some (.str name) ∧
      Packet.ofFields c fs = .error why)

theorem Holds.accounts {b : Batch} {js : List Json} (h : Holds b js) : Accounts b js := by
  have hmem : ∀ {i j} (r : SkipReason), js[i]? = some j →
      (⟨i, r⟩ ∈ b.skipped ↔ Packet.ofElement j = .error r) := by
    intro i j r hj
    rw [h.mem_iff]
    constructor
    · rintro ⟨k, hk, hr⟩
      obtain rfl := Option.some.inj (hj.symm.trans hk)
      exact hr
    · intro hr
      exact ⟨j, hj, hr⟩
  refine ⟨h.length_add, h.increasing, fun s hs => h.index_lt hs, ?_, ?_, ?_, ?_⟩
  · refine h.kept.imp fun i p hp => ?_
    obtain ⟨j, hj, hp⟩ := hp
    obtain ⟨fs, rfl, hname, hfs⟩ := Packet.ofElement_eq_ok_iff.mp hp
    exact ⟨fs, hj, hname, hfs⟩
  · intro i j hj
    rw [hmem _ hj, Packet.ofElement_eq_missingCommand_iff]
  · intro i j hj name
    rw [hmem _ hj, Packet.ofElement_eq_unknownCommand_iff]
  · intro i j hj name why
    rw [hmem _ hj, Packet.ofElement_eq_malformed_iff]

theorem read_of_list {message : String} {js : List Json}
    (h : Json.read message = .ok (.arr js)) : read message = .ok (ofElements 0 js) := by
  rw [read, readSequence_eq_ok_iff.mpr h]
  rfl

/-- **A message is read element by element.** If it is a list, the batch accounts for its
elements, and if not, reading fails. What one list holds behind another is read as if it
came alone, but for the indices. A text that the notation counts as a list is none here if it
holds a number beyond all floats, half of a surrogate pair, or brackets more than 127 deep. -/
theorem read_elementwise (message : String) :
    (∀ js, Json.read message = .ok (.arr js) → ∃ b, read message = .ok b ∧ Accounts b js) ∧
    ((∀ js, Json.read message ≠ .ok (.arr js)) → ∃ e, read message = .error e) ∧
    ∀ first second js ks, Json.read first = .ok (.arr js) → Json.read second = .ok (.arr ks) →
      Json.read message = .ok (.arr (js ++ ks)) →
      ∃ b c, read first = .ok b ∧ read second = .ok c ∧
        read message =
          .ok ⟨b.packets ++ c.packets, b.skipped ++ c.skipped.map (·.shift js.length)⟩ := by
  refine ⟨fun js h => ?_, fun h => ?_, fun first second js ks hfirst hsecond h => ?_⟩
  · exact ⟨ofElements 0 js, read_of_list h, (holds_ofElements js).accounts⟩
  · cases hs : readSequence message with
    | ok js => exact absurd (readSequence_eq_ok_iff.mp hs) (h js)
    | error e =>
      refine ⟨e, ?_⟩
      rw [read, hs]
      rfl
  · refine ⟨_, _, read_of_list hfirst, read_of_list hsecond, ?_⟩
    have hks := ofElements_shift js.length 0 ks
    rw [Nat.add_zero] at hks
    rw [read_of_list h, ofElements_append, Nat.zero_add, hks]

theorem read_elementwise_mixed :
    ∃ b c, read "[\x7b\"cmd\":\"Say\",\"text\":\"a\"\x7d,\x7b\"cmd\":\"Say\"\x7d]" = .ok b ∧
      read "[\x7b\"cmd\":\"RoomInfo\"\x7d,7]" = .ok c ∧
      read ("[\x7b\"cmd\":\"Say\",\"text\":\"a\"\x7d, \x7b\"cmd\":\"Say\"\x7d," ++
          "\x7b\"cmd\":\"RoomInfo\"\x7d, 7]") =
        .ok ⟨b.packets ++ c.packets, b.skipped ++ c.skipped.map (·.shift 2)⟩ :=
  (read_elementwise _).2.2 _ _
    [.obj [("cmd", .str "Say"), ("text", .str "a")], .obj [("cmd", .str "Say")]]
    [.obj [("cmd", .str "RoomInfo")], .num (.int ⟨7, by decide, by decide⟩)]
    rfl rfl rfl

/-- A message is refused as a whole if one of its elements holds a number beyond all floats. -/
example :
    (read ("[\x7b\"cmd\":\"Say\",\"text\":\"hi\"\x7d," ++
      "\x7b\"cmd\":\"Bounced\",\"data\":\x7b\"time\":1e999\x7d\x7d]")).isOk = false := by
  decide +kernel

end Batch

end Multiworld
