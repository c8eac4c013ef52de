import Multiworld.Proofs.Binary64.Layout
import Multiworld.Proofs.Json
import Multiworld.Proofs.Json.Token

/-!
# Values, read back

The text of a value is read as the value with its fields in order, if its brackets do not
nest too deep and each float in it reads back as itself.

## Main definitions

* `Json.depth`: how deep the brackets of a value nest
* `Json.floats`: the floats in a value
* `Json.ReadsBack`: the text of a float is read as that float

## Main results

* `Json.readValue_render`: a value reads back in front of any text that ends a number
* `Json.readSequence_text`: the text of a list is read as the items of the list
-/

namespace Multiworld.Json

mutual

/-- How many brackets of a value stand one inside another. -/
def depth : Json → Nat
  | .arr items => itemsDepth items + 1
  | .obj fields => fieldsDepth fields + 1
  | _ => 0

/-- `depth` for the items of a list. -/
def itemsDepth : List Json → Nat
  | [] => 0
  | j :: js => max j.depth (itemsDepth js)

/-- `depth` for the fields of an object. -/
def fieldsDepth : List (String × Json) → Nat
  | [] => 0
  | (_, v) :: rest => max v.depth (fieldsDepth rest)

end

mutual

/-- The floats in a value. -/
def floats : Json → List Binary64
  | .num (.float x) => [x]
  | .arr items => itemsFloats items
  | .obj fields => fieldsFloats fields
  | _ => []

/-- `floats` for the items of a list. -/
def itemsFloats : List Json → List Binary64
  | [] => []
  | j :: js => j.floats ++ itemsFloats js

/-- `floats` for the fields of an object. -/
def fieldsFloats : List (String × Json) → List Binary64
  | [] => []
  | (_, v) :: rest => v.floats ++ fieldsFloats rest

end

/-- The text of a float is read as that float. Floats are read in steps that round, so this
is not so for every float. -/
def ReadsBack (x : Binary64) : Prop := read (Json.num (.float x)).text = .ok (.num (.float x))

instance (x : Binary64) : Decidable (ReadsBack x) :=
  match h : read (Json.num (.float x)).text with
  | .ok (.num (.float y)) =>
    decidable_of_iff (y = x) (by rw [ReadsBack, h]; simp)
  | .ok (.num (.int _)) | .ok .null | .ok (.bool _) | .ok (.str _) | .ok (.arr _) | .ok (.obj _)
  | .error _ => isFalse (by rw [ReadsBack, h]; simp)

/-! ## Scalars -/

section Scalars

variable {c : Char}

theorem isBlank_of_isNumeral (h : Layout.IsNumeral c) : isBlank c = false := by
  cases hb : isBlank c with
  | false => rfl
  | true =>
    simp only [isBlank, Bool.or_eq_true, decide_eq_true_eq] at hb
    rcases hb with ((rfl | rfl) | rfl) | rfl <;> simp [Layout.IsNumeral] at h

theorem readValue_scalar (depth : Nat) (hblank : isBlank c = false) (hlist : c ≠ '[')
    (hobj : c ≠ '\x7b') (cs : List Char) : readValue depth (c :: cs) = readScalar (c :: cs) := by
  unfold readValue
  rw [skipBlanks_cons hblank]
  split
  · next he => exact absurd (List.cons.inj he).1 hlist
  · next he => exact absurd (List.cons.inj he).1 hobj
  · rfl

/-- A number starts with a digit or its sign, and with nothing else. -/
theorem ne_of_startsNumber (h : c = '-' ∨ c.isDigit = true) {d : Char} (hd : d.isDigit = false)
    (hm : d ≠ '-') : c ≠ d := by
  rintro rfl
  rcases h with h | h
  · exact hm h
  · exact absurd h (by simp [hd])

theorem isBlank_of_startsNumber (h : c = '-' ∨ c.isDigit = true) : isBlank c = false :=
  isBlank_of_isNumeral (h.symm.imp_right fun h => by rw [h]; exact List.mem_cons_self)

/-- The first character of a number. -/
theorem readValue_num (depth : Nat) (h : c = '-' ∨ c.isDigit = true) (cs : List Char) :
    readValue depth (c :: cs) = (readNum (c :: cs)).map fun p => (.num p.1, p.2) := by
  have hne (d : Char) (hd : d.isDigit = false) (hm : d ≠ '-') : c ≠ d := ne_of_startsNumber h hd hm
  rw [readValue_scalar depth (isBlank_of_startsNumber h) (hne '[' rfl (by decide))
    (hne '\x7b' rfl (by decide))]
  -- No other kind of value starts like a number.
  unfold readScalar
  split
  · next he => cases he
  · next he => exact absurd (List.cons.inj he).1 (hne 'n' rfl (by decide))
  · next he => exact absurd (List.cons.inj he).1 (hne 't' rfl (by decide))
  · next he => exact absurd (List.cons.inj he).1 (hne 'f' rfl (by decide))
  · next he => exact absurd (List.cons.inj he).1 (hne '"' rfl (by decide))
  · next he =>
    obtain ⟨rfl, rfl⟩ := List.cons.inj he
    rw [if_pos h]

/-- What a float is written as starts like a number and is read as one, to its end. -/
theorem ReadsBack.readNum {x : Binary64} (h : ReadsBack x) :
    ∃ c cs, Json.layout.write x = c :: cs ∧ (c = '-' ∨ c.isDigit = true) ∧
      Json.readNum (c :: cs) = .ok (.float x, []) := by
  obtain ⟨⟨j, rest⟩, hj, h⟩ := bind_eq_ok_iff.mp h
  obtain ⟨_, hend, h⟩ := bind_eq_ok_iff.mp h
  obtain rfl : j = .num (.float x) := Except.ok.inj h
  rw [text, String.toList_ofList, render, Num.render] at hj
  have hnumeral := Json.layout.isNumeral_of_mem_write x
  match hw : Json.layout.write x with
  | [] =>
    rw [hw] at hj
    cases hj
  | c :: cs =>
    rw [hw] at hj hnumeral
    -- A numeral that starts with none of these is read as no value.
    have hc : c = '-' ∨ c.isDigit = true := by
      rcases hnumeral c List.mem_cons_self with hd | hm
      · exact .inr hd
      · simp only [List.mem_cons, List.not_mem_nil, or_false] at hm
        rcases hm with rfl | rfl | rfl | rfl
        · exact .inl rfl
        all_goals cases hj
    refine ⟨c, cs, rfl, hc, ?_⟩
    rw [readValue_num _ hc] at hj
    obtain ⟨⟨n, rest'⟩, hn, he⟩ := map_eq_ok_iff.mp hj
    obtain ⟨hnum, rfl⟩ := Prod.mk.inj he
    obtain rfl : n = .float x := Json.num.inj hnum
    -- What is left of the text is a numeral, and so no blank.
    match rest' with
    | [] => exact hn
    | d :: ds =>
      have hd := hnumeral d ((local_readNum hn).1.subset List.mem_cons_self)
      unfold readEnd at hend
      rw [skipBlanks_cons (isBlank_of_isNumeral hd)] at hend
      cases hend

theorem integer_eq_cons (n : Int) :
    ∃ c cs, Text.integer n = c :: cs ∧ (c = '-' ∨ c.isDigit = true) := by
  unfold Text.integer
  split
  · exact ⟨_, _, rfl, .inl rfl⟩
  · match hd : Nat.toDigits 10 n.natAbs with
    | [] => exact absurd hd Nat.toDigits_ne_nil
    | c :: cs => exact ⟨c, cs, rfl, .inr (Text.isDigit_of_mem_toDigits (hd ▸ List.mem_cons_self))⟩

/-- A number reads back as itself, if it is an integer or a float that does. -/
theorem readNum_render (n : Num) (hn : ∀ x, n = .float x → ReadsBack x) :
    ∃ c cs, n.render = c :: cs ∧ (c = '-' ∨ c.isDigit = true) ∧
      ∀ more, EndsNumber more → readNum (n.render ++ more) = .ok (n, more) := by
  cases n with
  | int n =>
    obtain ⟨c, cs, hcs, hc⟩ := integer_eq_cons n.val
    exact ⟨c, cs, hcs, hc, fun _ h => readNum_integer n h⟩
  | float x =>
    obtain ⟨c, cs, hcs, hc, hx⟩ := (hn x rfl).readNum
    refine ⟨c, cs, hcs, hc, fun more h => ?_⟩
    rw [Num.render, hcs]
    exact (local_readNum hx).2 more h

end Scalars

/-! ## Lists and objects -/

section Brackets

variable {α : Type} {value : Reader α} {fuel : Nat} {acc : List α} {c : Char}

theorem readItems_close (rest : List Char) :
    readItems value (fuel + 1) acc (']' :: rest) = .ok (acc.reverse, rest) := by
  rfl

theorem readItems_first (hblank : isBlank c = false) (hclose : c ≠ ']') (hcomma : c ≠ ',')
    (cs : List Char) :
    readItems value (fuel + 1) [] (c :: cs) =
      value (c :: cs) >>= fun p => readItems value fuel [p.1] p.2 := by
  rw [readItems, skipBlanks_cons hblank]
  split
  · next he => cases he
  · next he => exact absurd (List.cons.inj he).1 hclose
  · next he => exact absurd (List.cons.inj he).1 hcomma
  · rw [if_pos List.isEmpty_nil]

theorem readItems_next (hacc : acc ≠ []) (hblank : isBlank c = false) (hclose : c ≠ ']')
    (cs : List Char) :
    readItems value (fuel + 1) acc (',' :: c :: cs) =
      value (c :: cs) >>= fun p => readItems value fuel (p.1 :: acc) p.2 := by
  have hcomma : skipBlanks (',' :: c :: cs) = ',' :: c :: cs := skipBlanks_cons rfl _
  rw [readItems, hcomma]
  split
  · next he => cases he
  · next he => exact absurd (List.cons.inj he).1 (by decide)
  · next he =>
    obtain ⟨-, rfl⟩ := List.cons.inj he
    rw [if_neg (by simpa using hacc), skipBlanks_cons hblank]
    split
    · next he => cases he
    · next he => exact absurd (List.cons.inj he).1 hclose
    · rfl
  · next hne => exact (hne (c :: cs) rfl).elim

end Brackets

section Fields

variable {value : Reader Json} {fuel : Nat} {acc : List (String × Json)}

theorem readFields_close (first : Bool) (rest : List Char) :
    readFields value (fuel + 1) first acc ('\x7d' :: rest) = .ok (acc, rest) := by
  rfl

/-- A field whose key is written first, or behind a comma. -/
theorem readFields_field (first : Bool) (k : String) (cs : List Char) :
    readFields value (fuel + 1) first acc
        ((if first then [] else [',']) ++ (renderString k ++ ':' :: cs)) =
      value cs >>= fun p => readFields value fuel false (insert k p.1 acc) p.2 := by
  -- Behind the comma, if there is one, the first key and the others are read alike.
  obtain ⟨rest, hrest, hread⟩ := readString_renderString k (':' :: cs)
  have hquote : skipBlanks ('"' :: rest) = '"' :: rest := skipBlanks_cons rfl _
  have hkey : readKey first ((if first then [] else [',']) ++ '"' :: rest) =
      .ok (some k, ':' :: cs) := by
    cases first
    · have hcomma : skipBlanks (',' :: '"' :: rest) = ',' :: '"' :: rest := skipBlanks_cons rfl _
      simp [readKey, hcomma, hquote, hread]
    · simp [readKey, hquote, hread]
  have hcolon : readColon (':' :: cs) = .ok cs := rfl
  rw [hrest, readFields, hkey, ok_bind]
  dsimp only
  rw [hcolon, ok_bind]

theorem readFields_first (k : String) (cs : List Char) :
    readFields value (fuel + 1) true acc (renderString k ++ ':' :: cs) =
      value cs >>= fun p => readFields value fuel false (insert k p.1 acc) p.2 :=
  readFields_field true k cs

theorem readFields_next (k : String) (cs : List Char) :
    readFields value (fuel + 1) false acc (',' :: (renderString k ++ ':' :: cs)) =
      value cs >>= fun p => readFields value fuel false (insert k p.1 acc) p.2 :=
  readFields_field false k cs

end Fields

section Values

variable {c : Char}

theorem readValue_list (depth : Nat) (cs : List Char) :
    readValue (depth + 1) ('[' :: cs) =
      (readItems (readValue depth) (cs.length + 1) [] cs).map fun p => (.arr p.1, p.2) := by
  rw [readValue, skipBlanks_cons rfl]
  rfl

theorem readValue_object (depth : Nat) (cs : List Char) :
    readValue (depth + 1) ('\x7b' :: cs) =
      (readFields (readValue depth) (cs.length + 1) true [] cs).map fun p => (.obj p.1, p.2) := by
  rw [readValue, skipBlanks_cons rfl]
  rfl

theorem mem_floats_num {n : Num} {x : Binary64} (h : n = .float x) : x ∈ (Json.num n).floats := by
  rw [h, floats]
  exact List.mem_singleton_self x

/-- The first character of a value. -/
theorem render_eq_cons (j : Json) (hf : ∀ x ∈ j.floats, ReadsBack x) :
    ∃ c cs, j.render = c :: cs ∧ isBlank c = false ∧ c ≠ ']' ∧ c ≠ ',' := by
  cases j with
  | null => exact ⟨_, _, rfl, by decide⟩
  | bool b => cases b <;> exact ⟨_, _, rfl, by decide⟩
  | num n =>
    obtain ⟨c, cs, hcs, hc, -⟩ := readNum_render n fun x hx => hf x (mem_floats_num hx)
    exact ⟨c, cs, hcs, isBlank_of_startsNumber hc, ne_of_startsNumber hc rfl (by decide),
      ne_of_startsNumber hc rfl (by decide)⟩
  | str s => exact ⟨_, _, rfl, by decide⟩
  | arr items => cases items <;> exact ⟨_, _, rfl, by decide⟩
  | obj fields => cases fields <;> exact ⟨_, _, rfl, by decide⟩

theorem endsNumber_renderItems (js : List Json) (more : List Char) :
    EndsNumber (renderItems js ++ more) := by
  cases js <;> exact endsNumber_cons (by decide) _

theorem endsNumber_renderFields (fs : List (String × Json)) (more : List Char) :
    EndsNumber (renderFields fs ++ more) := by
  cases fs <;> exact endsNumber_cons (by decide) _

theorem length_lt_renderItems (js : List Json) : js.length < (renderItems js).length := by
  induction js with
  | nil => exact Nat.zero_lt_one
  | cons j js ih =>
    simp only [renderItems, List.length_cons, List.length_append]
    omega

theorem length_lt_renderFields (fs : List (String × Json)) :
    fs.length < (renderFields fs).length := by
  induction fs with
  | nil => exact Nat.zero_lt_one
  | cons f fs ih =>
    simp only [renderFields, List.length_cons, List.length_append]
    omega

end Values

/-! ## Reading what was written -/

mutual

/-- A value that does not nest too deep and whose floats read back is read, with its fields
in order, in front of any text that ends a number. -/
theorem readValue_render : ∀ (j : Json) (depth : Nat) (more : List Char), j.depth ≤ depth →
    (∀ x ∈ j.floats, ReadsBack x) → EndsNumber more →
      readValue depth (j.render ++ more) = .ok (j.sorted, more)
  | .null, depth, more, _, _, _ => by
    rw [sorted_null]
    exact readValue_scalar depth rfl (by decide) (by decide) _
  | .bool true, depth, more, _, _, _ => by
    rw [sorted_bool]
    exact readValue_scalar depth rfl (by decide) (by decide) _
  | .bool false, depth, more, _, _, _ => by
    rw [sorted_bool]
    exact readValue_scalar depth rfl (by decide) (by decide) _
  | .num n, depth, more, _, hf, hm => by
    obtain ⟨c, cs, hcs, hc, hread⟩ := readNum_render n fun x hx => hf x (mem_floats_num hx)
    have hn := hread more hm
    rw [hcs, List.cons_append] at hn
    rw [sorted_num, render, hcs, List.cons_append, readValue_num depth hc, hn, map_ok]
  | .str s, depth, more, _, _, _ => by
    obtain ⟨cs, hcs, hread⟩ := readString_renderString s more
    rw [sorted_str, render, hcs, readValue_scalar depth rfl (by decide) (by decide), readScalar,
      hread, map_ok]
  | .arr [], depth + 1, more, _, _, _ => by
    rw [sorted, sortedItems]
    exact readValue_list depth _
  | .arr (j :: js), depth + 1, more, hd, hf, hm => by
    simp only [Json.depth, itemsDepth, Nat.succ_le_succ_iff, Nat.max_le] at hd
    simp only [floats, itemsFloats, List.forall_mem_append] at hf
    obtain ⟨c, cs, hcs, hblank, hclose, hcomma⟩ := render_eq_cons j hf.1
    have hj := readValue_render j depth (renderItems js ++ more) hd.1 hf.1
      (endsNumber_renderItems js more)
    have hjs (fuel : Nat) (hfuel : js.length < fuel) :=
      readItems_renderItems js depth fuel [j.sorted] more hd.2 hf.2 hm hfuel (by simp)
    -- Each item takes a step, and there are as many steps as characters.
    have hlen := length_lt_renderItems js
    rw [hcs, List.cons_append] at hj
    rw [render, hcs, List.cons_append, List.append_assoc, List.cons_append, readValue_list,
      readItems_first hblank hclose hcomma, hj, ok_bind, hjs _ (by simp; omega), map_ok, sorted,
      sortedItems]
    rfl
  | .obj [], depth + 1, more, _, _, _ => by
    rw [sorted, sortedFields]
    exact readValue_object depth _
  | .obj ((k, v) :: fs), depth + 1, more, hd, hf, hm => by
    simp only [Json.depth, fieldsDepth, Nat.succ_le_succ_iff, Nat.max_le] at hd
    simp only [floats, fieldsFloats, List.forall_mem_append] at hf
    have hv := readValue_render v depth (renderFields fs ++ more) hd.1 hf.1
      (endsNumber_renderFields fs more)
    have hfs (fuel : Nat) (hfuel : fs.length < fuel) :=
      readFields_renderFields fs depth fuel (insert k v.sorted []) more hd.2 hf.2 hm hfuel
    -- Here, too, the characters are enough for the steps.
    have hlen := length_lt_renderFields fs
    rw [render, List.cons_append, List.append_assoc, List.cons_append, List.append_assoc,
      readValue_object, readFields_first, hv, ok_bind, hfs _ (by simp; omega), map_ok, sorted,
      sortedFields]

theorem readItems_renderItems : ∀ (js : List Json) (depth fuel : Nat) (acc : List Json)
    (more : List Char), itemsDepth js ≤ depth → (∀ x ∈ itemsFloats js, ReadsBack x) →
      EndsNumber more → js.length < fuel → acc ≠ [] →
        readItems (readValue depth) fuel acc (renderItems js ++ more) =
          .ok (acc.reverse ++ sortedItems js, more)
  | [], depth, fuel + 1, acc, more, _, _, _, _, _ => by
    rw [sortedItems, List.append_nil]
    exact readItems_close more
  | j :: js, depth, fuel + 1, acc, more, hd, hf, hm, hfuel, hacc => by
    simp only [itemsDepth, Nat.max_le] at hd
    simp only [itemsFloats, List.forall_mem_append] at hf
    obtain ⟨c, cs, hcs, hblank, hclose, -⟩ := render_eq_cons j hf.1
    have hj := readValue_render j depth (renderItems js ++ more) hd.1 hf.1
      (endsNumber_renderItems js more)
    have hjs := readItems_renderItems js depth fuel (j.sorted :: acc) more hd.2 hf.2 hm
      (Nat.lt_of_succ_lt_succ hfuel) (by simp)
    -- The item that was read is put before those that were read already, the last one first.
    rw [hcs, List.cons_append] at hj
    rw [renderItems, hcs, List.cons_append, List.cons_append, List.cons_append, List.append_assoc,
      readItems_next hacc hblank hclose, hj, ok_bind, hjs, sortedItems, List.reverse_cons,
      List.append_assoc, List.singleton_append]

theorem readFields_renderFields : ∀ (fs : List (String × Json)) (depth fuel : Nat)
    (acc : List (String × Json)) (more : List Char), fieldsDepth fs ≤ depth →
      (∀ x ∈ fieldsFloats fs, ReadsBack x) → EndsNumber more → fs.length < fuel →
        readFields (readValue depth) fuel false acc (renderFields fs ++ more) =
          .ok (sortedFields fs acc, more)
  | [], depth, fuel + 1, acc, more, _, _, _, _ => by
    rw [sortedFields]
    exact readFields_close false more
  | (k, v) :: fs, depth, fuel + 1, acc, more, hd, hf, hm, hfuel => by
    simp only [fieldsDepth, Nat.max_le] at hd
    simp only [fieldsFloats, List.forall_mem_append] at hf
    have hv := readValue_render v depth (renderFields fs ++ more) hd.1 hf.1
      (endsNumber_renderFields fs more)
    have hfs := readFields_renderFields fs depth fuel (insert k v.sorted acc) more hd.2 hf.2 hm
      (Nat.lt_of_succ_lt_succ hfuel)
    -- The field that was read takes its place among the others.
    rw [renderFields, List.cons_append, List.append_assoc, List.cons_append, List.append_assoc,
      readFields_next, hv, ok_bind, hfs, sortedFields]

end

/-- The text of a list that does not nest too deep and whose floats read back is read as its
items, each with its fields in order. -/
theorem readSequence_text (js : List Json) (hd : (Json.arr js).depth ≤ maxDepth)
    (hf : ∀ x ∈ (Json.arr js).floats, ReadsBack x) :
    readSequence (Json.arr js).text = .ok (sortedItems js) := by
  -- What is read as a sequence is read as the items of a value.
  have h := readValue_render (.arr js) maxDepth [] hd hf endsNumber_nil
  obtain ⟨cs, hcs⟩ : ∃ cs, (Json.arr js).render = '[' :: cs := by
    cases js <;> exact ⟨_, rfl⟩
  rw [List.append_nil, hcs, maxDepth, readValue_list, sorted] at h
  obtain ⟨⟨items, rest⟩, hitems, he⟩ := map_eq_ok_iff.mp h
  obtain ⟨harr, rfl⟩ := Prod.mk.inj he
  obtain rfl := Json.arr.inj harr
  rw [readSequence, text, String.toList_ofList, hcs, skipBlanks_cons rfl]
  exact bind_eq_ok_iff.mpr ⟨_, hitems, rfl⟩

end Multiworld.Json
