import Mathlib.Data.List.DropRight
import Multiworld.Proofs.Text.Integer
import Multiworld.Text.Blank

/-!
# Numerals

The texts that are read as an integer, as a grammar: one or more ASCII digits behind an optional
sign, and white space around. Leading zeros are no matter.

## Main definitions

* `Text.Numeral`: a text is a numeral of an integer
* `Text.Denotes`: a text is a numeral of an integer with white space around

## Main results

* `Text.trim_append`: white space around a text is cut off
* `Text.integer?_eq_some_iff`: the texts that are read as an integer are its numerals
* `Text.integer?_trim_eq_some_iff`: the same with white space around
* `Text.numeral_integer`: the decimal form of an integer is a numeral of it
* `Text.integer_injective`: no two integers have the same decimal form
-/

namespace Multiworld.Text

/-! ## White space -/

section Blank

variable {cs front body back : List Char}

theorem dropWhile_isBlank (h : ∀ c ∈ cs, isBlank c = false) : cs.dropWhile isBlank = cs := by
  cases cs with
  | nil => rfl
  | cons c cs => exact List.dropWhile_cons_of_neg (Bool.eq_false_iff.mp (h c List.mem_cons_self))

/-- White space around a text is cut off. -/
theorem trim_append (hfront : ∀ c ∈ front, isBlank c = true) (hback : ∀ c ∈ back, isBlank c = true)
    (hbody : ∀ c ∈ body, isBlank c = false) : trim (front ++ body ++ back) = body := by
  have hbodyReverse : ∀ c ∈ body.reverse, isBlank c = false :=
    fun c hc => hbody c (List.mem_reverse.mp hc)
  have hbackReverse : ∀ c ∈ back.reverse, isBlank c = true :=
    fun c hc => hback c (List.mem_reverse.mp hc)
  rw [trim, List.append_assoc, List.dropWhile_append_of_pos hfront]
  cases body with
  | nil => rw [List.nil_append, List.dropWhile_eq_nil_iff.mpr hback]; rfl
  | cons c body =>
    -- Cutting off stops in front at `c`, and behind at the last character of the text.
    have hc : ¬ isBlank c = true := Bool.eq_false_iff.mp (hbody c List.mem_cons_self)
    rw [List.cons_append, List.dropWhile_cons_of_neg hc, ← List.cons_append, List.reverse_append,
      List.dropWhile_append_of_pos hbackReverse, dropWhile_isBlank hbodyReverse,
      List.reverse_reverse]

/-- A text is what is left of it with white space around. -/
theorem exists_eq_trim (cs : List Char) :
    ∃ front back, cs = front ++ trim cs ++ back ∧ (∀ c ∈ front, isBlank c = true) ∧
      ∀ c ∈ back, isBlank c = true := by
  refine ⟨cs.takeWhile isBlank, (cs.dropWhile isBlank).rtakeWhile isBlank, ?_,
    fun c => List.mem_takeWhile_imp, fun c => List.mem_rtakeWhile_imp⟩
  have htrim : trim cs = (cs.dropWhile isBlank).rdropWhile isBlank := rfl
  rw [htrim, List.append_assoc, List.rdropWhile_append_rtakeWhile, List.takeWhile_append_dropWhile]

end Blank

/-! ## Numerals -/

/-- A text is one or more ASCII digits. -/
structure Digits (ds : List Char) : Prop where
  ne_nil : ds ≠ []
  isDigit : ∀ d ∈ ds, d.isDigit = true

/-- A text is a numeral of an integer: digits behind an optional sign. -/
inductive Numeral : List Char → Int → Prop
  | plain {ds : List Char} (h : Digits ds) : Numeral ds (value ds)
  | plus {ds : List Char} (h : Digits ds) : Numeral ('+' :: ds) (value ds)
  | minus {ds : List Char} (h : Digits ds) : Numeral ('-' :: ds) (-value ds)

/-- A text denotes an integer: it is a numeral of it with white space around. -/
def Denotes (cs : List Char) (n : Int) : Prop :=
  ∃ front body back, cs = front ++ body ++ back ∧ (∀ c ∈ front, isBlank c = true) ∧
    (∀ c ∈ back, isBlank c = true) ∧ Numeral body n

section Numeral

variable {c : Char} {cs ds : List Char} {n : Int}

theorem Digits.of_cons (h : Digits (c :: ds)) : c.isDigit = true :=
  h.isDigit c List.mem_cons_self

theorem isBlank_of_isDigit (h : c.isDigit = true) : isBlank c = false := by
  have hcode : 48 ≤ c.toNat ∧ c.toNat ≤ 57 := Char.isDigit_iff_toNat.mp h
  simp only [isBlank, blank, List.any_cons, List.any_nil, Bool.or_false, Bool.or_eq_false_iff,
    Bool.and_eq_false_iff, decide_eq_false_iff_not]
  omega

theorem Digits.not_isBlank (h : Digits ds) : ∀ d ∈ ds, isBlank d = false :=
  fun d hd => isBlank_of_isDigit (h.isDigit d hd)

/-- There is no white space in a numeral. -/
theorem Numeral.not_isBlank (h : Numeral cs n) : ∀ c ∈ cs, isBlank c = false := by
  cases h with
  | plain h => exact h.not_isBlank
  | plus h => exact List.forall_mem_cons.mpr ⟨by decide, h.not_isBlank⟩
  | minus h => exact List.forall_mem_cons.mpr ⟨by decide, h.not_isBlank⟩

theorem natural?_eq_some_iff {m : Nat} : natural? ds = some m ↔ Digits ds ∧ value ds = m := by
  rw [natural?, Option.ite_none_right_eq_some, Option.some.injEq, List.all_eq_true]
  exact and_congr_left' ⟨fun h => ⟨h.1, h.2⟩, fun h => ⟨h.ne_nil, h.isDigit⟩⟩

theorem integer?_minus : integer? ('-' :: ds) = (natural? ds).map fun m : Nat => -Int.ofNat m := by
  rw [integer?]
  cases natural? ds <;> rfl

theorem map_natural?_eq_some_iff {f : Nat → Int} :
    (natural? ds).map f = some n ↔ Digits ds ∧ f (value ds) = n := by
  rw [Option.map_eq_some_iff]
  simp only [natural?_eq_some_iff]
  constructor
  · rintro ⟨m, ⟨hds, rfl⟩, rfl⟩
    exact ⟨hds, rfl⟩
  · rintro ⟨hds, rfl⟩
    exact ⟨_, ⟨hds, rfl⟩, rfl⟩

/-- The texts that are read as an integer are its numerals. -/
theorem integer?_eq_some_iff : integer? cs = some n ↔ Numeral cs n := by
  constructor
  · intro h
    unfold integer? at h
    split at h
    · obtain ⟨hds, rfl⟩ := map_natural?_eq_some_iff.mp h
      exact .plus hds
    · next ds =>
      -- The number was made an integer before its sign was changed, hence the equation.
      have hminus : integer? ('-' :: ds) = some n := h
      rw [integer?_minus] at hminus
      obtain ⟨hds, rfl⟩ := map_natural?_eq_some_iff.mp hminus
      exact .minus hds
    · obtain ⟨hds, rfl⟩ := map_natural?_eq_some_iff.mp h
      exact .plain hds
  · intro h
    cases h with
    | plus h => exact map_natural?_eq_some_iff.mpr ⟨h, rfl⟩
    | minus h =>
      rw [integer?_minus]
      exact map_natural?_eq_some_iff.mpr ⟨h, rfl⟩
    | plain h =>
      -- A digit is no sign.
      unfold integer?
      split
      · exact absurd h.of_cons (by decide)
      · exact absurd h.of_cons (by decide)
      · exact map_natural?_eq_some_iff.mpr ⟨h, rfl⟩

/-- The texts that are read as an integer once white space is cut off are those that denote it. -/
theorem integer?_trim_eq_some_iff : integer? (trim cs) = some n ↔ Denotes cs n := by
  rw [integer?_eq_some_iff]
  constructor
  · intro h
    obtain ⟨front, back, hcs, hfront, hback⟩ := exists_eq_trim cs
    exact ⟨front, trim cs, back, hcs, hfront, hback, h⟩
  · rintro ⟨front, body, back, rfl, hfront, hback, h⟩
    rw [trim_append hfront hback h.not_isBlank]
    exact h

/-- The decimal form of an integer is a numeral of it. -/
theorem numeral_integer (n : Int) : Numeral (integer n) n := by
  have hds : Digits (Nat.toDigits 10 n.natAbs) :=
    ⟨Nat.toDigits_ne_nil, fun d hd => isDigit_of_mem_toDigits hd⟩
  unfold integer
  split
  · next hn =>
    have h := Numeral.minus hds
    have habs : -(n.natAbs : Int) = n := by omega
    rwa [value_toDigits, habs] at h
  · next hn =>
    have h := Numeral.plain hds
    rwa [value_toDigits, Int.natAbs_of_nonneg (Int.not_lt.mp hn)] at h

theorem denotes_integer (n : Int) : Denotes (integer n) n :=
  ⟨[], integer n, [], (List.append_nil _).symm, List.forall_mem_nil _, List.forall_mem_nil _,
    numeral_integer n⟩

/-- An integer is all that its decimal form denotes, so no other integer has the same one. -/
theorem integer_injective : Function.Injective integer := by
  intro m n h
  have hm : integer? (integer m) = some m := integer?_eq_some_iff.mpr (numeral_integer m)
  have hn : integer? (integer n) = some n := integer?_eq_some_iff.mpr (numeral_integer n)
  rw [h, hn] at hm
  exact (Option.some.inj hm).symm

/-- The decimal form is the one that is shown. -/
theorem ofList_integer (n : Int) : String.ofList (integer n) = toString n := by
  cases n with
  | ofNat n => rfl
  | negSucc n =>
    rw [integer, if_pos (Int.negSucc_lt_zero n), String.ofList_cons]
    rfl

theorem eq_minus_or_isDigit_of_mem_integer (h : c ∈ integer n) : c = '-' ∨ c.isDigit = true := by
  unfold integer at h
  split at h
  · exact (List.mem_cons.mp h).imp_right isDigit_of_mem_toDigits
  · exact .inr (isDigit_of_mem_toDigits h)

end Numeral

end Multiworld.Text
