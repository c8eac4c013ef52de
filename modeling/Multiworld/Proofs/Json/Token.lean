import Mathlib.Data.List.TakeWhile
import Multiworld.Json.Reader
import Multiworld.Proofs.Json.Strings
import Multiworld.Proofs.Outcome
import Multiworld.Proofs.Text.Integer

/-!
# Numbers, read back

What is written for an integer is read as that integer, whatever stands behind it that would
not go on with it.

A float is read in steps that round, so not every float reads back as itself. What can be
said of all of them is that reading does not depend on what stands behind.

## Main definitions

* `Json.EndsNumber`: what may stand behind a number
* `Json.Local`: a reader that does not look at it

## Main results

* `Json.local_readNum`: what stands behind a number does not matter
* `Json.readNum_integer`: integers read back
-/

namespace Multiworld.Json

/-! ## Blanks -/

theorem skipBlanks_cons {c : Char} (h : isBlank c = false) (cs : List Char) :
    skipBlanks (c :: cs) = c :: cs := by
  rw [skipBlanks, List.dropWhile_cons_of_neg (by simp [h])]

/-! ## What stands behind a number -/

/-- Nothing that would go on with a number in front of it. -/
def EndsNumber (cs : List Char) : Prop :=
  ∀ c ∈ cs.head?, c.isDigit = false ∧ c ≠ '.' ∧ c ≠ 'e' ∧ c ≠ 'E'

theorem endsNumber_nil : EndsNumber [] := by
  simp [EndsNumber]

theorem endsNumber_cons {c : Char} (h : c.isDigit = false ∧ c ≠ '.' ∧ c ≠ 'e' ∧ c ≠ 'E')
    (cs : List Char) : EndsNumber (c :: cs) := by
  simpa [EndsNumber] using h

/-- A reader that takes what it reads from the front of a text, and does not look behind it
where a number ends. -/
def Local {α : Type} (read : Reader α) : Prop :=
  ∀ ⦃cs : List Char⦄ ⦃v : α⦄ ⦃rest : List Char⦄, read cs = .ok (v, rest) →
    rest <:+ cs ∧ ∀ more, EndsNumber more → read (cs ++ more) = .ok (v, rest ++ more)

section Local

variable {α β : Type}

theorem Local.bind {read : Reader α} {next : α → Reader β} (hread : Local read)
    (hnext : ∀ v, Local (next v)) : Local fun cs => read cs >>= fun p => next p.1 p.2 := by
  intro cs w rest h
  obtain ⟨⟨v, mid⟩, hv, hw⟩ := bind_eq_ok_iff.mp h
  obtain ⟨hmid, hmore⟩ := hread hv
  obtain ⟨hrest, hmore'⟩ := hnext v hw
  refine ⟨hrest.trans hmid, fun more hm => ?_⟩
  exact bind_eq_ok_iff.mpr ⟨(v, mid ++ more), hmore more hm, hmore' more hm⟩

theorem Local.map {read : Reader α} (hread : Local read) (f : α → β) :
    Local fun cs => (read cs).map fun p => (f p.1, p.2) := by
  intro cs w rest h
  obtain ⟨⟨v, mid⟩, hv, hw⟩ := map_eq_ok_iff.mp h
  obtain ⟨rfl, rfl⟩ := Prod.mk.inj hw
  obtain ⟨hmid, hmore⟩ := hread hv
  exact ⟨hmid, fun more hm => map_eq_ok_iff.mpr ⟨(v, mid ++ more), hmore more hm, rfl⟩⟩

theorem local_ok (v : α) : Local fun cs => .ok (v, cs) := by
  intro cs w rest h
  obtain ⟨rfl, rfl⟩ := Prod.mk.inj (Except.ok.inj h)
  exact ⟨List.suffix_rfl, fun _ _ => rfl⟩

/-- The digits in front of a text go on into `more` only if that starts with one. -/
theorem span_isDigit_append (cs : List Char) {more : List Char}
    (h : ∀ c ∈ more.head?, c.isDigit = false) :
    (cs ++ more).takeWhile Char.isDigit = cs.takeWhile Char.isDigit ∧
      (cs ++ more).dropWhile Char.isDigit = cs.dropWhile Char.isDigit ++ more := by
  induction cs with
  | nil =>
    -- Here the digits of `more` would be taken, but it starts with none.
    match more with
    | [] => simp
    | c :: more =>
      have hc : c.isDigit = false := h c rfl
      simp [hc]
  | cons c cs ih =>
    by_cases hc : c.isDigit = true
    · simpa [hc] using ih
    · simp [hc]

theorem readDigits_append {ds more : List Char} (hne : ds ≠ [])
    (hdigits : ∀ c ∈ ds, c.isDigit = true) (hmore : ∀ c ∈ more.head?, c.isDigit = false) :
    readDigits (ds ++ more) = .ok (ds, more) := by
  obtain ⟨htake, hdrop⟩ := span_isDigit_append ds hmore
  rw [List.takeWhile_eq_self_iff.mpr hdigits] at htake
  rw [List.dropWhile_eq_nil_iff.mpr hdigits, List.nil_append] at hdrop
  match ds, hne with
  | c :: ds, _ =>
    rw [List.cons_append] at htake hdrop ⊢
    rw [readDigits, if_pos (hdigits c List.mem_cons_self), htake, hdrop]

theorem local_readDigits : Local readDigits := by
  intro cs ds rest h
  match cs with
  | [] => simp [readDigits] at h
  | c :: cs =>
    rw [readDigits] at h
    split at h
    · next hc =>
      simp only [Except.ok.injEq, Prod.mk.injEq] at h
      obtain ⟨rfl, rfl⟩ := h
      refine ⟨List.dropWhile_suffix _, fun more hm => ?_⟩
      obtain ⟨htake, hdrop⟩ := span_isDigit_append (c :: cs) fun d hd => (hm d hd).1
      rw [← htake, ← hdrop, List.cons_append, readDigits, if_pos hc]
    · exact absurd h (by simp)

theorem local_readWhole : Local readWhole := by
  intro cs ds rest h
  unfold readWhole at h
  split at h
  · split at h
    · next c cs =>
      -- A zero stands alone.
      split at h
      · exact absurd h (by simp)
      · next hc =>
        simp only [Except.ok.injEq, Prod.mk.injEq] at h
        obtain ⟨rfl, rfl⟩ := h
        refine ⟨List.suffix_cons _ _, fun more _ => ?_⟩
        simp [readWhole, hc]
    · simp only [Except.ok.injEq, Prod.mk.injEq] at h
      obtain ⟨rfl, rfl⟩ := h
      refine ⟨List.nil_suffix, fun more hm => ?_⟩
      match more with
      | [] => rfl
      | c :: more =>
        have hc : c.isDigit = false := (hm c rfl).1
        simp [readWhole, hc]
  · next hz =>
    obtain ⟨hrest, hmore⟩ := local_readDigits h
    refine ⟨hrest, fun more hm => ?_⟩
    rw [← hmore more hm]
    match cs with
    | [] => simp [readDigits] at h
    | c :: cs =>
      rw [List.cons_append, readWhole]
      intro _ he
      exact hz cs (by rw [(List.cons.inj he).1])

theorem local_readFraction : Local readFraction := by
  intro cs ds rest h
  unfold readFraction at h
  split at h
  · next cs =>
    obtain ⟨hrest, hmore⟩ := local_readDigits.map some h
    exact ⟨hrest.trans (List.suffix_cons _ _), hmore⟩
  · next hp =>
    -- There is no point in front, and `more` does not start with one either.
    obtain ⟨rfl, rfl⟩ := Prod.mk.inj (Except.ok.inj h)
    refine ⟨List.suffix_rfl, fun more hm => ?_⟩
    rw [readFraction]
    intro r he
    match cs with
    | [] => exact (hm '.' (by rw [List.nil_append] at he; rw [he]; rfl)).2.1 rfl
    | c :: cs => exact hp cs (by rw [(List.cons.inj he).1])

theorem readExponent_of_ne {c : Char} (hc : ¬ (c = 'e' ∨ c = 'E')) (cs : List Char) :
    readExponent (c :: cs) = .ok (none, c :: cs) := by
  unfold readExponent
  exact if_neg hc

theorem local_readExponent : Local readExponent := by
  intro cs ds rest h
  match cs with
  | [] =>
    obtain ⟨rfl, rfl⟩ := Prod.mk.inj (Except.ok.inj h)
    refine ⟨List.suffix_rfl, fun more hm => ?_⟩
    match more with
    | [] => rfl
    | c :: more => exact readExponent_of_ne (by simp [hm c rfl]) more
  | c :: cs =>
    by_cases hc : c = 'e' ∨ c = 'E'
    · -- With a sign or without one, what remains is digits.
      have hsign (negative : Bool) :
          Local fun cs => (readDigits cs).map fun p => (some (negative, p.1), p.2) :=
        local_readDigits.map fun ds => some (negative, ds)
      unfold readExponent at h ⊢
      simp only [hc, if_true, List.cons_append] at h ⊢
      split at h
      · obtain ⟨hrest, hmore⟩ := hsign true h
        exact ⟨hrest.trans ⟨[c, '-'], rfl⟩, hmore⟩
      · obtain ⟨hrest, hmore⟩ := hsign false h
        exact ⟨hrest.trans ⟨[c, '+'], rfl⟩, hmore⟩
      · next hminus hplus =>
        obtain ⟨hrest, hmore⟩ := hsign false h
        refine ⟨hrest.trans (List.suffix_cons _ _), fun more hm => ?_⟩
        match cs with
        | [] => simp [readDigits, Except.map] at h
        | d :: cs =>
          rw [List.cons_append]
          split
          · next he => exact (hminus cs (by rw [(List.cons.inj he).1])).elim
          · next he => exact (hplus cs (by rw [(List.cons.inj he).1])).elim
          · exact hmore more hm
    · rw [readExponent_of_ne hc] at h
      obtain ⟨rfl, rfl⟩ := Prod.mk.inj (Except.ok.inj h)
      exact ⟨List.suffix_rfl, fun more _ => readExponent_of_ne hc (cs ++ more)⟩

/-- A number behind its sign. -/
def readUnsigned (negative : Bool) : Reader Literal := fun cs => do
  let (whole, cs) ← readWhole cs
  let (fraction, cs) ← readFraction cs
  let (exponent, cs) ← readExponent cs
  return (⟨negative, whole, fraction, exponent⟩, cs)

theorem readLiteral_minus (cs : List Char) : readLiteral ('-' :: cs) = readUnsigned true cs :=
  rfl

theorem readLiteral_of_ne {c : Char} (hc : c ≠ '-') (cs : List Char) :
    readLiteral (c :: cs) = readUnsigned false (c :: cs) := by
  unfold readLiteral readUnsigned
  split
  next negative rest he =>
  split at he
  · next he' => exact absurd (List.cons.inj he').1 hc
  · obtain ⟨rfl, rfl⟩ := Prod.mk.inj he
    rfl

theorem local_readUnsigned (negative : Bool) : Local (readUnsigned negative) :=
  local_readWhole.bind fun whole => local_readFraction.bind fun fraction =>
    local_readExponent.bind fun exponent => local_ok (Literal.mk negative whole fraction exponent)

theorem local_readLiteral : Local readLiteral := by
  intro cs l rest h
  -- A sign is part of the literal only in front.
  match cs with
  | [] => simp [readLiteral, readWhole, readDigits, bind, Except.bind] at h
  | c :: cs =>
    by_cases hc : c = '-'
    · subst hc
      obtain ⟨hrest, hmore⟩ := local_readUnsigned true h
      exact ⟨hrest.trans (List.suffix_cons _ _), hmore⟩
    · rw [readLiteral_of_ne hc] at h
      obtain ⟨hrest, hmore⟩ := local_readUnsigned false h
      refine ⟨hrest, fun more hm => ?_⟩
      rw [List.cons_append, readLiteral_of_ne hc]
      exact hmore more hm

theorem local_readNum : Local readNum := by
  intro cs n rest h
  obtain ⟨⟨l, mid⟩, hl, hn⟩ := bind_eq_ok_iff.mp h
  dsimp only at hn
  split at hn
  · next m hm =>
    obtain ⟨rfl, rfl⟩ := Prod.mk.inj (Except.ok.inj hn)
    obtain ⟨hrest, hmore⟩ := local_readLiteral hl
    refine ⟨hrest, fun more hmm => bind_eq_ok_iff.mpr ⟨(l, mid ++ more), hmore more hmm, ?_⟩⟩
    simp only [hm]
    rfl
  · cases hn

end Local

/-! ## Numbers -/

theorem readWhole_toDigits (n : Nat) :
    readWhole (Nat.toDigits 10 n) = .ok (Nat.toDigits 10 n, []) := by
  rcases Nat.eq_zero_or_pos n with rfl | hn
  · rw [Nat.toDigits_zero]
    rfl
  · have hdigits : ∀ c ∈ Nat.toDigits 10 n, c.isDigit = true := fun _ => Text.isDigit_of_mem_toDigits
    obtain ⟨c, ds, hds, hc⟩ := Text.toDigits_eq_cons hn
    rw [hds] at hdigits ⊢
    rw [readWhole, readDigits, if_pos (hdigits c List.mem_cons_self),
      List.takeWhile_eq_self_iff.mpr hdigits, List.dropWhile_eq_nil_iff.mpr hdigits]
    rintro _ he
    exact hc (List.cons.inj he).1

theorem readUnsigned_toDigits (negative : Bool) (n : Nat) :
    readUnsigned negative (Nat.toDigits 10 n) =
      .ok (⟨negative, Nat.toDigits 10 n, none, none⟩, []) := by
  rw [readUnsigned, readWhole_toDigits]
  rfl

theorem readLiteral_integer (n : Int) :
    readLiteral (Text.integer n) =
      .ok (⟨decide (n < 0), Nat.toDigits 10 n.natAbs, none, none⟩, []) := by
  unfold Text.integer
  split
  · next h => rw [readLiteral_minus, readUnsigned_toDigits, decide_eq_true h]
  · next h =>
    have hu := readUnsigned_toDigits false n.natAbs
    rw [decide_eq_false h, ← hu]
    match hd : Nat.toDigits 10 n.natAbs with
    | [] => exact absurd hd Nat.toDigits_ne_nil
    | c :: ds =>
      have hc : c.isDigit = true := Text.isDigit_of_mem_toDigits (hd ▸ List.mem_cons_self)
      exact readLiteral_of_ne (by rintro rfl; exact absurd hc (by decide)) ds

theorem wireInt?_val (n : WireInt) : wireInt? n.val = some n := by
  rw [wireInt?, dif_pos ⟨n.ge, n.lt⟩]

/-- An integer reads back as itself, whatever stands behind it. -/
theorem readNum_integer (n : WireInt) {more : List Char} (h : EndsNumber more) :
    readNum (Text.integer n.val ++ more) = .ok (.int n, more) := by
  have hnum : Literal.num? ⟨decide (n.val < 0), Nat.toDigits 10 n.val.natAbs, none, none⟩ =
      some (.int n) := by
    have hval : (if n.val < 0 then -(n.val.natAbs : Int) else n.val.natAbs) = n.val := by
      split <;> omega
    simp only [Literal.num?, Text.value_toDigits, decide_eq_true_eq, hval, wireInt?_val]
    exact if_pos ⟨rfl, rfl, by omega⟩
  -- Read alone, it is read to its end; then what stands behind does not matter.
  have hread : readNum (Text.integer n.val) = .ok (.int n, []) := by
    refine bind_eq_ok_iff.mpr ⟨_, readLiteral_integer n.val, ?_⟩
    simp only [hnum]
    rfl
  exact (local_readNum hread).2 more h

end Multiworld.Json
