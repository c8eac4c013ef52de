import Multiworld.Proofs.Binary64.Literal
import Multiworld.Proofs.Binary64.Shortest
import Multiworld.Proofs.Json.Reader

/-!
# Floats, read back

A float is written as its shortest decimal and read in steps that round. Where the decimal has few
places behind the point and its digits are a number below `2^53`, reading rounds once, to the number
that the decimal rounds to; and so the float reads back as itself.

## Main definitions

* `Decimal.NoLeadingZero`: digits as they stand before a point
* `Decimal.Spells`: the digits of a decimal before the point and behind it

## Main results

* `Decimal.exists_spells`: the digits that a decimal is written with
* `Json.readsBack_of_shortest`: floats with a short decimal read back
-/

namespace Multiworld

namespace Decimal

/-- Digits as they stand before a point: a zero in front stands alone. -/
def NoLeadingZero (ds : List Char) : Prop := ds = ['0'] ∨ ∃ c cs, ds = c :: cs ∧ c ≠ '0'

/-- The digits of a decimal before the point and behind it. -/
structure Spells (d : Decimal) (whole fraction : List Char) : Prop where
  noLeadingZero : NoLeadingZero whole
  digits : ∀ c ∈ whole ++ fraction, c.isDigit = true
  length_eq : fraction.length = max 1 (-d.exponent).toNat
  value_eq : Text.value (whole ++ fraction) * d.den = d.num * Nat.pow 10 fraction.length

section Spelling

variable {d : Decimal} {whole fraction : List Char}

/-- With places behind the point, the digits are those of the decimal. -/
theorem Spells.of_neg (hk : d.exponent < 0)
    (hwhole : NoLeadingZero whole) (hdigits : ∀ c ∈ whole ++ fraction, c.isDigit = true)
    (hlength : fraction.length = (-d.exponent).toNat)
    (hvalue : Text.value (whole ++ fraction) = d.digits) : d.Spells whole fraction where
  noLeadingZero := hwhole
  digits := hdigits
  length_eq := by omega
  value_eq := by rw [hvalue, hlength, num_of_nonpos (Int.le_of_lt hk), den]

/-- **The digits that a decimal is written with**, as long as its exponent is not written. -/
theorem exists_spells (hd : 0 < d.digits) :
    ∃ whole fraction,
      Json.layout.writePositional (Nat.toDigits 10 d.digits)
        (d.exponent + ((Nat.toDigits 10 d.digits).length - 1 : Nat)) =
          whole ++ '.' :: fraction ∧ d.Spells whole fraction := by
  have hdigits : ∀ c ∈ Nat.toDigits 10 d.digits, c.isDigit = true :=
    fun _ => Text.isDigit_of_mem_toDigits
  have hzeros (m : Nat) : ∀ c ∈ List.replicate m '0', c.isDigit = true := fun c hc => by
    rw [List.eq_of_mem_replicate hc]
    rfl
  have hvalue : Text.value (Nat.toDigits 10 d.digits) = d.digits := Text.value_toDigits _
  obtain ⟨c, cs, hcs, hc⟩ := Text.toDigits_eq_cons hd
  generalize Nat.toDigits 10 d.digits = ds at hdigits hvalue hcs ⊢
  have hlen : 0 < ds.length := hcs ▸ Nat.succ_pos _
  unfold Layout.writePositional
  dsimp only
  -- The point stands before all digits, behind them all, or among them.
  split
  · next he =>
    refine ⟨['0'], _, rfl, .of_neg (by omega) (.inl rfl) ?_ ?_ ?_⟩
    · simpa only [List.forall_mem_append, List.forall_mem_singleton] using ⟨rfl, hzeros _, hdigits⟩
    · rw [List.length_append, List.length_replicate]
      omega
    · exact (Text.value_zeros_append 1 _).trans ((Text.value_zeros_append _ _).trans hvalue)
  · split
    · next he hle =>
      have hk : 0 ≤ d.exponent := by omega
      refine ⟨ds ++ List.replicate _ '0', ['0'], rfl, .inr ⟨c, _, by rw [hcs]; rfl, hc⟩, ?_, ?_, ?_⟩
      · simpa only [List.forall_mem_append, List.forall_mem_singleton] using
          ⟨⟨hdigits, hzeros _⟩, rfl⟩
      · rw [show (-d.exponent).toNat = 0 by omega]
        rfl
      · rw [show ['0'] = List.replicate 1 '0' from rfl, Text.value_append_zeros,
          Text.value_append_zeros, hvalue, num, den_of_nonneg hk, Nat.mul_one, List.length_replicate,
          show (d.exponent + (ds.length - 1 : Nat)).toNat + 1 - ds.length = d.exponent.toNat by omega]
    · next he hgt =>
      refine ⟨_, _, rfl, .of_neg (by omega) (.inr ⟨c, _, by rw [hcs]; rfl, hc⟩) ?_ ?_ ?_⟩
      · rwa [List.take_append_drop]
      · rw [List.length_drop]
        omega
      · rw [List.take_append_drop, hvalue]

end Spelling

end Decimal

namespace Json

/-! ## A point among digits -/

section Point

variable {whole fraction more : List Char}

theorem readWhole_append (hwhole : Decimal.NoLeadingZero whole)
    (hdigits : ∀ c ∈ whole, c.isDigit = true) (hmore : ∀ c ∈ more.head?, c.isDigit = false) :
    readWhole (whole ++ more) = .ok (whole, more) := by
  rcases hwhole with rfl | ⟨c, ds, rfl, hc⟩
  · match more, hmore with
    | [], _ => rfl
    | c :: more, hmore => simp [readWhole, hmore c rfl]
  · rw [← readDigits_append (List.cons_ne_nil c ds) hdigits hmore, List.cons_append, readWhole]
    rintro _ he
    exact hc (List.cons.inj he).1

theorem readFraction_point (hne : fraction ≠ []) (hdigits : ∀ c ∈ fraction, c.isDigit = true)
    (hmore : ∀ c ∈ more.head?, c.isDigit = false) :
    readFraction ('.' :: (fraction ++ more)) = .ok (some fraction, more) :=
  map_eq_ok_iff.mpr ⟨_, readDigits_append hne hdigits hmore, rfl⟩

theorem readUnsigned_point (negative : Bool)
    (hwhole : Decimal.NoLeadingZero whole)
    (hdigits : ∀ c ∈ whole ++ fraction, c.isDigit = true) (hne : fraction ≠ []) :
    readUnsigned negative (whole ++ '.' :: fraction) =
      .ok (⟨negative, whole, some fraction, none⟩, []) := by
  obtain ⟨hwholeDigits, hfraction⟩ := List.forall_mem_append.mp hdigits
  have hpoint : readFraction ('.' :: (fraction ++ [])) = .ok (some fraction, []) :=
    readFraction_point hne hfraction (by simp)
  rw [List.append_nil] at hpoint
  exact bind_eq_ok_iff.mpr ⟨_, readWhole_append hwhole hwholeDigits (by simp),
    bind_eq_ok_iff.mpr ⟨_, hpoint, rfl⟩⟩

end Point

/-! ## Short decimals -/

section Short

variable {x : Binary64} {d : Decimal} {n : Nat} {whole fraction : List Char}

/-- A decimal that is spelled with few digits is read to the number that it rounds to. -/
theorem float?_of_spells (hspells : d.Spells whole fraction) (hunits : d.units = x.units)
    (hvalue : Text.value (whole ++ fraction) < 2 ^ 53)
    (hpower : Nat.pow 10 fraction.length < 2 ^ 53) :
    (Literal.mk x.negative whole (some fraction) none).float? = some x := by
  have hle := Text.value_le_value_append whole fraction
  -- All digits are read: those before the point, and behind them those after it.
  have hfirst : Text.appendDigits (2 ^ 64) (Text.value []) whole = (Text.value ([] ++ whole), []) :=
    Text.appendDigits_value (Nat.lt_of_le_of_lt hle (Nat.lt_trans hvalue (by decide)))
  have hsecond : Text.appendDigits (2 ^ 64) (Text.value whole) fraction =
      (Text.value (whole ++ fraction), []) :=
    Text.appendDigits_value (Nat.lt_trans hvalue (by decide))
  have hsignificand : (Literal.mk x.negative whole (some fraction) none).significand =
      (Text.value (whole ++ fraction), -(fraction.length : Int)) := by
    rw [List.nil_append] at hfirst
    have hzero : Text.value [] = 0 := rfl
    simp only [Literal.significand, Option.getD_some, ← hzero, hfirst, hsecond, Literal.scale]
    simp
  rw [Literal.float?, hsignificand]
  refine Binary64.ofDecimal?_eq_some hvalue ?_ hpower ?_
  · rw [hspells.length_eq]
    omega
  · rw [← hunits, Decimal.units]
    refine Binary64.roundUnits_congr (Nat.pow_pos (by decide)) d.den_pos ?_
    rw [Nat.shiftLeft_eq, Nat.shiftLeft_eq, Nat.mul_right_comm, hspells.value_eq,
      Nat.mul_right_comm]

theorem readsBack_of_readNum {c : Char} {cs : List Char} (hwrite : Json.layout.write x = c :: cs)
    (hc : c = '-' ∨ c.isDigit = true) (hread : readNum (c :: cs) = .ok (.float x, [])) :
    ReadsBack x := by
  refine bind_eq_ok_iff.mpr ⟨(.num (.float x), []), ?_, rfl⟩
  rw [text, String.toList_ofList, render, Num.render, hwrite, readValue_num _ hc, hread]
  rfl

/-- What is spelled with a sign in front is read as spelled. -/
theorem readLiteral_of_spells (negative : Bool) (hspells : d.Spells whole fraction) :
    ∃ c cs, (if negative then ['-'] else []) ++ (whole ++ '.' :: fraction) = c :: cs ∧
      (c = '-' ∨ c.isDigit = true) ∧
      readLiteral (c :: cs) = .ok (⟨negative, whole, some fraction, none⟩, []) := by
  have hne : fraction ≠ [] := by
    rintro rfl
    have hlength := hspells.length_eq
    rw [List.length_nil] at hlength
    omega
  have hread := readUnsigned_point negative hspells.noLeadingZero hspells.digits hne
  cases negative with
  | true => exact ⟨'-', _, rfl, .inl rfl, hread⟩
  | false =>
    obtain ⟨c, ds, rfl⟩ : ∃ c ds, whole = c :: ds := by
      rcases hspells.noLeadingZero with h | ⟨c, ds, h, -⟩
      · exact ⟨'0', [], h⟩
      · exact ⟨c, ds, h⟩
    have hc : c.isDigit = true := hspells.digits c List.mem_cons_self
    refine ⟨c, _, rfl, .inr hc, ?_⟩
    rw [readLiteral_of_ne (by rintro rfl; exact absurd hc (by decide))]
    exact hread

/-- A float that is written as spelled reads back if what is spelled denotes it. -/
theorem readsBack_of_spells (hspells : d.Spells whole fraction)
    (hwrite : Json.layout.write x =
      (if x.negative then ['-'] else []) ++ (whole ++ '.' :: fraction))
    (hfloat : (Literal.mk x.negative whole (some fraction) none).float? = some x) :
    ReadsBack x := by
  obtain ⟨c, cs, hsigned, hc, hliteral⟩ := readLiteral_of_spells x.negative hspells
  have hnum : Literal.num? ⟨x.negative, whole, some fraction, none⟩ = some (.float x) := by
    rw [Literal.num?, hfloat]
    rfl
  refine readsBack_of_readNum (hwrite.trans hsigned) hc (bind_eq_ok_iff.mpr ⟨_, hliteral, ?_⟩)
  dsimp only
  rw [hnum]
  rfl

/-- The leading digit of a decimal below `2^53` stands for a power of ten below `10^16`. -/
theorem exponent_lt (hd : 0 < d.digits) (hplaces : -(n : Int) ≤ d.exponent)
    (hlt : d.num * Nat.pow 10 n < 2 ^ 53 * d.den) :
    d.exponent + ((Nat.toDigits 10 d.digits).length - 1 : Nat) < 16 := by
  have hnum : d.num < 10 ^ 16 := by
    have hden : d.den ≤ Nat.pow 10 n := Nat.pow_le_pow_right (by decide) (by omega)
    have hle := Nat.lt_of_lt_of_le hlt (Nat.mul_le_mul_left _ hden)
    exact Nat.lt_trans (Nat.lt_of_mul_lt_mul_right hle) (by decide)
  -- The digits are counted alone, or with the zeros that the exponent puts behind them.
  rcases Int.le_total d.exponent 0 with hk | hk
  · rw [Decimal.num_of_nonpos hk, ← Nat.length_toDigits_le_iff (by decide) (by decide)] at hnum
    omega
  · obtain ⟨k, hk⟩ := Int.eq_ofNat_of_zero_le hk
    rw [Decimal.num, hk, Int.toNat_natCast, Nat.pow_eq] at hnum
    have hk16 : k < 16 := by
      refine (Nat.pow_lt_pow_iff_right (by decide : 1 < 10)).mp ?_
      exact Nat.lt_of_le_of_lt (Nat.le_mul_of_pos_left _ hd) hnum
    rw [show 16 = 16 - k + k by omega, Nat.pow_add] at hnum
    have hdigits := Nat.lt_of_mul_lt_mul_right hnum
    rw [← Nat.length_toDigits_le_iff (by decide) (by omega)] at hdigits
    omega

/-- **Floats with a short decimal read back.** With more than five places, it may be written with an
exponent. -/
theorem readsBack_of_shortest (hd : Binary64.shortest Json.layout.tie x.units = d)
    (hunits : d.units = x.units) (h0 : x.units ≠ 0) (hn : 0 < n) (hn5 : n ≤ 5)
    (hplaces : -(n : Int) ≤ d.exponent) (hlt : d.num * Nat.pow 10 n < 2 ^ 53 * d.den) :
    ReadsBack x := by
  have hpos : 0 < d.digits := by
    refine Nat.pos_of_ne_zero fun h => h0 ?_
    rw [← hunits, Decimal.units, Decimal.num, h, Nat.zero_mul, Nat.zero_shiftLeft,
      Binary64.roundUnits_zero]
  have hpositional : Json.layout.positional
      (d.exponent + ((Nat.toDigits 10 d.digits).length - 1 : Nat)) = true := by
    have hexponent := exponent_lt hpos hplaces hlt
    simp only [Json.layout, Bool.and_eq_true, decide_eq_true_eq]
    omega
  obtain ⟨whole, fraction, htext, hspells⟩ := Decimal.exists_spells hpos
  have hpower : Nat.pow 10 fraction.length ≤ Nat.pow 10 n := by
    have hlength := hspells.length_eq
    exact Nat.pow_le_pow_right (by decide) (by omega)
  have hpower53 : Nat.pow 10 fraction.length < 2 ^ 53 :=
    Nat.lt_of_le_of_lt (Nat.le_trans hpower (Nat.pow_le_pow_right (by decide) hn5)) (by decide)
  have hvalue : Text.value (whole ++ fraction) < 2 ^ 53 := by
    refine Nat.lt_of_mul_lt_mul_right (a := d.den) ?_
    rw [hspells.value_eq]
    exact Nat.lt_of_le_of_lt (Nat.mul_le_mul_left _ hpower) hlt
  refine readsBack_of_spells hspells ?_ (float?_of_spells hspells hunits hvalue hpower53)
  rw [← htext, Layout.write]
  dsimp only
  rw [if_neg h0, hd, if_pos hpositional]

end Short

end Json

end Multiworld
