/-!
# Finite binary64 numbers

A finite binary64 number is a whole number of units of `2^-1074`, the least positive
one, with at most 53 significant bits. Arithmetic is exact on the units and rounded
once, to the nearest number and on a tie to the even one, so that every operation is
a statement about natural numbers.

## Main definitions

* `Binary64`: sign and number of units
* `Binary64.ofQuotient?`: the nearest number to a quotient of units
* `Binary64.ofRatio?`, `Binary64.ofFraction`, `Binary64.ofInt`: the nearest number to a
  fraction, to an integer
* `Binary64.mul?`, `Binary64.div?`, `Binary64.mulNat?`: the rounded product and quotient,
  and the rounded product with a natural number
* `Binary64.nearestInt`: the nearest integer, a half going away from zero
-/

-- A power of two numerals is that of the core library, also beside monoids.
attribute [default_instance 20000] instPowNat

namespace Multiworld

/-- The integer nearest to `a / d`, of two equally near ones the even. -/
def roundHalfEven (a d : Nat) : Nat :=
  if 2 * (a % d) < d then a / d
  else if d < 2 * (a % d) then a / d + 1
  else a / d + a / d % 2

theorem div_le_roundHalfEven (a d : Nat) : a / d ≤ roundHalfEven a d := by
  unfold roundHalfEven
  split
  · exact Nat.le_refl _
  · split <;> omega

theorem roundHalfEven_le (a d : Nat) : roundHalfEven a d ≤ a / d + 1 := by
  unfold roundHalfEven
  split
  · omega
  · split
    · exact Nat.le_refl _
    · have := Nat.mod_lt (a / d) (y := 2) (by omega)
      omega

/-- The distance of a number to the next larger one, in units. -/
def Binary64.spacing (units : Nat) : Nat := 1 <<< (units.log2 - 52)

/-- A finite binary64 number: `units` times `2^-1074`, below zero if `negative`. Zero
has both signs. -/
structure Binary64 where
  negative : Bool
  units : Nat
  /-- At most 53 significant bits. -/
  spacing_dvd : Binary64.spacing units ∣ units
  /-- Below `2^1024`. -/
  log2_lt : units.log2 < 2098
deriving DecidableEq

namespace Binary64

/-- `a / d` units rounded to 53 significant bits. -/
def roundUnits (a d : Nat) : Nat :=
  roundHalfEven a (d * spacing (a / d)) * spacing (a / d)

theorem roundHalfEven_spacing_le (a d : Nat) :
    roundHalfEven a (d * spacing (a / d)) ≤ 2 ^ 53 := by
  refine Nat.le_trans (roundHalfEven_le _ _) ?_
  rw [← Nat.div_div_eq_div_mul]
  refine Nat.succ_le_of_lt (Nat.div_lt_of_lt_mul ?_)
  rw [spacing, Nat.one_shiftLeft, ← Nat.pow_add]
  exact Nat.lt_of_lt_of_le Nat.lt_log2_self (Nat.pow_le_pow_right (by decide) (by omega))

theorem spacing_dvd_roundUnits (a d : Nat) : spacing (roundUnits a d) ∣ roundUnits a d := by
  have hle := roundHalfEven_spacing_le a d
  have hdvd : spacing (a / d) ∣ roundUnits a d := Nat.dvd_mul_left _ _
  have hu : roundUnits a d = roundHalfEven a (d * spacing (a / d)) * spacing (a / d) := rfl
  have hp : spacing (a / d) = 2 ^ ((a / d).log2 - 52) := Nat.one_shiftLeft _
  rw [hp] at hdvd
  rw [spacing, Nat.one_shiftLeft]
  generalize (a / d).log2 - 52 = p at hp hdvd
  rcases Nat.lt_or_eq_of_le hle with hlt | heq
  · refine Nat.dvd_trans (Nat.pow_dvd_pow 2 ?_) hdvd
    by_cases h0 : roundUnits a d = 0
    · simp [h0]
    · have : roundUnits a d < 2 ^ (53 + p) := by
        rw [hu, Nat.pow_add, ← hp]
        exact Nat.mul_lt_mul_of_pos_right hlt (hp ▸ Nat.two_pow_pos p)
      have := (Nat.log2_lt h0).mpr this
      omega
  · have h2 : roundUnits a d = 2 ^ (53 + p) := by rw [hu, heq, hp, Nat.pow_add]
    rw [h2, Nat.log2_two_pow]
    exact Nat.pow_dvd_pow 2 (by omega)

/-- Rounding at most doubles what it rounds. -/
theorem roundUnits_le (a d : Nat) : roundUnits a d ≤ max (2 ^ 53) (2 * (a / d)) := by
  have hle := roundHalfEven_spacing_le a d
  unfold roundUnits
  by_cases h : (a / d).log2 ≤ 52
  · have : spacing (a / d) = 1 := by
      rw [spacing, Nat.sub_eq_zero_of_le h, Nat.one_shiftLeft, Nat.pow_zero]
    rw [this] at hle ⊢
    omega
  · have hne : a / d ≠ 0 := by
      intro h0
      rw [h0] at h
      exact h (by decide)
    have hlog := Nat.log2_self_le hne
    have : 2 ^ 53 * spacing (a / d) = 2 * 2 ^ (a / d).log2 := by
      rw [spacing, Nat.one_shiftLeft, ← Nat.pow_add, ← Nat.pow_succ']
      congr 1
      omega
    have := Nat.mul_le_mul_right (spacing (a / d)) hle
    omega

/-- The number nearest to `a / d` units; none if that is too large for a number. -/
def ofQuotient? (negative : Bool) (a d : Nat) : Option Binary64 :=
  if h : (roundUnits a d).log2 < 2098 then
    some ⟨negative, roundUnits a d, spacing_dvd_roundUnits a d, h⟩
  else none

/-- The number nearest to `num / den`. -/
def ofRatio? (negative : Bool) (num den : Nat) : Option Binary64 :=
  ofQuotient? negative (num <<< 1074) den

theorem log2_roundUnits_lt {n k : Nat} (d : Nat) (hn : n < 1 <<< k) (hk : 53 ≤ k) :
    (roundUnits n d).log2 < k + 1 := by
  rw [Nat.one_shiftLeft] at hn
  by_cases h0 : roundUnits n d = 0
  · rw [h0]
    exact Nat.succ_pos k
  · rw [Nat.log2_lt h0, Nat.pow_succ']
    have h := roundUnits_le n d
    have : n / d ≤ n := Nat.div_le_self n d
    have : 2 ^ 53 ≤ 2 ^ k := Nat.pow_le_pow_right (by decide) hk
    omega

theorem log2_roundUnits_shiftLeft_lt {n : Nat} (h : n < 2 ^ 65) (d s : Nat) :
    (roundUnits (n <<< s) d).log2 < 66 + s := by
  refine Nat.lt_of_lt_of_eq (log2_roundUnits_lt (k := 65 + s) d ?_ (by omega)) (by omega)
  rw [Nat.shiftLeft_eq, Nat.one_shiftLeft, Nat.pow_add]
  exact Nat.mul_lt_mul_of_pos_right h (Nat.two_pow_pos s)

/-- The number nearest to `n / d`, for an `n` of at most 64 bits. -/
def ofFraction (n : Int) (d : Nat) (h : n.natAbs < 2 ^ 65) : Binary64 where
  negative := decide (n < 0)
  units := roundUnits (n.natAbs <<< 1074) d
  spacing_dvd := spacing_dvd_roundUnits _ _
  log2_lt := Nat.lt_of_lt_of_le (log2_roundUnits_shiftLeft_lt h d 1074) (by decide)

/-- The number nearest to an integer of at most 64 bits. -/
def ofInt (n : Int) (h : n.natAbs < 2 ^ 65) : Binary64 := ofFraction n 1 h

/-- Zero, with a sign. -/
def zero (negative : Bool) : Binary64 := ⟨negative, 0, by decide, by decide⟩

/-- The number nearest to a product; none if that is too large. -/
def mul? (x y : Binary64) : Option Binary64 :=
  ofQuotient? (x.negative != y.negative) (x.units * y.units) (1 <<< 1074)

/-- The number nearest to the quotient by a number other than zero; none if that is too
large. -/
def div? (x y : Binary64) : Option Binary64 :=
  ofQuotient? (x.negative != y.negative) (x.units <<< 1074) y.units

/-- The number nearest to the product with `k`; none if that is too large. -/
def mulNat? (x : Binary64) (k : Nat) : Option Binary64 :=
  ofQuotient? x.negative (x.units * k) 1

/-- The integer nearest to a number; a half goes away from zero. -/
def nearestInt (x : Binary64) : Int :=
  let magnitude : Nat := ((x.units >>> 1073) + 1) / 2
  if x.negative then -(magnitude : Int) else magnitude

end Binary64

end Multiworld
