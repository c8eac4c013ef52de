import Mathlib.Algebra.Group.Nat.Defs
import Multiworld.Binary64

/-!
# Rounding

A quotient is rounded to whole multiples of its spacing, which is known as soon as the
quotient is known to lie in a binade. There the rounded number is the nearest integer to
a smaller quotient; below it, rounding still errs by at most half of the spacing.

## Main results

* `roundUnits_of_binade`: the quotient rounded inside a binade
* `mul_roundUnits_le`, `le_mul_roundUnits`: how far rounding may lead away
-/

namespace Multiworld

/-! ## Nearest integers -/

/-- A common factor does not matter. -/
theorem roundHalfEven_mul_right (a d : Nat) {c : Nat} (hc : 0 < c) :
    roundHalfEven (a * c) (d * c) = roundHalfEven a d := by
  have hlt : 2 * (a % d * c) < d * c ↔ 2 * (a % d) < d := by
    rw [← Nat.mul_assoc]
    exact Nat.mul_lt_mul_right hc
  have hgt : d * c < 2 * (a % d * c) ↔ d < 2 * (a % d) := by
    rw [← Nat.mul_assoc]
    exact Nat.mul_lt_mul_right hc
  rw [roundHalfEven, roundHalfEven, Nat.mul_mod_mul_right, Nat.mul_div_mul_right _ _ hc]
  simp only [hlt, hgt]

/-- A quotient is rounded down if what remains is at most a half, and up if it is at least
a half. -/
theorem roundHalfEven_cases (a d : Nat) :
    (roundHalfEven a d = a / d ∧ 2 * (a % d) ≤ d) ∨
      (roundHalfEven a d = a / d + 1 ∧ d ≤ 2 * (a % d)) := by
  unfold roundHalfEven
  split
  · next h => exact .inl ⟨rfl, Nat.le_of_lt h⟩
  · next hge =>
    split
    · next h => exact .inr ⟨rfl, Nat.le_of_lt h⟩
    · next hle =>
      -- A tie goes either way, to the even neighbour.
      rcases Nat.mod_two_eq_zero_or_one (a / d) with h2 | h2
      · rw [h2]
        exact .inl ⟨rfl, Nat.not_lt.mp hle⟩
      · rw [h2]
        exact .inr ⟨rfl, Nat.not_lt.mp hge⟩

theorem mul_roundHalfEven_le (a d : Nat) : 2 * (d * roundHalfEven a d) ≤ 2 * a + d := by
  have h := Nat.div_add_mod a d
  rcases roundHalfEven_cases a d with ⟨hr, hrest⟩ | ⟨hr, hrest⟩
  · rw [hr]
    omega
  · rw [hr, Nat.mul_add]
    omega

theorem le_mul_roundHalfEven (a : Nat) {d : Nat} (hd : 0 < d) :
    2 * a ≤ 2 * (d * roundHalfEven a d) + d := by
  have h := Nat.div_add_mod a d
  have hmod := Nat.mod_lt a hd
  rcases roundHalfEven_cases a d with ⟨hr, hrest⟩ | ⟨hr, hrest⟩
  · rw [hr]
    omega
  · rw [hr, Nat.mul_add]
    omega

/-- A half above an even number is rounded to it. -/
theorem roundHalfEven_le_of_even {a d q : Nat} (hd : 0 < d) (h : 2 * a ≤ 2 * (d * q) + d)
    (hq : q % 2 = 0) : roundHalfEven a d ≤ q := by
  by_cases hlt : a / d < q
  · exact Nat.le_trans (roundHalfEven_le a d) hlt
  · -- Otherwise the quotient is `q` and what remains is at most a half.
    have hdiv := Nat.div_add_mod a d
    have hle : a / d < q + 1 := Nat.div_lt_of_lt_mul (by rw [Nat.mul_succ]; omega)
    obtain rfl : a / d = q := by omega
    rw [roundHalfEven, if_neg (show ¬ d < 2 * (a % d) by omega)]
    split <;> omega

namespace Binary64

/-! ## The spacing of a quotient -/

theorem spacing_pos (n : Nat) : 0 < spacing n := by
  rw [spacing, Nat.one_shiftLeft]
  exact Nat.two_pow_pos _

theorem spacing_le {n k : Nat} (h : n < 2 ^ (53 + k)) : spacing n ≤ 2 ^ k := by
  rw [spacing, Nat.one_shiftLeft]
  refine Nat.pow_le_pow_right Nat.two_pos ?_
  -- A bound on a number bounds its logarithm if the number is positive.
  by_cases h0 : n = 0
  · rw [h0, Nat.log2_zero]
    exact Nat.zero_le k
  · have := (Nat.log2_lt h0).mpr h
    omega

theorem spacing_eq {n k : Nat} (hle : 2 ^ (52 + k) ≤ n) (hlt : n < 2 ^ (53 + k)) :
    spacing n = 2 ^ k := by
  have h0 : n ≠ 0 := fun h => absurd (h ▸ hle) (Nat.not_le.mpr (Nat.two_pow_pos _))
  have h1 := (Nat.log2_lt h0).mpr hlt
  have h2 := (Nat.le_log2 h0).mpr hle
  rw [spacing, Nat.one_shiftLeft, show n.log2 - 52 = k by omega]

/-- The spacing of a quotient in a binade. -/
theorem spacing_div {a d k : Nat} (hle : 2 ^ (52 + k) * d ≤ a) (hlt : a < 2 ^ (53 + k) * d) :
    spacing (a / d) = 2 ^ k := by
  have hd : 0 < d := Nat.pos_of_ne_zero fun h => by simp [h] at hlt
  exact spacing_eq ((Nat.le_div_iff_mul_le hd).mpr hle) ((Nat.div_lt_iff_lt_mul hd).mpr hlt)

theorem roundUnits_zero (d : Nat) : roundUnits 0 d = 0 := by
  simp [roundUnits, roundHalfEven]

/-- A common factor does not matter. -/
theorem roundUnits_mul_right (a d : Nat) {c : Nat} (hc : 0 < c) :
    roundUnits (a * c) (d * c) = roundUnits a d := by
  rw [roundUnits, roundUnits, Nat.mul_div_mul_right _ _ hc, Nat.mul_right_comm,
    roundHalfEven_mul_right _ _ hc]

/-- **The quotient rounded inside a binade** is the nearest integer to as many times smaller
a quotient as the spacing says. -/
theorem roundUnits_of_binade {n d k : Nat} (hle : 2 ^ 52 * d ≤ n) (hlt : n < 2 ^ 53 * d) :
    roundUnits (n * 2 ^ k) d = roundHalfEven n d * 2 ^ k := by
  have hd : 0 < d := Nat.pos_of_ne_zero fun h => by simp [h] at hlt
  -- The whole part of the quotient lies in the same binade, and determines the spacing.
  have hs : spacing (n * 2 ^ k / d) = 2 ^ k := by
    refine spacing_eq ?_ ?_
    · rw [Nat.le_div_iff_mul_le hd, Nat.pow_add, Nat.mul_right_comm]
      exact Nat.mul_le_mul_right _ hle
    · rw [Nat.div_lt_iff_lt_mul hd, Nat.pow_add, Nat.mul_right_comm]
      exact Nat.mul_lt_mul_of_pos_right hlt (Nat.two_pow_pos k)
  rw [roundUnits, hs, roundHalfEven_mul_right _ _ (Nat.two_pow_pos k)]

/-! ## How far rounding leads away -/

section Bounds

variable {a d k : Nat}

theorem spacing_div_le (h : a < 2 ^ (53 + k) * d) : spacing (a / d) ≤ 2 ^ k :=
  spacing_le (Nat.div_lt_of_lt_mul (Nat.mul_comm d _ ▸ h))

/-- A rounded quotient exceeds the quotient by at most half of the spacing. -/
theorem mul_roundUnits_le (h : a < 2 ^ (53 + k) * d) :
    2 * (d * roundUnits a d) ≤ 2 * a + d * 2 ^ k := by
  have hs := Nat.mul_le_mul_left d (spacing_div_le h)
  have hr := mul_roundHalfEven_le a (d * spacing (a / d))
  rw [roundUnits, Nat.mul_comm (roundHalfEven _ _), ← Nat.mul_assoc d]
  omega

/-- A rounded quotient falls short of the quotient by at most half of the spacing. -/
theorem le_mul_roundUnits (h : a < 2 ^ (53 + k) * d) :
    2 * a ≤ 2 * (d * roundUnits a d) + d * 2 ^ k := by
  have hd : 0 < d := Nat.pos_of_ne_zero fun h0 => by simp [h0] at h
  have hs := Nat.mul_le_mul_left d (spacing_div_le h)
  have hr := le_mul_roundHalfEven a (Nat.mul_pos hd (spacing_pos (a / d)))
  rw [roundUnits, Nat.mul_comm (roundHalfEven _ _), ← Nat.mul_assoc d]
  omega

end Bounds

end Binary64

end Multiworld
