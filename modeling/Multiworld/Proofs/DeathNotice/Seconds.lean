import Multiworld.Proofs.DeathNotice.Time
import Multiworld.Proofs.Json.Float

/-!
# The time of a death, as text

The seconds of a death are the number nearest to a decimal of three places, that of its
milliseconds. So the shortest decimal has no more places, and its digits are about as many as the
milliseconds: the text of the seconds is read as the seconds.

## Main results

* `DeathNotice.readsBack_seconds`: the seconds of every death read back
-/

namespace Multiworld.DeathNotice

open Binary64

/-! ## How large the seconds are

The exponents of the format are taken relative to one `k` again. -/

section Units

variable {m k : Nat}

theorem shiftLeft_add (m k : Nat) : m <<< (62 + k) = 2 ^ 62 * (m * 2 ^ k) := by
  rw [Nat.shiftLeft_eq, Nat.pow_add]
  ring

theorem shiftLeft_lt (h : m < 8796093022208000) : m <<< (62 + k) < 2 ^ (53 + (52 + k)) * 1000 := by
  have hm : m * 2 ^ k < 8796093022208000 * 2 ^ k :=
    Nat.mul_lt_mul_of_pos_right h (Nat.two_pow_pos k)
  have hpow : 2 ^ (53 + (52 + k)) = 2 ^ 105 * 2 ^ k := by ring
  rw [shiftLeft_add, hpow]
  omega

/-- A millisecond is rounded up, and more than one are far from one. -/
theorem shiftLeft_le_units (hpos : 0 < m) (h : m < 8796093022208000) :
    1 <<< (62 + k) ≤ 10 ^ 3 * roundUnits (m <<< (62 + k)) 1000 := by
  rcases Nat.lt_or_ge m 2 with h2 | h2
  · obtain rfl : m = 1 := by omega
    rw [shiftLeft_add, Nat.one_mul, roundUnits_of_binade (by decide) (by decide), ← Nat.mul_assoc]
    exact Nat.mul_le_mul_right _ (by decide)
  · have hnear := le_mul_roundUnits (shiftLeft_lt (k := k) h)
    have hm : 2 * 2 ^ k ≤ m * 2 ^ k := Nat.mul_le_mul_right _ h2
    have hpow : 2 ^ (52 + k) = 2 ^ 52 * 2 ^ k := by ring
    generalize roundUnits (m <<< (62 + k)) 1000 = u at hnear ⊢
    rw [shiftLeft_add] at hnear ⊢
    omega

theorem units_lt (h : m < 8796093022208000) :
    roundUnits (m <<< (62 + k)) 1000 < 10 ^ 14 <<< (62 + k) := by
  have hnear := mul_roundUnits_le (shiftLeft_lt (k := k) h)
  have hm : m * 2 ^ k < 8796093022208000 * 2 ^ k :=
    Nat.mul_lt_mul_of_pos_right h (Nat.two_pow_pos k)
  have hpow : 2 ^ (52 + k) = 2 ^ 52 * 2 ^ k := by ring
  generalize roundUnits (m <<< (62 + k)) 1000 = u at hnear ⊢
  rw [shiftLeft_add] at hnear ⊢
  omega

theorem two_pow_le_units (hk : 0 < k) (hpos : 0 < m) (h : m < 8796093022208000) :
    2 ^ 53 ≤ roundUnits (m <<< (62 + k)) 1000 := by
  have hlow := shiftLeft_le_units (k := k) hpos h
  have htwo : 2 ^ 1 ≤ 2 ^ k := Nat.pow_le_pow_right (by decide) hk
  generalize roundUnits (m <<< (62 + k)) 1000 = u at hlow ⊢
  rw [shiftLeft_add] at hlow
  omega

end Units

/-! ## Three places -/

/-- The digits of the shortest decimal, with three places, are about as many as the milliseconds. -/
theorem num_lt {q p m : Nat} {d : Decimal} (hle : 2 ^ 52 ≤ q) (hlt : q < 2 ^ 53) (hp : 0 < p)
    (h : m < 8796093022208000) (hd : d.units = q * 2 ^ p)
    (hm : Decimal.units ⟨m, -3⟩ = q * 2 ^ p) : d.num * Nat.pow 10 3 < 2 ^ 53 * d.den := by
  have hnear := num_mul_den_le hle hlt hp hd hm
  have hnum : (Decimal.mk m (-3)).num = m := Decimal.num_of_nonpos (Int.neg_nonpos_of_nonneg (by decide))
  have hden : (Decimal.mk m (-3)).den = Nat.pow 10 3 := rfl
  rw [hnum, hden] at hnear
  have hpos := d.den_pos
  by_contra hge
  -- Otherwise the milliseconds would be no less than `2^53`, up to what rounding adds.
  have hfar : 2 ^ 53 * d.den * (2 * q - 1) ≤ m * d.den * (2 * q + 1) :=
    Nat.le_trans (Nat.mul_le_mul_right _ (Nat.not_lt.mp hge)) hnear
  have hfar' : 2 ^ 53 * (2 * q - 1) ≤ m * (2 * q + 1) := by
    refine Nat.le_of_mul_le_mul_left ?_ hpos
    linarith
  have hm' : m * (2 * q + 1) ≤ 8796093022208000 * (2 * q + 1) :=
    Nat.mul_le_mul_right _ (Nat.le_of_lt h)
  omega

/-- The number nearest to some milliseconds reads back, in seconds. -/
theorem readsBack_of_millis {x : Binary64} {m : Nat} (hpos : 0 < m) (hm : m < 8796093022208000)
    (hunits : x.units = roundUnits (m <<< (62 + 1012)) 1000) : Json.ReadsBack x := by
  have hlow := shiftLeft_le_units (k := 1012) hpos hm
  have hhigh := units_lt (k := 1012) hm
  have hnormal := two_pow_le_units (k := 1012) (by decide) hpos hm
  rw [← hunits] at hlow hhigh hnormal
  obtain ⟨q, p, hle, hlt, hp, hq⟩ := x.exists_eq_mul hnormal
  -- The milliseconds are on the grid of three places, and this is one of those looked at.
  have hthree : Decimal.units ⟨m, -3⟩ = q * 2 ^ p := by
    rw [← hq, hunits, Decimal.units, Decimal.num_of_nonpos (Int.neg_nonpos_of_nonneg (by decide))]
    rfl
  have hexp := le_decimalExponent (n := 3) (by decide) hlow
  have hexp' := decimalExponent_lt (n := 14) (by decide) hhigh
  rw [hq] at hexp hexp'
  obtain ⟨n, hn⟩ : ∃ n : Nat, decimalExponent (q * 2 ^ p) - n = -3 :=
    ⟨(decimalExponent (q * 2 ^ p) + 3).toNat, by omega⟩
  obtain ⟨hshort, hplaces⟩ := units_shortest hle hlt hp Json.layout.tie (n := n) (d := m)
    (by omega) (hn ▸ hthree)
  rw [hn, ← hq] at hplaces
  rw [← hq] at hshort
  exact Json.readsBack_of_shortest (n := 3) rfl hshort (by omega) (by decide) (by decide) hplaces
    (num_lt hle hlt hp hm (hshort.trans hq) hthree)

/-- **The seconds of every death read back.** -/
theorem readsBack_seconds (t : Instant) : Json.ReadsBack (seconds t) := by
  rcases Nat.eq_zero_or_pos t.millis.natAbs with h0 | hpos
  · have hmillis : t.millis = 0 := Int.natAbs_eq_zero.mp h0
    have hzero : seconds t = .zero false := by
      simp only [seconds, ofFraction, zero, hmillis, Int.natAbs_zero, Nat.zero_shiftLeft,
        roundUnits_zero, Int.lt_irrefl, decide_false]
    rw [hzero]
    decide +kernel
  · exact readsBack_of_millis hpos (natAbs_millis_lt t) rfl

end Multiworld.DeathNotice
