import Multiworld.Binary64.Literal
import Multiworld.Proofs.Binary64.Rounding

/-!
# Short decimal literals

Integers below `2^53` are numbers. So digits below `2^53` are read for what they are, and where
the power of ten that they are divided by is below `2^53` too, the quotient is rounded once: the
literal is read as the number nearest to it.

## Main results

* `Binary64.roundUnits_shiftLeft`: an integer below `2^53` is a number
* `Binary64.ofDecimal?_eq_some`: short literals are read to the nearest number
-/

namespace Multiworld.Binary64

theorem roundUnits_one {u : Nat} (h : spacing u ∣ u) : roundUnits u 1 = u := by
  obtain ⟨n, hn⟩ := h
  have hround : roundHalfEven u (spacing u) = n := by
    have hdiv : roundHalfEven (n * spacing u) (1 * spacing u) = roundHalfEven n 1 :=
      roundHalfEven_mul_right n 1 (spacing_pos u)
    rw [Nat.one_mul, Nat.mul_comm, ← hn] at hdiv
    rw [hdiv, roundHalfEven, Nat.mod_one, if_pos (by decide), Nat.div_one]
  rw [roundUnits, Nat.div_one, Nat.one_mul, hround, Nat.mul_comm]
  exact hn.symm

theorem spacing_dvd_shiftLeft {n : Nat} (hn : n < 2 ^ 53) (s : Nat) :
    spacing (n <<< s) ∣ n <<< s := by
  have hlt : n <<< s < 2 ^ (53 + s) := by
    rw [Nat.shiftLeft_eq, Nat.pow_add]
    exact Nat.mul_lt_mul_of_pos_right hn (Nat.two_pow_pos s)
  have hle := spacing_le hlt
  rw [spacing, Nat.one_shiftLeft] at hle ⊢
  refine Nat.dvd_trans (Nat.pow_dvd_pow 2 ((Nat.pow_le_pow_iff_right (by decide)).mp hle)) ?_
  rw [Nat.shiftLeft_eq]
  exact Nat.dvd_mul_left _ _

/-- **An integer below `2^53` is a number.** -/
theorem roundUnits_shiftLeft {n : Nat} (hn : n < 2 ^ 53) (s : Nat) :
    roundUnits (n <<< s) 1 = n <<< s :=
  roundUnits_one (spacing_dvd_shiftLeft hn s)

theorem roundUnits_shiftLeft_shiftLeft (a d s : Nat) :
    roundUnits (a <<< s) (d <<< s) = roundUnits a d := by
  rw [Nat.shiftLeft_eq, Nat.shiftLeft_eq, roundUnits_mul_right _ _ (Nat.two_pow_pos s)]

theorem ofQuotient?_eq_some {x : Binary64} {a d : Nat} (h : roundUnits a d = x.units) :
    ofQuotient? x.negative a d = some x := by
  obtain ⟨negative, units, hdvd, hlog⟩ := x
  obtain rfl : roundUnits a d = units := h
  exact dif_pos hlog

theorem ofRatio?_eq_some (negative : Bool) {n : Nat} (hn : n < 2 ^ 53) :
    ∃ x, ofRatio? negative n 1 = some x ∧ x.negative = negative ∧ x.units = n <<< 1074 := by
  have hlog := log2_roundUnits_shiftLeft_lt (Nat.lt_trans hn (by decide)) 1 1074
  rw [roundUnits_shiftLeft hn] at hlog
  obtain ⟨x, rfl, hunits⟩ : ∃ x : Binary64, x.negative = negative ∧ x.units = n <<< 1074 :=
    ⟨⟨negative, _, spacing_dvd_shiftLeft hn 1074, Nat.lt_trans hlog (by decide)⟩, rfl, rfl⟩
  refine ⟨x, ?_, rfl, hunits⟩
  exact ofQuotient?_eq_some ((roundUnits_shiftLeft hn 1074).trans hunits.symm)

/-- **Short literals are read to the nearest number.** -/
theorem ofDecimal?_eq_some {x : Binary64} {digits e : Nat} (hdigits : digits < 2 ^ 53)
    (he : 0 < e) (hpower : Nat.pow 10 e < 2 ^ 53)
    (hx : roundUnits (digits <<< 1074) (Nat.pow 10 e) = x.units) :
    ofDecimal? x.negative digits (-(e : Int)) = some x := by
  have he308 : e ≤ 308 := by
    refine Nat.le_of_not_lt fun hlt => ?_
    have hmono : Nat.pow 10 16 ≤ Nat.pow 10 e := Nat.pow_le_pow_right (by decide) (by omega)
    exact absurd (Nat.lt_of_le_of_lt hmono hpower) (by decide)
  obtain ⟨n, hn, hnegative, hunits⟩ := ofRatio?_eq_some x.negative hdigits
  obtain ⟨y, hy, hynegative, hyunits⟩ := ofRatio?_eq_some false hpower
  obtain ⟨one, hone, honenegative, honeunits⟩ := ofRatio?_eq_some false (n := 1) (by decide)
  have hfirst : n.div? y = some x := by
    rw [div?, hnegative, hynegative, Bool.bne_false]
    refine ofQuotient?_eq_some ?_
    rw [hunits, hyunits, roundUnits_shiftLeft_shiftLeft, hx]
  have hsecond : x.div? one = some x := by
    rw [div?, honenegative, Bool.bne_false]
    refine ofQuotient?_eq_some ?_
    rw [honeunits, roundUnits_shiftLeft_shiftLeft, roundUnits_one x.spacing_dvd]
  have hten : tenPower? (min e 308) = some y := by
    rw [Nat.min_eq_left he308, tenPower?, if_pos he308, hy]
  have hzero : tenPower? (min (e - 308) 308) = some one := by
    have hpow : Nat.pow 10 0 = 1 := rfl
    rw [Nat.sub_eq_zero_of_le he308, Nat.zero_min, tenPower?, if_pos (Nat.zero_le _), hpow, hone]
  rw [ofDecimal?, hn, Option.bind_eq_bind, Option.bind_some, if_pos (by omega), Int.natAbs_neg,
    Int.natAbs_natCast, overTenPower?, hten, hzero]
  simp only [Option.bind_eq_bind, Option.bind_some, hfirst, hsecond]

end Multiworld.Binary64
