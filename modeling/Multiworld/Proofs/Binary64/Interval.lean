import Mathlib.Tactic.Linarith
import Mathlib.Tactic.Ring
import Multiworld.Binary64.Shortest
import Multiworld.Proofs.Binary64.Rounding

/-!
# The interval of a number

The quotients that are rounded to a number make up an interval around it. It reaches half way to
the neighbours of the number, and holds its ends if the number is even; below a power of two the
neighbour is only half as far away. Numbers are taken to be normal here: they have 53 significant
bits, and so do their neighbours.

## Main results

* `roundHalfEven_eq_iff`: the quotients that are rounded to an integer
* `Binary64.roundsTo_iff`: the interval of a number
* `Binary64.roundsTo_iff_roundUnits`: what lies in it is rounded to the number, and nothing else is
-/

namespace Multiworld

/-- **The quotients that are rounded to an integer**: those within a half of it, the ends only if
it is even. -/
theorem roundHalfEven_eq_iff {a d q : Nat} (hd : 0 < d) :
    roundHalfEven a d = q ↔
      2 * (d * q) ≤ 2 * a + d ∧ 2 * a ≤ 2 * (d * q) + d ∧
        (q % 2 = 1 → 2 * (d * q) < 2 * a + d ∧ 2 * a < 2 * (d * q) + d) := by
  have hdiv := Nat.div_add_mod a d
  have hmod := Nat.mod_lt a hd
  constructor
  · rintro rfl
    refine ⟨mul_roundHalfEven_le a d, le_mul_roundHalfEven a hd, fun hodd => ?_⟩
    unfold roundHalfEven at hodd ⊢
    split at hodd
    · next h =>
      rw [if_pos h]
      omega
    · next h =>
      split at hodd
      · next h' =>
        rw [if_neg h, if_pos h', Nat.mul_succ]
        omega
      · omega
  · rintro ⟨hlow, hhigh, htie⟩
    -- The quotient lies between the integers below and above, and so does what is nearest.
    have hle : a / d ≤ q := by
      by_contra hlt
      have := Nat.mul_le_mul_left d (Nat.not_le.mp hlt)
      rw [Nat.mul_succ] at this
      omega
    have hge : q ≤ a / d + 1 := by
      by_contra hlt
      have := Nat.mul_le_mul_left d (Nat.not_le.mp hlt)
      rw [Nat.mul_succ, Nat.mul_succ] at this
      omega
    rcases Nat.lt_or_eq_of_le hle with hlt | rfl
    · obtain rfl : q = a / d + 1 := by omega
      rw [Nat.mul_succ] at hlow hhigh htie
      rw [roundHalfEven, if_neg (by omega)]
      split <;> omega
    · rw [roundHalfEven, if_neg (show ¬ d < 2 * (a % d) by omega)]
      split <;> omega

namespace Binary64

/-- Below a power of two numbers lie twice as near. -/
theorem spacing_below_power {a b c k : Nat} (hc : b * 2 ^ k = c)
    (hlow : 4 * (2 ^ 52 * (2 * c)) ≤ a + 2 * c) (hbelow : a < 4 * (2 ^ 52 * (2 * c))) :
    spacing (a / (4 * b)) = 2 ^ k := by
  refine spacing_div ?_ ?_
  · have hbinade : 2 ^ (52 + k) * (4 * b) = 2 ^ 52 * (4 * c) := by rw [← hc]; ring
    rw [hbinade]
    omega
  · have hbinade : 2 ^ (53 + k) * (4 * b) = 2 ^ 53 * (4 * c) := by rw [← hc]; ring
    rw [hbinade]
    omega

section Interval

variable {q p : Nat} (hle : 2 ^ 52 ≤ q) (hlt : q < 2 ^ 53)

include hle hlt

theorem spacing_mul : spacing (q * 2 ^ p) = 2 ^ p := by
  refine spacing_eq ?_ ?_
  · rw [Nat.pow_add]
    exact Nat.mul_le_mul_right _ hle
  · rw [Nat.pow_add]
    exact Nat.mul_lt_mul_of_pos_right hlt (Nat.two_pow_pos p)

theorem log2_mul : (q * 2 ^ p).log2 = 52 + p := by
  rw [Nat.log2_eq_iff (Nat.mul_pos (by omega) (Nat.two_pow_pos p)).ne']
  constructor
  · rw [Nat.pow_add]
    exact Nat.mul_le_mul_right _ hle
  · rw [show 52 + p + 1 = 53 + p by omega, Nat.pow_add]
    exact Nat.mul_lt_mul_of_pos_right hlt (Nat.two_pow_pos p)

theorem hasEnds_mul : hasEnds (q * 2 ^ p) = decide (q % 2 = 0) := by
  rw [hasEnds, spacing_mul hle hlt, Nat.mul_div_cancel _ (Nat.two_pow_pos p)]

/-- The next smaller number is half as far away from a power of two. -/
theorem lowEnd_mul (hp : 0 < p) :
    lowEnd (q * 2 ^ p) = 4 * (q * 2 ^ p) - (if q = 2 ^ 52 then 1 else 2) * 2 ^ p := by
  have hpower : q * 2 ^ p = 1 <<< (52 + p) ↔ q = 2 ^ 52 := by
    rw [Nat.one_shiftLeft, Nat.pow_add]
    exact Nat.mul_left_inj (Nat.two_pow_pos p).ne'
  rw [lowEnd, log2_mul hle hlt, spacing_mul hle hlt, show 52 + p - 52 = p by omega]
  simp only [hpower, ne_eq, hp.ne', not_false_eq_true, true_and]
  split
  · rw [Nat.one_mul]
  · rfl

/-- The interval of a number, in quarters of `c`, the spacing over the denominator. -/
theorem roundsTo_iff (hp : 0 < p) {a b c : Nat} (hc : b * 2 ^ p = c) :
    roundsTo (q * 2 ^ p) a b = true ↔
      4 * (q * c) ≤ a + (if q = 2 ^ 52 then 1 else 2) * c ∧ a ≤ 4 * (q * c) + 2 * c ∧
        (q % 2 = 1 →
          4 * (q * c) < a + (if q = 2 ^ 52 then 1 else 2) * c ∧ a < 4 * (q * c) + 2 * c) := by
  have hu : 4 * (q * 2 ^ p) * b = 4 * (q * c) := by rw [← hc]; ring
  have hs (n : Nat) : n * 2 ^ p * b = n * c := by rw [← hc]; ring
  rw [roundsTo, hasEnds_mul hle hlt, lowEnd_mul hle hlt hp, highEnd, spacing_mul hle hlt,
    Nat.sub_mul, Nat.add_mul, hu, hs, hs]
  have hgap : (if q = 2 ^ 52 then 1 else 2) * c ≤ 4 * (q * c) := by
    rw [← Nat.mul_assoc]
    refine Nat.mul_le_mul_right c ?_
    split <;> omega
  by_cases heven : q % 2 = 0
  · simp only [heven, decide_true, if_true, decide_eq_true_eq]
    omega
  · simp only [heven, decide_false, Bool.false_eq_true, if_false, decide_eq_true_eq]
    omega

/-! ### Inside, and so rounded to the number -/

/-- A quotient of the interval lies in the binade of the number, but for those below a power of
two. -/
theorem spacing_of_roundsTo (hp : 0 < p) {a b c : Nat} (hc : b * 2 ^ p = c) (hcpos : 0 < c)
    (h : roundsTo (q * 2 ^ p) a b = true) (hbelow : ¬ (a < 4 * (q * c) ∧ q = 2 ^ 52)) :
    spacing (a / (4 * b)) = 2 ^ p := by
  obtain ⟨hlow, hhigh, htie⟩ := (roundsTo_iff hle hlt hp hc).mp h
  have hqlow := Nat.mul_le_mul_right c hle
  have hqhigh : q * c + c ≤ 2 ^ 53 * c := by
    rw [← Nat.succ_mul]
    exact Nat.mul_le_mul_right c hlt
  refine spacing_div ?_ ?_
  · have hbinade : 2 ^ (52 + p) * (4 * b) = 4 * (2 ^ 52 * c) := by rw [← hc]; ring
    rw [hbinade]
    by_cases hq : q = 2 ^ 52
    · omega
    · have hnext : 2 ^ 52 * c + c ≤ q * c := by
        rw [← Nat.succ_mul]
        exact Nat.mul_le_mul_right c (by omega)
      rw [if_neg hq] at hlow
      omega
  · have hbinade : 2 ^ (53 + p) * (4 * b) = 4 * (2 ^ 53 * c) := by rw [← hc]; ring
    rw [hbinade]
    omega

/-- A quotient in the interval of a number is rounded to it. -/
theorem roundUnits_of_roundsTo (hp : 0 < p) {a b : Nat} (hb : 0 < b)
    (h : roundsTo (q * 2 ^ p) a b = true) : roundUnits a (4 * b) = q * 2 ^ p := by
  obtain ⟨c, hc⟩ : ∃ c, b * 2 ^ p = c := ⟨_, rfl⟩
  have hcpos : 0 < c := hc ▸ Nat.mul_pos hb (Nat.two_pow_pos p)
  obtain ⟨hlow, hhigh, htie⟩ := (roundsTo_iff hle hlt hp hc).mp h
  by_cases hbelow : a < 4 * (q * c) ∧ q = 2 ^ 52
  · -- It is rounded up to `2^53` times the spacing there.
    obtain ⟨k, rfl⟩ : ∃ k, p = k + 1 := ⟨p - 1, by omega⟩
    obtain ⟨hbelow, rfl⟩ := hbelow
    obtain rfl : 2 * (b * 2 ^ k) = c := by rw [← hc]; ring
    rw [if_pos rfl, Nat.one_mul] at hlow
    have hs := spacing_below_power rfl hlow hbelow
    have hd : 4 * b * 2 ^ k = 4 * (b * 2 ^ k) := by ring
    rw [roundUnits, hs, hd, (roundHalfEven_eq_iff (q := 2 ^ 53) (by omega)).mpr]
    · ring
    · omega
  · have hgap : (if q = 2 ^ 52 then 1 else 2) * c ≤ 2 * c :=
      Nat.mul_le_mul_right c (by split <;> omega)
    have hd : 4 * b * 2 ^ p = 4 * c := by rw [← hc]; ring
    have hdq : 4 * c * q = 4 * (q * c) := by ring
    rw [roundUnits, spacing_of_roundsTo hle hlt hp hc hcpos h hbelow, hd,
      (roundHalfEven_eq_iff (q := q) (by omega)).mpr]
    rw [hdq]
    omega

/-! ### Rounded to the number, and so inside -/

/-- A quotient that is rounded to a number lies in the binade of the number, or in the one below
and is rounded up to a power of two. -/
theorem roundHalfEven_of_roundUnits (hp : 0 < p) {a d : Nat} (hd : 0 < d)
    (h : roundUnits a d = q * 2 ^ p) :
    2 ^ 52 * (d * 2 ^ p) ≤ a ∧ roundHalfEven a (d * 2 ^ p) = q ∨
      ∃ k, p = k + 1 ∧ q = 2 ^ 52 ∧ roundHalfEven a (d * 2 ^ k) = 2 ^ 53 := by
  have hrle := roundHalfEven_spacing_le a d
  obtain ⟨k, hk⟩ : ∃ k, (a / d).log2 - 52 = k := ⟨_, rfl⟩
  have hs : spacing (a / d) = 2 ^ k := by rw [spacing, Nat.one_shiftLeft, hk]
  obtain ⟨r, hr⟩ : ∃ r, roundHalfEven a (d * 2 ^ k) = r := ⟨_, rfl⟩
  rw [hs, hr] at hrle
  rw [roundUnits, hs, hr] at h
  have hpk : p ≤ k + 1 := by
    have hpow : 2 ^ (52 + p) ≤ 2 ^ (53 + k) := by
      rw [Nat.pow_add, Nat.pow_add]
      calc 2 ^ 52 * 2 ^ p ≤ q * 2 ^ p := Nat.mul_le_mul_right _ hle
        _ = r * 2 ^ k := h.symm
        _ ≤ 2 ^ 53 * 2 ^ k := Nat.mul_le_mul_right _ hrle
    have := (Nat.pow_le_pow_iff_right (by omega)).mp hpow
    omega
  rcases Nat.lt_or_eq_of_le hpk with hlt' | rfl
  · -- The quotient is as large as its spacing says, and so is what it is rounded to.
    have hdiv : 2 ^ 52 ≤ a / (d * 2 ^ k) := by
      have hne : a / d ≠ 0 := by
        intro h0
        rw [h0, Nat.log2_zero] at hk
        omega
      have hself := Nat.log2_self_le hne
      rw [show (a / d).log2 = 52 + k by omega, Nat.pow_add] at hself
      rw [← Nat.div_div_eq_div_mul]
      exact (Nat.le_div_iff_mul_le (Nat.two_pow_pos k)).mpr hself
    have hrge : 2 ^ 52 ≤ r := hr ▸ Nat.le_trans hdiv (div_le_roundHalfEven _ _)
    obtain rfl : k = p := by
      have hpow : 2 ^ (52 + k) < 2 ^ (53 + p) := by
        rw [Nat.pow_add, Nat.pow_add]
        calc 2 ^ 52 * 2 ^ k ≤ r * 2 ^ k := Nat.mul_le_mul_right _ hrge
          _ = q * 2 ^ p := h
          _ < 2 ^ 53 * 2 ^ p := Nat.mul_lt_mul_of_pos_right hlt (Nat.two_pow_pos p)
      have := (Nat.pow_lt_pow_iff_right (by omega)).mp hpow
      omega
    refine .inl ⟨?_, hr.trans (Nat.eq_of_mul_eq_mul_right (Nat.two_pow_pos k) h)⟩
    exact (Nat.le_div_iff_mul_le (Nat.mul_pos hd (Nat.two_pow_pos k))).mp hdiv
  · have hr2 : r = 2 * q := by
      refine Nat.eq_of_mul_eq_mul_right (Nat.two_pow_pos k) ?_
      rw [h]
      ring
    exact .inr ⟨k, rfl, by omega, by omega⟩

/-- A quotient that is rounded to a number lies in its interval. -/
theorem roundsTo_of_roundUnits (hp : 0 < p) {a b : Nat} (hb : 0 < b)
    (h : roundUnits a (4 * b) = q * 2 ^ p) : roundsTo (q * 2 ^ p) a b = true := by
  have hd (k : Nat) : 4 * b * 2 ^ k = 4 * (b * 2 ^ k) := by ring
  have hpos (k : Nat) : 0 < 4 * (b * 2 ^ k) :=
    Nat.mul_pos (by decide) (Nat.mul_pos hb (Nat.two_pow_pos k))
  refine (roundsTo_iff hle hlt hp rfl).mpr ?_
  rcases roundHalfEven_of_roundUnits hle hlt hp (by omega) h with ⟨hge, hr⟩ | ⟨k, rfl, rfl, hr⟩
  · rw [hd] at hge
    rw [hd, roundHalfEven_eq_iff (hpos p)] at hr
    have hq : 4 * (b * 2 ^ p) * q = 4 * (q * (b * 2 ^ p)) := by ring
    rw [hq] at hr
    split
    · next hq =>
      subst hq
      omega
    · omega
  · rw [hd, roundHalfEven_eq_iff (hpos k)] at hr
    have hc : b * 2 ^ (k + 1) = 2 * (b * 2 ^ k) := by ring
    rw [hc, if_pos rfl]
    omega

/-- **What lies in the interval of a number is rounded to it**, and nothing else is. -/
theorem roundsTo_iff_roundUnits (hp : 0 < p) {a b : Nat} (hb : 0 < b) :
    roundsTo (q * 2 ^ p) a b = true ↔ roundUnits a (4 * b) = q * 2 ^ p :=
  ⟨roundUnits_of_roundsTo hle hlt hp hb, roundsTo_of_roundUnits hle hlt hp hb⟩

/-- Between a quotient of the interval and the number there are only quotients of the interval. -/
theorem roundsTo_of_between (hp : 0 < p) {a a' b : Nat} (hb : 0 < b)
    (h : roundsTo (q * 2 ^ p) a b = true)
    (ha : a ≤ a' ∧ a' ≤ 4 * (q * 2 ^ p) * b ∨ 4 * (q * 2 ^ p) * b ≤ a' ∧ a' ≤ a) :
    roundsTo (q * 2 ^ p) a' b = true := by
  obtain ⟨c, hc⟩ : ∃ c, b * 2 ^ p = c := ⟨_, rfl⟩
  have hcpos : 0 < c := hc ▸ Nat.mul_pos hb (Nat.two_pow_pos p)
  have hu : 4 * (q * 2 ^ p) * b = 4 * (q * c) := by rw [← hc]; ring
  have hgap : c ≤ (if q = 2 ^ 52 then 1 else 2) * c :=
    Nat.le_mul_of_pos_left c (by split <;> omega)
  rw [hu] at ha
  refine (roundsTo_iff hle hlt hp hc).mpr ?_
  have hin := (roundsTo_iff hle hlt hp hc).mp h
  omega

end Interval

/-- A number that is not too small is normal, and so is the next smaller one. -/
theorem exists_eq_mul (x : Binary64) (h : 2 ^ 53 ≤ x.units) :
    ∃ q p, 2 ^ 52 ≤ q ∧ q < 2 ^ 53 ∧ 0 < p ∧ x.units = q * 2 ^ p := by
  obtain ⟨q, hq⟩ := x.spacing_dvd
  have hne : x.units ≠ 0 := by omega
  have hlog := (Nat.le_log2 hne).mpr h
  obtain ⟨p, hp⟩ : ∃ p, x.units.log2 = 52 + p := ⟨x.units.log2 - 52, by omega⟩
  have hs : spacing x.units = 2 ^ p := by
    rw [spacing, Nat.one_shiftLeft, hp, Nat.add_sub_cancel_left]
  rw [hs] at hq
  have hlow := Nat.log2_self_le hne
  have hhigh := Nat.lt_log2_self (n := x.units)
  rw [hp, hq, Nat.pow_add, Nat.mul_comm (2 ^ p)] at hlow
  rw [hp, hq, show 52 + p + 1 = 53 + p by omega, Nat.pow_add, Nat.mul_comm (2 ^ p)] at hhigh
  refine ⟨q, p, ?_, ?_, by omega, by rw [hq, Nat.mul_comm]⟩
  · exact Nat.le_of_mul_le_mul_right hlow (Nat.two_pow_pos p)
  · exact Nat.lt_of_mul_lt_mul_right hhigh

end Binary64

end Multiworld
