import Multiworld.Proofs.Binary64.Interval
import Multiworld.Proofs.Text.Integer

/-!
# Shortest decimals, rounded

The search for the shortest decimal of a number goes by the interval of the number. So whatever it
finds rounds to the number, and it finds something as soon as one decimal of the grids that it
looks at rounds to the number.

## Main definitions

* `Decimal.units`: a decimal, rounded

## Main results

* `Binary64.units_shortest`: the shortest decimal of a number rounds to it
* `Binary64.decimalExponent_lt`, `Binary64.le_decimalExponent`: between which powers of ten a number
  lies
-/

namespace Multiworld

/-! ## Decimals -/

namespace Decimal

/-- The numerator of a decimal. -/
def num (d : Decimal) : Nat := d.digits * Nat.pow 10 d.exponent.toNat

theorem num_shiftLeft (d s : Nat) (k : Int) :
    (Decimal.mk d k).num <<< s = d * (Nat.pow 10 k.toNat <<< s) := by
  rw [num, Nat.shiftLeft_eq, Nat.shiftLeft_eq, Nat.mul_assoc]

/-- The denominator of a decimal. -/
def den (d : Decimal) : Nat := Nat.pow 10 (-d.exponent).toNat

/-- A decimal, rounded. -/
def units (d : Decimal) : Nat := Binary64.roundUnits (d.num <<< 1074) d.den

theorem den_pos (d : Decimal) : 0 < d.den := Nat.pow_pos (by decide)

theorem num_of_nonpos {d : Decimal} (h : d.exponent ≤ 0) : d.num = d.digits := by
  rw [num, Int.toNat_of_nonpos h]
  exact Nat.mul_one _

theorem den_of_nonneg {d : Decimal} (h : 0 ≤ d.exponent) : d.den = 1 := by
  rw [den, Int.toNat_of_nonpos (by omega)]

end Decimal

namespace Binary64

/-- Equal quotients are rounded alike. -/
theorem roundUnits_congr {a d a' d' : Nat} (hd : 0 < d) (hd' : 0 < d') (h : a * d' = a' * d) :
    roundUnits a d = roundUnits a' d' := by
  rw [← roundUnits_mul_right a d hd', ← roundUnits_mul_right a' d' hd, h, Nat.mul_comm d d']

/-- Ten on a grid is one on the next coarser grid. -/
theorem units_ten (k : Int) : Decimal.units ⟨10, k⟩ = Decimal.units ⟨1, k + 1⟩ := by
  refine roundUnits_congr (Decimal.den_pos _) (Decimal.den_pos _) ?_
  rw [Decimal.num_shiftLeft, Decimal.num_shiftLeft, Nat.shiftLeft_eq, Nat.shiftLeft_eq]
  simp only [Decimal.den, Nat.pow_eq]
  generalize 2 ^ 1074 = c
  by_cases hk : k < 0
  · rw [show k.toNat = 0 by omega, show (k + 1).toNat = 0 by omega,
      show (-k).toNat = (-(k + 1)).toNat + 1 by omega]
    ring
  · rw [show (-k).toNat = 0 by omega, show (-(k + 1)).toNat = 0 by omega,
      show (k + 1).toNat = k.toNat + 1 by omega]
    ring

section Search

variable {q p : Nat} (hle : 2 ^ 52 ≤ q) (hlt : q < 2 ^ 53) (hp : 0 < p)

include hle hlt hp

/-- **The decimals that round to a number** are those of its interval. -/
theorem units_eq_iff (d : Decimal) :
    d.units = q * 2 ^ p ↔ roundsTo (q * 2 ^ p) (d.num <<< 1076) d.den = true := by
  have hunits : roundUnits (d.num <<< 1076) (4 * d.den) = d.units := by
    have hshift : d.num <<< 1076 = d.num <<< 1074 * 4 :=
      (Nat.shiftLeft_add d.num 1074 2).trans (Nat.shiftLeft_eq _ 2)
    rw [hshift, Nat.mul_comm 4, roundUnits_mul_right _ _ (by omega), Decimal.units]
  rw [← hunits]
  exact (roundsTo_iff_roundUnits hle hlt hp d.den_pos).symm

/-- Decimals that round to the same number are near each other. -/
theorem num_mul_den_le {d d' : Decimal} (hd : d.units = q * 2 ^ p) (hd' : d'.units = q * 2 ^ p) :
    d.num * d'.den * (2 * q - 1) ≤ d'.num * d.den * (2 * q + 1) := by
  have hhigh := ((roundsTo_iff hle hlt hp rfl).mp ((units_eq_iff hle hlt hp d).mp hd)).2.1
  have hlow := ((roundsTo_iff hle hlt hp rfl).mp ((units_eq_iff hle hlt hp d').mp hd')).1
  have hgap : (if q = 2 ^ 52 then 1 else 2) * (d'.den * 2 ^ p) ≤ 2 * (d'.den * 2 ^ p) :=
    Nat.mul_le_mul_right _ (by split <;> omega)
  rw [Nat.shiftLeft_eq] at hhigh hlow
  have hpos : 0 < 2 ^ 1076 := Nat.two_pow_pos 1076
  generalize 2 ^ 1076 = c at hhigh hlow hpos
  obtain ⟨r, rfl⟩ : ∃ r, q = r + 1 := ⟨q - 1, by omega⟩
  have hlow' : 2 ^ p * (d'.den * (2 * (2 * (r + 1) - 1))) ≤ d'.num * c := by
    rw [show 2 * (r + 1) - 1 = 2 * r + 1 by omega]
    have hsum : 4 * ((r + 1) * (d'.den * 2 ^ p)) =
        2 ^ p * (d'.den * (2 * (2 * r + 1))) + 2 * (d'.den * 2 ^ p) := by ring
    omega
  have hhigh' : d.num * c ≤ 2 ^ p * (d.den * (2 * (2 * (r + 1) + 1))) := by
    refine Nat.le_trans hhigh (Nat.le_of_eq ?_)
    ring
  -- Both sides are multiplied with the other's bound, and the factors that they share are left out.
  refine Nat.le_of_mul_le_mul_left ?_ (Nat.mul_pos (Nat.mul_pos hpos (Nat.two_pow_pos p)) Nat.two_pos)
  calc c * 2 ^ p * 2 * (d.num * d'.den * (2 * (r + 1) - 1))
      = d.num * c * (2 ^ p * (d'.den * (2 * (2 * (r + 1) - 1)))) := by ring
    _ ≤ 2 ^ p * (d.den * (2 * (2 * (r + 1) + 1))) * (d'.num * c) := Nat.mul_le_mul hhigh' hlow'
    _ = c * 2 ^ p * 2 * (d'.num * d.den * (2 * (r + 1) + 1)) := by ring

/-- What is found on a grid rounds to the number. -/
theorem units_of_onGrid? {tie : Tie} {k : Int} {d : Nat}
    (h : onGrid? tie (q * 2 ^ p) k = some d) : Decimal.units ⟨d, k⟩ = q * 2 ^ p := by
  rw [units_eq_iff hle hlt hp, Decimal.num_shiftLeft]
  unfold onGrid? at h
  dsimp only at h
  split at h
  · cases h
  · next hbelow _ =>
    obtain rfl := Option.some.inj h
    exact hbelow
  · next _ habove =>
    obtain rfl := Option.some.inj h
    exact habove
  · next hbelow habove =>
    -- The nearer of the two neighbours, and both round to the number.
    split at h
    · obtain rfl := Option.some.inj h
      exact hbelow
    · split at h
      · obtain rfl := Option.some.inj h
        exact habove
      · cases tie with
        | toEven =>
          obtain rfl := Option.some.inj h
          split
          · exact hbelow
          · exact habove
        | up =>
          obtain rfl := Option.some.inj h
          exact habove

/-- If any point of a grid rounds to the number, one is found. -/
theorem onGrid?_isSome {tie : Tie} {k : Int} {d : Nat} (h : Decimal.units ⟨d, k⟩ = q * 2 ^ p) :
    (onGrid? tie (q * 2 ^ p) k).isSome = true := by
  rw [units_eq_iff hle hlt hp, Decimal.num_shiftLeft] at h
  have hscale : 0 < Nat.pow 10 (-k).toNat := Nat.pow_pos (by decide)
  have hstep (s : Nat) : 0 < Nat.pow 10 k.toNat <<< s := by
    rw [Nat.shiftLeft_eq]
    exact Nat.mul_pos (Nat.pow_pos (by decide)) (Nat.two_pow_pos s)
  replace hstep := hstep 1076
  unfold onGrid?
  dsimp only
  rw [Decimal.den] at h
  dsimp only at h
  generalize Nat.pow 10 k.toNat <<< 1076 = step at *
  generalize Nat.pow 10 (-k).toNat = scale at *
  -- A point below the number is no nearer than the neighbour below, and so above.
  have hfound : roundsTo (q * 2 ^ p) (4 * (q * 2 ^ p) * scale / step * step) scale = true ∨
      roundsTo (q * 2 ^ p) ((4 * (q * 2 ^ p) * scale / step + 1) * step) scale = true := by
    rcases Nat.lt_or_ge (4 * (q * 2 ^ p) * scale / step) d with hd | hd
    · refine .inr (roundsTo_of_between hle hlt hp hscale h (.inr ⟨?_, ?_⟩))
      · rw [Nat.mul_comm _ step]
        exact Nat.le_of_lt (Nat.lt_mul_div_succ _ hstep)
      · exact Nat.mul_le_mul_right step hd
    · refine .inl (roundsTo_of_between hle hlt hp hscale h (.inl ⟨?_, ?_⟩))
      · exact Nat.mul_le_mul_right step hd
      · exact Nat.div_mul_le_self _ _
  split
  · next hbelow habove =>
    rw [hbelow, habove] at hfound
    simp at hfound
  · rfl
  · rfl
  · split
    · rfl
    · split
      · rfl
      · cases tie <;> rfl

/-- **The shortest decimal of a number rounds to it**, and is at least as coarse as any grid
looked at that has a point which does. -/
theorem units_shortest (tie : Tie) {n d : Nat} (hn : n < 17)
    (hd : Decimal.units ⟨d, decimalExponent (q * 2 ^ p) - n⟩ = q * 2 ^ p) :
    (shortest tie (q * 2 ^ p)).units = q * 2 ^ p ∧
      decimalExponent (q * 2 ^ p) - n ≤ (shortest tie (q * 2 ^ p)).exponent := by
  have hgrid : (onGrid? tie (q * 2 ^ p) (decimalExponent (q * 2 ^ p) - n)).isSome = true :=
    onGrid?_isSome hle hlt hp hd
  obtain ⟨e, he⟩ : ∃ e, decimalExponent (q * 2 ^ p) = e := ⟨_, rfl⟩
  rw [he] at hgrid ⊢
  obtain ⟨⟨digits, k⟩, hfound⟩ : ∃ found, (List.range 17).findSome? (fun m : Nat =>
      (onGrid? tie (q * 2 ^ p) (e - m)).map fun d => Decimal.mk d (e - m)) = some found := by
    refine Option.isSome_iff_exists.mp (List.findSome?_isSome_iff.mpr ⟨n, List.mem_range.mpr hn, ?_⟩)
    rw [Option.isSome_map]
    exact hgrid
  -- The grids are looked at in order, so the one found comes no later.
  obtain ⟨l₁, m, l₂, hrange, hm, hnone⟩ := List.findSome?_eq_some_iff.mp hfound
  obtain ⟨digits', hdigits, heq⟩ := Option.map_eq_some_iff.mp hm
  obtain ⟨rfl, rfl⟩ := Decimal.mk.inj heq
  have hmn : m ≤ n := by
    have hmem : n ∈ l₁ ++ m :: l₂ := hrange ▸ List.mem_range.mpr hn
    have hsorted : (l₁ ++ m :: l₂).Pairwise (· < ·) := hrange ▸ List.pairwise_lt_range
    rcases List.mem_append.mp hmem with hmem | hmem
    · rw [Option.map_eq_none_iff.mp (hnone n hmem)] at hgrid
      cases hgrid
    · rcases List.mem_cons.mp hmem with rfl | hmem
      · exact Nat.le_refl _
      · exact Nat.le_of_lt (List.rel_of_pairwise_cons (List.pairwise_append.mp hsorted).2.1 hmem)
  have hunits := units_of_onGrid? hle hlt hp hdigits
  unfold shortest
  dsimp only
  rw [he, hfound]
  split
  · next heq =>
    obtain ⟨rfl, rfl⟩ := Decimal.mk.inj (Option.some.inj heq)
    rw [← units_ten]
    exact ⟨hunits, by dsimp only; omega⟩
  · next heq =>
    obtain rfl := Option.some.inj heq
    exact ⟨hunits, by dsimp only; omega⟩
  · next heq => cases heq

end Search

/-! ## Powers of ten

The exponent that a number is scaled with is large, and a variable in what follows. -/

/-- A number below a power of ten. -/
theorem decimalExponent_lt {u n : Nat} (hn : 0 < n) (h : u < Nat.pow 10 n <<< 1074) :
    decimalExponent u < n := by
  rw [decimalExponent]
  generalize ht : 340 = t
  rw [← Nat.pow_eq]
  have hlen := Text.length_toDigits_shiftRight_le (t := t) hn h
  clear h
  omega

/-- A number that is no smaller than a power of ten. -/
theorem le_decimalExponent {u n : Nat} (hn : n < 340) (h : 1 <<< 1074 ≤ Nat.pow 10 n * u) :
    -(n : Int) ≤ decimalExponent u := by
  rw [decimalExponent]
  generalize ht : 340 = t at hn ⊢
  rw [← Nat.pow_eq]
  have hlen := Text.lt_length_toDigits_shiftRight hn h
  clear h
  omega

end Binary64

end Multiworld
