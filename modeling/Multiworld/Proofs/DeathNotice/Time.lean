import Mathlib.Tactic.Linarith
import Mathlib.Tactic.Ring
import Multiworld.DeathNotice
import Multiworld.Proofs.Binary64.Rounding

/-!
# The time of a death, written and read

A death holds its time in milliseconds, its payload in seconds. The quotient by 1000 is
rounded when it is written, and the product with 1000 when it is read. The two errors stay
below half a millisecond, except where the seconds have grown past `2^42` while the
milliseconds are still below `2^52`: there the seconds lie nearly a millisecond apart, the
product is rounded to half milliseconds, and a half goes away from zero.

## Main definitions

* `DeathNotice.Slips`: milliseconds that are read as one more
* `DeathNotice.readMillis`: the milliseconds that are read for those that were written

## Main results

* `DeathNotice.nearest_product`: what rounding twice comes to
* `DeathNotice.instant?_seconds`: the instant that is read for one that was written
-/

namespace Multiworld.DeathNotice

open Binary64

/-- Milliseconds that are read as one more. Their seconds are rounded up to a multiple of
`2^-10`, by more than a quarter of a millisecond. -/
def Slips (millis : Nat) : Prop :=
  4398046511104000 ≤ millis ∧ millis < 4503599627370496 ∧
    63 ≤ 3 * millis % 125 ∧ 3 * millis % 125 ≤ 92

instance : DecidablePred Slips := fun _ => inferInstanceAs (Decidable (_ ∧ _))

/-- The milliseconds that are read for those that were written: some lie one further from
the start of 1970. -/
def readMillis (millis : Int) : Int :=
  if Slips millis.natAbs then millis + millis.sign else millis

/-! ## Powers of two

The exponents of the format are large. They are taken relative to one `k`, which is a
variable here. -/

section Units

variable {k : Nat}

theorem shiftLeft_add_eleven (m k : Nat) : m <<< (k + 11) = 128 * m * 2 ^ (k + 1) * 8 := by
  rw [Nat.shiftLeft_eq, Nat.pow_add, Nat.pow_add]
  ring

theorem shiftRight_mul (q s k : Nat) : (q * 2 ^ (s + k)) >>> k = q * 2 ^ s := by
  rw [Nat.shiftRight_eq_div_pow, Nat.pow_add, ← Nat.mul_assoc,
    Nat.mul_div_cancel _ (Nat.two_pow_pos k)]

/-- Units within half a whole number of it are rounded to it, a half below included. -/
theorem nearest_of_mem {v m : Nat} (hle : m * 2 ^ (k + 1) ≤ v + 2 ^ k)
    (hlt : v < m * 2 ^ (k + 1) + 2 ^ k) : ((v >>> k) + 1) / 2 = m := by
  have hpos : 0 < 2 ^ k := Nat.two_pow_pos k
  rw [Nat.pow_succ 2 k] at hle hlt
  rw [Nat.shiftRight_eq_div_pow]
  generalize 2 ^ k = c at *
  have hlow : 2 * m ≤ v / c + 1 := by
    rw [← Nat.add_div_right v hpos, Nat.le_div_iff_mul_le hpos]
    linarith
  have hhigh : v / c < 2 * m + 1 := by
    rw [Nat.div_lt_iff_lt_mul hpos]
    linarith
  omega

theorem roundUnits_of_binade_one {n d : Nat} (hle : 2 ^ 52 * 2 ^ d ≤ n)
    (hlt : n < 2 ^ 53 * 2 ^ d) :
    roundUnits (n * 2 ^ k) 1 = roundHalfEven n (2 ^ d) * 2 ^ (d + k) := by
  rw [← roundUnits_mul_right (n * 2 ^ k) 1 (Nat.two_pow_pos d), Nat.mul_assoc, ← Nat.pow_add,
    Nat.one_mul, Nat.add_comm k d]
  exact roundUnits_of_binade hle hlt

end Units

/-! ## Rounded twice -/

section Product

variable {m k : Nat}

/-- The seconds of some milliseconds, times 1000, each rounded. -/
def product (m k : Nat) : Nat := roundUnits (roundUnits (m <<< (k + 11)) 1000 * 1000) 1

/-- A time before `2^42` seconds: both errors together are less than half a millisecond. -/
theorem nearest_product_near (h : m < 4398046511104000) :
    ((product m k >>> (k + 10)) + 1) / 2 = m := by
  have h10 : 2 ^ (k + 10) = 1024 * 2 ^ k := by ring
  have h53 : 2 ^ (53 + k) = 9007199254740992 * 2 ^ k := by ring
  have h63 : 2 ^ (53 + (k + 10)) = 9223372036854775808 * 2 ^ k := by ring
  have hshift : m <<< (k + 11) = 2048 * (m * 2 ^ k) := by
    rw [shiftLeft_add_eleven]
    ring
  have hm : m * 2 ^ k < 4398046511104000 * 2 ^ k :=
    Nat.mul_lt_mul_of_pos_right h (Nat.two_pow_pos k)
  -- Such seconds lie at most `2^-11` apart, ...
  have hs : m <<< (k + 11) < 2 ^ (53 + k) * 1000 := by omega
  have hsle := mul_roundUnits_le hs
  have hsge := le_mul_roundUnits hs
  -- ... and their products with 1000 at most a half.
  have hp : roundUnits (m <<< (k + 11)) 1000 * 1000 < 2 ^ (53 + (k + 10)) * 1 := by omega
  have hple := mul_roundUnits_le hp
  have hpge := le_mul_roundUnits hp
  have hmk : m * 2 ^ (k + 10 + 1) = 2048 * (m * 2 ^ k) := by ring
  rw [product]
  exact nearest_of_mem (by omega) (by omega)

/-- From `2^42` seconds on, the seconds are rounded to multiples of `2^-10`, and the product
is that of 1000 with such a multiple. -/
theorem product_eq (hge : 4398046511104000 ≤ m) (hlt : m < 8796093022208000) :
    product m k = roundUnits (roundHalfEven (128 * m) 125 * 125 * 2 ^ (k + 4)) 1 := by
  have hs : roundUnits (m <<< (k + 11)) 1000 = roundHalfEven (128 * m) 125 * 2 ^ (k + 1) := by
    rw [shiftLeft_add_eleven, show 1000 = 125 * 8 from rfl, roundUnits_mul_right _ _ (by omega)]
    exact roundUnits_of_binade (by omega) (by omega)
  have hpow : roundHalfEven (128 * m) 125 * 2 ^ (k + 1) * 1000 =
      roundHalfEven (128 * m) 125 * 125 * 2 ^ (k + 4) := by ring
  rw [product, hs, hpow]

theorem roundHalfEven_mul_cases (m : Nat) :
    (3 * m % 125 ≤ 62 ∧ roundHalfEven (128 * m) 125 * 125 + 3 * m % 125 = 128 * m) ∨
      (63 ≤ 3 * m % 125 ∧
        roundHalfEven (128 * m) 125 * 125 + 3 * m % 125 = 128 * m + 125) := by
  have hr : 128 * m % 125 = 3 * m % 125 := by omega
  have hdiv := Nat.div_add_mod (128 * m) 125
  rw [hr] at hdiv
  rw [roundHalfEven, hr]
  by_cases h : 3 * m % 125 ≤ 62
  · rw [if_pos (by omega)]
    exact .inl ⟨h, by omega⟩
  · rw [if_neg (by omega), if_pos (by omega)]
    exact .inr ⟨by omega, by omega⟩

/-- Below `2^52` milliseconds, the product is rounded to half milliseconds. -/
theorem nearest_product_slipping (hge : 4398046511104000 ≤ m) (hlt : m < 4503599627370496) :
    ((product m k >>> (k + 10)) + 1) / 2 = if Slips m then m + 1 else m := by
  have hcases := roundHalfEven_mul_cases m
  rw [product_eq hge (by omega)]
  generalize roundHalfEven (128 * m) 125 * 125 = n at hcases ⊢
  rw [roundUnits_of_binade_one (d := 6) (by omega) (by omega),
    show 6 + (k + 4) = 0 + (k + 10) by omega, shiftRight_mul, Nat.pow_zero, Nat.mul_one]
  have hup := mul_roundHalfEven_le n (2 ^ 6)
  have hdown := le_mul_roundHalfEven n (Nat.two_pow_pos 6)
  rcases hcases with ⟨hr, hn⟩ | ⟨hr, hn⟩
  · -- The seconds were rounded down, and a half below is rounded up again.
    rw [if_neg fun hs => absurd hs.2.2.1 (by omega)]
    omega
  by_cases h92 : 3 * m % 125 ≤ 92
  · rw [if_pos ⟨by omega, hlt, hr, h92⟩]
    omega
  · -- At most a quarter above: that is a tie at worst, and the even multiple is whole.
    have heven := roundHalfEven_le_of_even (a := n) (q := 2 * m) (Nat.two_pow_pos 6) (by omega)
      (by omega)
    rw [if_neg fun hs => h92 hs.2.2.2]
    omega

/-- From `2^52` milliseconds on, the product is rounded to milliseconds. -/
theorem nearest_product_far (hge : 4503599627370496 ≤ m) (hlt : m < 8796093022208000) :
    ((product m k >>> (k + 10)) + 1) / 2 = m := by
  have hcases := roundHalfEven_mul_cases m
  rw [product_eq (by omega) hlt]
  generalize roundHalfEven (128 * m) 125 * 125 = n at hcases ⊢
  rw [roundUnits_of_binade_one (d := 7) (by omega) (by omega),
    show 7 + (k + 4) = 1 + (k + 10) by omega, shiftRight_mul]
  have hup := mul_roundHalfEven_le n (2 ^ 7)
  have hdown := le_mul_roundHalfEven n (Nat.two_pow_pos 7)
  omega

/-- **What rounding twice comes to**: the milliseconds themselves, or one more. -/
theorem nearest_product (k : Nat) (h : m < 8796093022208000) :
    ((product m k >>> (k + 10)) + 1) / 2 = if Slips m then m + 1 else m := by
  by_cases h1 : m < 4398046511104000
  · rw [nearest_product_near h1, if_neg fun hs => Nat.not_le.mpr h1 hs.1]
  by_cases h2 : m < 4503599627370496
  · exact nearest_product_slipping (Nat.not_lt.mp h1) h2
  · rw [nearest_product_far (Nat.not_lt.mp h2) h, if_neg fun hs => h2 hs.2.1]

end Product

/-! ## Instants -/

theorem log2_product_lt {m : Nat} (h : m < 2 ^ 65) (k : Nat) :
    (product m k).log2 < k + 88 := by
  have hlog := log2_roundUnits_shiftLeft_lt h 1000 (k + 11)
  -- Rounding adds one bit at most, to the seconds and then to their product.
  have hu : roundUnits (m <<< (k + 11)) 1000 < 2 ^ (k + 77) :=
    Nat.lt_of_lt_of_le Nat.lt_log2_self (Nat.pow_le_pow_right Nat.two_pos (by omega))
  refine log2_roundUnits_lt (k := k + 87) 1 ?_ (by omega)
  have hpow : 2 ^ (k + 87) = 1024 * 2 ^ (k + 77) := by ring
  rw [Nat.one_shiftLeft]
  omega

theorem natAbs_millis_lt (t : Instant) : t.millis.natAbs < 8796093022208000 := by
  have hge := t.ge
  have hle := t.le
  have hmilli := t.milli_lt
  unfold Instant.millis
  omega

/-- **The instant that is read for one that was written** is that of its milliseconds, or of
one more. -/
theorem instant?_seconds (t : Instant) :
    instant? (seconds t) = Instant.ofMillis? (readMillis t.millis) := by
  have hlog : (product t.millis.natAbs 1063).log2 < 2098 :=
    Nat.lt_trans (log2_product_lt t.natAbs_millis_lt 1063) (by omega)
  have hnear := nearest_product 1063 (natAbs_millis_lt t)
  have hread : (seconds t).mulNat? 1000 = some ⟨decide (t.millis < 0), _, _, hlog⟩ := dif_pos hlog
  rw [instant?_eq, hread, Option.bind_some]
  congr 1
  show (if decide (t.millis < 0) then -(((product t.millis.natAbs 1063 >>> 1073) + 1) / 2 : Nat)
    else (((product t.millis.natAbs 1063 >>> 1073) + 1) / 2 : Nat) : Int) = _
  rw [hnear, readMillis]
  -- Before 1970 the magnitude grows when the time goes back.
  generalize t.millis = m
  simp only [decide_eq_true_eq]
  by_cases hs : Slips m.natAbs
  · have hpos : 0 < m.natAbs := Nat.lt_of_lt_of_le (by omega) hs.1
    rw [if_pos hs, if_pos hs]
    by_cases hneg : m < 0
    · rw [if_pos hneg, Int.sign_eq_neg_one_of_neg hneg]
      omega
    · rw [if_neg hneg, Int.sign_eq_one_of_pos (by omega)]
      omega
  · rw [if_neg hs, if_neg hs]
    split <;> omega

end Multiworld.DeathNotice
