import Multiworld.Text.Integer

/-!
# Decimal digits

The decimal digits of a number stand for the number. Only zero starts with a zero. Digits that stand
for a number with room for it are all read.

## Main results

* `Text.value_toDigits`: digits read back
* `Text.appendDigits_value`: digits are appended while there is room
* `Text.toDigits_eq_cons`: the first digit of a number other than zero
-/

namespace Multiworld.Text

/-- The digits of a number stand for it. -/
theorem value_toDigits (n : Nat) : value (Nat.toDigits 10 n) = n :=
  Nat.ofDigitChars_ten_toDigits

/-- Appended digits move those in front of them. -/
theorem value_append (ds more : List Char) :
    value (ds ++ more) = Nat.pow 10 more.length * value ds + value more :=
  (Nat.ofDigitChars_append 0).trans Nat.ofDigitChars_eq_ofDigitChars_zero

theorem value_le_value_append (ds more : List Char) : value ds ≤ value (ds ++ more) := by
  rw [value_append]
  exact Nat.le_trans (Nat.le_mul_of_pos_left _ (Nat.pow_pos (by decide))) (Nat.le_add_right _ _)

theorem value_zeros_append (n : Nat) (ds : List Char) :
    value (List.replicate n '0' ++ ds) = value ds := by
  induction n with
  | zero => rfl
  | succ n ih => exact ih

theorem value_append_zeros (n : Nat) (ds : List Char) :
    value (ds ++ List.replicate n '0') = value ds * Nat.pow 10 n := by
  have hzeros : value (List.replicate n '0') = 0 := by
    rw [← List.append_nil (List.replicate n '0'), value_zeros_append]
    rfl
  rw [value_append, hzeros, List.length_replicate, Nat.add_zero, Nat.mul_comm, Nat.pow_eq]

/-- Digits are appended while there is room. -/
theorem appendDigits_value {bound : Nat} {ds more : List Char} (h : value (ds ++ more) < bound) :
    appendDigits bound (value ds) more = (value (ds ++ more), []) := by
  induction more generalizing ds with
  | nil => rw [List.append_nil, appendDigits]
  | cons d more ih =>
    have hd : 10 * value ds + (d.toNat - 48) = value (ds ++ [d]) :=
      (Nat.ofDigitChars_append (l := ds) (m := [d]) 0).symm
    have hle := value_le_value_append (ds ++ [d]) more
    rw [← List.singleton_append, ← List.append_assoc] at h ⊢
    rw [List.singleton_append, appendDigits, hd, if_pos (Nat.lt_of_le_of_lt hle h), ih h]

theorem isDigit_of_mem_toDigits {n : Nat} {c : Char} (h : c ∈ Nat.toDigits 10 n) :
    c.isDigit = true :=
  Nat.isDigit_of_mem_toDigits (by decide) (by decide) h

/-- A number other than zero does not start with a zero. -/
theorem toDigits_eq_cons {n : Nat} (h : 0 < n) :
    ∃ c ds, Nat.toDigits 10 n = c :: ds ∧ c ≠ '0' := by
  induction n using Nat.strongRecOn with
  | ind n ih =>
    rcases Nat.lt_or_ge n 10 with hlt | hge
    · refine ⟨n.digitChar, [], Nat.toDigits_of_lt_base hlt, ?_⟩
      rw [Ne, Nat.digitChar_eq_zero]
      omega
    · obtain ⟨c, ds, hds, hc⟩ := ih (n / 10) (by omega) (by omega)
      exact ⟨c, ds ++ [(n % 10).digitChar],
        by rw [Nat.toDigits_of_base_le (by decide) hge, hds, List.cons_append], hc⟩

/-! ## How many digits -/

section Length

variable {u n t s : Nat}

theorem length_toDigits_shiftRight_le (hn : 0 < n) (h : u < Nat.pow 10 n <<< s) :
    (Nat.toDigits 10 ((u * Nat.pow 10 t) >>> s)).length ≤ n + t := by
  rw [Nat.shiftLeft_eq] at h
  rw [Nat.length_toDigits_le_iff (by decide) (by omega), Nat.shiftRight_eq_div_pow,
    Nat.div_lt_iff_lt_mul (Nat.two_pow_pos s), Nat.pow_add, Nat.mul_right_comm]
  exact Nat.mul_lt_mul_of_pos_right h (Nat.pow_pos (by decide))

theorem lt_length_toDigits_shiftRight (hn : n < t) (h : 1 <<< s ≤ Nat.pow 10 n * u) :
    t < (Nat.toDigits 10 ((u * Nat.pow 10 t) >>> s)).length + n := by
  rw [Nat.one_shiftLeft] at h
  refine Nat.lt_of_not_le fun hle => ?_
  have hlen : (Nat.toDigits 10 ((u * Nat.pow 10 t) >>> s)).length ≤ t - n := by omega
  have hpow : Nat.pow 10 t = Nat.pow 10 (t - n) * Nat.pow 10 n := by
    rw [Nat.pow_eq, Nat.pow_eq, Nat.pow_eq, ← Nat.pow_add, Nat.sub_add_cancel (Nat.le_of_lt hn)]
  rw [Nat.length_toDigits_le_iff (by decide) (by omega), Nat.shiftRight_eq_div_pow,
    Nat.div_lt_iff_lt_mul (Nat.two_pow_pos s), Nat.mul_comm, hpow, Nat.mul_assoc] at hlen
  exact Nat.not_le.mpr hlen (Nat.mul_le_mul_left _ h)

end Length

end Multiworld.Text
