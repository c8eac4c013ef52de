/-!
# Instants

Moments of civil time, to the millisecond, in the years -262143 to 262142. An instant is a
second since the start of 1970 and the milliseconds into it. A second may be followed by a leap
second, which is counted as its milliseconds 1000 to 1999. Whoever gives an instant in seconds
and nanoseconds gets a leap second only behind the last second of a minute, but an instant whose
milliseconds were set may have one anywhere.

## Main definitions

* `Instant`: a moment
* `Instant.ofSeconds?`: the instant of seconds and nanoseconds
* `Instant.millis`, `Instant.ofMillis?`: milliseconds since the start of 1970

## Main results

* `Instant.ofMillis?_millis`: the instants outside leap seconds are told apart by their
  milliseconds
-/

namespace Multiworld

/-- A moment of civil time. -/
structure Instant where
  second : Int
  milli : Nat
  ge : -8334601228800 ≤ second
  le : second ≤ 8210266876799
  milli_lt : milli < 2000
deriving DecidableEq

namespace Instant

/-- The instant of seconds and nanoseconds, which are cut to milliseconds. A leap second follows
the last second of a minute. -/
def ofSeconds? (second : Int) (nano : Nat) : Option Instant :=
  if h : -8334601228800 ≤ second ∧ second ≤ 8210266876799 ∧ nano < 2000000000 ∧
      (1000000000 ≤ nano → second % 60 = 59) then
    some ⟨second, nano / 1000000, h.1, h.2.1, by omega⟩
  else none

/-- Milliseconds since the start of 1970, without the leap seconds before. -/
def millis (t : Instant) : Int := t.second * 1000 + t.milli

/-- The instant of a number of milliseconds; it lies in no leap second. -/
def ofMillis? (m : Int) : Option Instant :=
  if h : -8334601228800000 ≤ m ∧ m ≤ 8210266876799999 then
    some ⟨m / 1000, (m % 1000).toNat, by omega, by omega, by omega⟩
  else none

/-- The instants outside leap seconds are told apart by their milliseconds. -/
theorem ofMillis?_millis {t : Instant} (h : t.milli < 1000) : ofMillis? t.millis = some t := by
  have hge := t.ge
  have hle := t.le
  have hm : t.millis = t.second * 1000 + t.milli := rfl
  unfold ofMillis?
  rw [dif_pos (by omega)]
  obtain ⟨second, milli, _, _, _⟩ := t
  simp only [Option.some.injEq, Instant.mk.injEq]
  dsimp only at h hm
  constructor <;> omega

theorem ofMillis?_eq_none {m : Int} (h : 8334601228800000 < m.natAbs) : ofMillis? m = none := by
  unfold ofMillis?
  rw [dif_neg (by omega)]

/-- Milliseconds that do not fit into 64 bits are those of no instant, and neither are the least and
the greatest that do. -/
theorem ofMillis?_clamp (m : Int) : ofMillis? (Int64.ofIntClamp m).toInt = ofMillis? m := by
  have hmin : Int64.minValue.toInt = -2 ^ 63 := by decide
  have hmax : Int64.maxValue.toInt = 2 ^ 63 - 1 := by decide
  unfold Int64.ofIntClamp
  split
  · split
    · rw [Int64.toInt_ofIntLE]
    · next h =>
      rw [hmax] at h ⊢
      rw [ofMillis?_eq_none (by decide), ofMillis?_eq_none (by omega)]
  · next h =>
    rw [hmin] at h ⊢
    rw [ofMillis?_eq_none (by decide), ofMillis?_eq_none (by omega)]

theorem natAbs_millis_lt (t : Instant) : t.millis.natAbs < 2 ^ 65 := by
  have := t.ge
  have := t.le
  have := t.milli_lt
  unfold millis
  omega

end Instant

end Multiworld
