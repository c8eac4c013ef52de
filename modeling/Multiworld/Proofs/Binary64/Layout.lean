import Multiworld.Binary64.Layout
import Multiworld.Proofs.Text.Integer

/-!
# The characters of decimals

A number is written with digits, a point, an exponent mark and signs.

## Main definitions

* `Layout.IsNumeral`: a character of a decimal

## Main results

* `Layout.isNumeral_of_mem_write`: no other character occurs
-/

namespace Multiworld.Layout

/-- A character of a decimal. -/
def IsNumeral (c : Char) : Prop := c.isDigit = true ∨ c ∈ ['-', '+', '.', 'e']

section Members

variable (l : Layout) {ds : List Char}

theorem isNumeral_of_mem_writePositional (hds : ∀ c ∈ ds, c.isDigit = true) (e : Int) :
    ∀ c ∈ l.writePositional ds e, IsNumeral c := by
  have hdigits : ∀ c ∈ ds, IsNumeral c := fun c hc => .inl (hds c hc)
  have hzeros (n : Nat) : ∀ c ∈ List.replicate n '0', IsNumeral c := fun c hc => by
    rw [List.eq_of_mem_replicate hc]
    exact .inl rfl
  have hzero : IsNumeral '0' := .inl rfl
  have hpoint : IsNumeral '.' := .inr (by decide)
  unfold writePositional
  dsimp only
  -- The point stands before all digits, behind them all, or among them.
  split
  · simpa only [List.forall_mem_cons, List.forall_mem_append] using
      ⟨hzero, hpoint, hzeros _, hdigits⟩
  · split
    · simp only [List.forall_mem_append]
      refine ⟨⟨hdigits, hzeros _⟩, ?_⟩
      split
      · simpa only [List.forall_mem_cons] using ⟨hpoint, hzero, List.forall_mem_nil _⟩
      · exact List.forall_mem_nil _
    · simp only [List.forall_mem_cons, List.forall_mem_append]
      exact ⟨fun c hc => hdigits c (List.mem_of_mem_take hc), hpoint,
        fun c hc => hdigits c (List.mem_of_mem_drop hc)⟩

theorem isNumeral_of_mem_writeScientific (hds : ∀ c ∈ ds, c.isDigit = true) (e : Int) :
    ∀ c ∈ writeScientific ds e, IsNumeral c := by
  have hdigits : ∀ c ∈ ds, IsNumeral c := fun c hc => .inl (hds c hc)
  unfold writeScientific
  -- One digit, a point with the others if there are any, and the exponent.
  simp only [List.forall_mem_append, List.forall_mem_cons]
  refine ⟨⟨fun c hc => hdigits c (List.mem_of_mem_take hc), ?_⟩, .inr (by decide), ?_, ?_⟩
  · split
    · exact List.forall_mem_nil _
    · simp only [List.forall_mem_cons]
      exact ⟨.inr (by decide), fun c hc => hdigits c (List.mem_of_mem_drop hc)⟩
  · split <;> exact .inr (by decide)
  · exact fun c hc => .inl (Text.isDigit_of_mem_toDigits hc)

theorem isNumeral_of_mem_write (x : Binary64) : ∀ c ∈ l.write x, IsNumeral c := by
  have hsign : ∀ c ∈ (if x.negative then ['-'] else []), IsNumeral c := by
    split
    · exact fun c hc => .inr (by rw [List.mem_singleton.mp hc]; decide)
    · exact List.forall_mem_nil _
  unfold write
  dsimp only
  -- Zero is written by itself; any other number has digits of its own.
  split
  · simp only [List.forall_mem_append, List.forall_mem_cons]
    refine ⟨hsign, .inl rfl, ?_⟩
    split
    · simp only [List.forall_mem_cons]
      exact ⟨.inr (by decide), .inl rfl, List.forall_mem_nil _⟩
    · exact List.forall_mem_nil _
  · refine List.forall_mem_append.mpr ⟨hsign, ?_⟩
    split
    · exact isNumeral_of_mem_writePositional l (fun _ => Text.isDigit_of_mem_toDigits) _
    · exact isNumeral_of_mem_writeScientific (fun _ => Text.isDigit_of_mem_toDigits) _

end Members

end Multiworld.Layout
