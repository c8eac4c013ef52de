/-!
# Slots, teams and item flags

A participant of a session is named by a team and a slot. An item carries classification
bits.

## Main definitions

* `Slot`, `Team`: numbers of 32 bits, signed
* `ItemFlags`: classification bits
* `ItemFlags.contains`: whether some bits are all set
-/

namespace Multiworld

/-- A participant's number within a team. -/
structure Slot where
  number : Int32
deriving DecidableEq

/-- A group of slots that win together. -/
structure Team where
  number : Int32
deriving DecidableEq

/-- Classification bits of an item. -/
structure ItemFlags where
  bits : UInt32
deriving DecidableEq

namespace ItemFlags

/-- No bit. -/
def none : ItemFlags := ⟨0⟩

/-- Needed to reach the goal. -/
def advancement : ItemFlags := ⟨1⟩

/-- Useful, and never placed where nothing useful may be. -/
def neverExclude : ItemFlags := ⟨2⟩

/-- A trap. -/
def trap : ItemFlags := ⟨4⟩

/-- The bits of either. -/
def union (a b : ItemFlags) : ItemFlags := ⟨a.bits ||| b.bits⟩

/-- Whether all bits of `b` are set, `b` having any. -/
def contains (a b : ItemFlags) : Bool := a.bits &&& b.bits = b.bits && b.bits ≠ 0

end ItemFlags

end Multiworld
