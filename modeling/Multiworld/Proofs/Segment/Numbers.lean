import Multiworld.Proofs.Text.Numeral
import Multiworld.Segment

/-!
# Numbers in fragments

Three kinds of fragments have a number for their text: that of a slot, of an item or of a location.
The text is read if it is a numeral of a number in the range of the kind, with white space around or
not, and then nothing but the number counts. Any other text is shown as it stands.

## Main definitions

* `NumberKind`: the kinds of fragments whose text is a number
* `NumberKind.number?`: the number that a text stands for in a fragment of some kind
* `Segment.IsNumbered`: what becomes of a fragment whose text should be a number

## Main results

* `Segment.idOf?_eq_some_iff`, `Segment.slotOf?_eq_some_iff`, `Segment.int64Of?_eq_some_iff`: the
  texts that stand for a number
* `NumberKind.number?_eq_some_iff`: the same for all three kinds
* `Segment.resolve_isNumbered`: numbers are read, and other texts are kept
-/

namespace Multiworld

/-! ## The texts that stand for a number -/

namespace Segment

variable {text : String}

/-- A text stands for the number that it denotes, if that is in range. -/
theorem idOf?_eq_some_iff {low high n : Int} :
    idOf? low high text = some n ↔ Text.Denotes text.toList n ∧ low ≤ n ∧ n < high := by
  rw [idOf?, Option.filter_eq_some_iff, Text.integer?_trim_eq_some_iff, Bool.and_eq_true,
    decide_eq_true_eq, decide_eq_true_eq]

theorem slotOf?_eq_some_iff {slot : Slot} :
    slotOf? text = some slot ↔ Text.Denotes text.toList slot.number.toInt := by
  rw [slotOf?, Option.map_eq_some_iff]
  simp only [idOf?_eq_some_iff]
  constructor
  · rintro ⟨n, ⟨hn, hlow, hhigh⟩, rfl⟩
    rwa [Int32.toInt_ofInt_of_le hlow hhigh]
  · intro h
    refine ⟨slot.number.toInt, ⟨h, slot.number.le_toInt, slot.number.toInt_lt⟩, ?_⟩
    rw [Int32.ofInt_toInt]

theorem int64Of?_eq_some_iff {id : Int64} :
    int64Of? text = some id ↔ Text.Denotes text.toList id.toInt := by
  rw [int64Of?, Option.map_eq_some_iff]
  simp only [idOf?_eq_some_iff]
  constructor
  · rintro ⟨n, ⟨hn, hlow, hhigh⟩, rfl⟩
    rwa [Int64.toInt_ofInt_of_le hlow hhigh]
  · intro h
    exact ⟨id.toInt, ⟨h, id.le_toInt, id.toInt_lt⟩, Int64.ofInt_toInt id⟩

end Segment

/-! ## Kinds of numbers -/

/-- The kinds of fragments whose text is a number. -/
inductive NumberKind where
  | player
  | item
  | location
deriving DecidableEq

namespace NumberKind

/-- A kind as that of a fragment. -/
def kind : NumberKind → FragmentKind
  | .player => .playerId
  | .item => .itemId
  | .location => .locationId

/-- Numbers of a kind lie below this bound, and not below its opposite. -/
def bound : NumberKind → Int
  | .player => 2 ^ 31
  | .item => 2 ^ 63
  | .location => 2 ^ 63

/-- The number that a text stands for in a fragment of some kind. -/
def number? : NumberKind → String → Option Int
  | .player, text => (Segment.slotOf? text).map (·.number.toInt)
  | .item, text => (Segment.int64Of? text).map Int64.toInt
  | .location, text => (Segment.int64Of? text).map Int64.toInt

/-- The colour of a fragment that has no number for its text. -/
def color (flags : ItemFlags) : NumberKind → Color
  | .player => .yellow
  | .item => .ofFlags flags
  | .location => .green

variable {k : NumberKind} {text : String} {n : Int}

/-- **The texts that stand for a number** are the numerals of the numbers in range. -/
theorem number?_eq_some_iff :
    k.number? text = some n ↔ Text.Denotes text.toList n ∧ -k.bound ≤ n ∧ n < k.bound := by
  have hid : (Segment.int64Of? text).map Int64.toInt = some n ↔
      Text.Denotes text.toList n ∧ -2 ^ 63 ≤ n ∧ n < 2 ^ 63 := by
    rw [Option.map_eq_some_iff]
    simp only [Segment.int64Of?_eq_some_iff]
    constructor
    · rintro ⟨id, h, rfl⟩
      exact ⟨h, id.le_toInt, id.toInt_lt⟩
    · rintro ⟨h, hlow, hhigh⟩
      have hn := Int64.toInt_ofInt_of_le hlow hhigh
      exact ⟨Int64.ofInt n, hn.symm ▸ h, hn⟩
  cases k with
  | player =>
    rw [number?, Option.map_eq_some_iff]
    simp only [Segment.slotOf?_eq_some_iff]
    constructor
    · rintro ⟨slot, h, rfl⟩
      exact ⟨h, slot.number.le_toInt, slot.number.toInt_lt⟩
    · rintro ⟨h, hlow, hhigh⟩
      have hn := Int32.toInt_ofInt_of_le hlow hhigh
      exact ⟨⟨Int32.ofInt n⟩, hn.symm ▸ h, hn⟩
  | item => exact hid
  | location => exact hid

end NumberKind

/-- The kind of number by which a segment refers to something, and the number. -/
def SegmentKind.number? : SegmentKind → Option (NumberKind × Int)
  | .player slot => some (.player, slot.number.toInt)
  | .item id _ => some (.item, id.toInt)
  | .location id => some (.location, id.toInt)
  | _ => none

/-! ## Fragments with a number -/

namespace Segment

variable {w : World} {k : NumberKind} {f g : Fragment} {text : String} {n : Int}

/-- What becomes of a fragment whose text should be a number. -/
structure IsNumbered (w : World) (k : NumberKind) (f : Fragment) : Prop where
  /-- The text is a number if it is a numeral of one in range, and white space around is no
  matter. -/
  number_iff : ∀ n, k.number? (f.text.getD "") = some n ↔
    Text.Denotes (f.text.getD "").toList n ∧ -k.bound ≤ n ∧ n < k.bound
  /-- The segment refers to the number. -/
  read : ∀ n, k.number? (f.text.getD "") = some n → (resolve w f).kind.number? = some (k, n)
  /-- Any other text that stands for the number gives the same segment. -/
  spelling : ∀ n text, k.number? (f.text.getD "") = some n → k.number? text = some n →
    resolve w { f with text := some text } = resolve w f
  /-- A text that is no number is shown as it is, and the segment refers to zero. -/
  kept : k.number? (f.text.getD "") = none →
    (resolve w f).text = f.text.getD "" ∧ (resolve w f).kind.number? = some (k, 0) ∧
      (resolve w f).color = k.color (f.flags.getD .none)

theorem resolve_read (hkind : f.kind = some k.kind) (h : k.number? (f.text.getD "") = some n) :
    (resolve w f).kind.number? = some (k, n) := by
  cases k with
  | player =>
    obtain ⟨slot, hslot, rfl⟩ := Option.map_eq_some_iff.mp h
    simp only [resolve, hkind, NumberKind.kind, ofPlayerId, hslot, SegmentKind.number?]
  | item =>
    obtain ⟨id, hid, rfl⟩ := Option.map_eq_some_iff.mp h
    simp only [resolve, hkind, NumberKind.kind, ofItemId, hid, SegmentKind.number?]
  | location =>
    obtain ⟨id, hid, rfl⟩ := Option.map_eq_some_iff.mp h
    simp only [resolve, hkind, NumberKind.kind, ofLocationId, hid, SegmentKind.number?]

/-- The spelling of a number is no matter. -/
theorem resolve_spelling (hkind : f.kind = some k.kind)
    (h : k.number? (f.text.getD "") = some n) (h' : k.number? text = some n) :
    resolve w { f with text := some text } = resolve w f := by
  -- Numbers of 32 and of 64 bits are told apart by their values.
  cases k with
  | player =>
    obtain ⟨⟨m⟩, hslot, hm⟩ := Option.map_eq_some_iff.mp h
    obtain ⟨⟨m'⟩, hslot', hm'⟩ := Option.map_eq_some_iff.mp h'
    obtain rfl : m' = m := Int32.toInt_inj.mp (hm'.trans hm.symm)
    simp only [resolve, hkind, NumberKind.kind, Option.getD_some, ofPlayerId, hslot, hslot']
  | item =>
    obtain ⟨m, hid, hm⟩ := Option.map_eq_some_iff.mp h
    obtain ⟨m', hid', hm'⟩ := Option.map_eq_some_iff.mp h'
    obtain rfl : m' = m := Int64.toInt_inj.mp (hm'.trans hm.symm)
    simp only [resolve, hkind, NumberKind.kind, Option.getD_some, ofItemId, hid, hid']
  | location =>
    obtain ⟨m, hid, hm⟩ := Option.map_eq_some_iff.mp h
    obtain ⟨m', hid', hm'⟩ := Option.map_eq_some_iff.mp h'
    obtain rfl : m' = m := Int64.toInt_inj.mp (hm'.trans hm.symm)
    simp only [resolve, hkind, NumberKind.kind, Option.getD_some, ofLocationId, hid, hid']

theorem resolve_kept (hkind : f.kind = some k.kind) (h : k.number? (f.text.getD "") = none) :
    (resolve w f).text = f.text.getD "" ∧ (resolve w f).kind.number? = some (k, 0) ∧
      (resolve w f).color = k.color (f.flags.getD .none) := by
  cases k with
  | player =>
    have hslot := Option.map_eq_none_iff.mp h
    simp only [resolve, hkind, NumberKind.kind, ofPlayerId, hslot, true_and]
    exact ⟨rfl, rfl⟩
  | item =>
    have hid := Option.map_eq_none_iff.mp h
    simp only [resolve, hkind, NumberKind.kind, ofItemId, hid, true_and]
    exact ⟨rfl, rfl⟩
  | location =>
    have hid := Option.map_eq_none_iff.mp h
    simp only [resolve, hkind, NumberKind.kind, ofLocationId, hid, true_and]
    exact ⟨rfl, rfl⟩

/-- **A fragment whose text should be a number** is read by value if the text is a numeral of a
number in range, and keeps its text otherwise. -/
theorem resolve_isNumbered (w : World) (k : NumberKind) (f : Fragment)
    (hkind : f.kind = some k.kind) : IsNumbered w k f where
  number_iff _ := NumberKind.number?_eq_some_iff
  read _ h := resolve_read hkind h
  spelling _ _ h h' := resolve_spelling hkind h h'
  kept h := resolve_kept hkind h

/-- A location of the lowest number, in its decimal form and behind an em space and with zeros. -/
theorem resolve_isNumbered_location :
    (resolve {} { kind := some .locationId, text := some "-9223372036854775808" }).kind.number? =
        some (.location, -2 ^ 63) ∧
      resolve {} { kind := some .locationId, text := some "\u2003-009223372036854775808" } =
        resolve {} { kind := some .locationId, text := some "-9223372036854775808" } := by
  have h := resolve_isNumbered {} .location
    { kind := some .locationId, text := some "-9223372036854775808" } rfl
  exact ⟨h.read _ (by decide), h.spelling (-2 ^ 63) _ (by decide) (by decide)⟩

/-- No text, a sign alone, a blank inside, digits of another script, and one too many are no slots. -/
example : ["", "-", "1 2", "\uff12", "2147483648"].map NumberKind.player.number? =
    [none, none, none, none, none] := by
  decide

end Segment

end Multiworld
