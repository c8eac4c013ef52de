import Multiworld.Proofs.LogLine.Selection
import Multiworld.Proofs.Segment.Numbers

/-!
# Items and the fragments that name them

A line about an item tells of it twice: in the fields of its packet, as numbers, and in its
fragments, as text. The names of the item and of its location come out the same either way, however
the numbers are spelled, and also where there is no name to show.

## Main definitions

* `LogLine.ShowsItem`: a line shows an item where a fragment of its packet spells it

## Main results

* `Segment.resolve_itemId`, `Segment.resolve_locationId`: fragments that spell a number
* `LineKind.itemOf?_of_item?`: the item of a line is the one that its packet names
* `LogLine.ofPrint_showsItem`: the fragments of a line and its item agree
-/

namespace Multiworld

/-! ## Fragments that spell a number -/

namespace Segment

variable {f : Fragment} {text : String} {slot : Slot} {id : Int64}

theorem resolve_itemId (w : World) (hkind : f.kind = some .itemId) (htext : f.text = some text)
    (hplayer : f.player = some slot) (hid : Text.Denotes text.toList id.toInt) :
    (resolve w f).text = w.itemName slot id ∧
      (resolve w f).kind = .item id (f.flags.getD .none) := by
  simp only [resolve, hkind, htext, hplayer, Option.getD_some, ofItemId,
    int64Of?_eq_some_iff.mpr hid, and_self]

theorem resolve_locationId (w : World) (hkind : f.kind = some .locationId)
    (htext : f.text = some text) (hplayer : f.player = some slot)
    (hid : Text.Denotes text.toList id.toInt) :
    (resolve w f).text = w.locationName slot id ∧ (resolve w f).kind = .location id := by
  simp only [resolve, hkind, htext, hplayer, Option.getD_some, ofLocationId,
    int64Of?_eq_some_iff.mpr hid, and_self]

end Segment

/-! ## The item of a line -/

namespace LineKind

variable {w : World} {p : PrintBody} {kind : LineKind} {info : ItemInfo}

/-- The item of a line is the one that its packet names. -/
theorem itemOf?_of_item? (h : ofPrint? w p = some kind) (hitem : kind.item? = some info) :
    ∃ view, itemOf? w p = some (view, info) := by
  obtain ⟨type, htype, -⟩ := Option.bind_eq_some_iff.mp h
  simp only [ofPrint?, htype, Option.bind_eq_bind, Option.bind_some, Option.pure_def] at h
  cases type with
  | itemSend | hint =>
    obtain ⟨⟨view, info⟩, hview, h⟩ := Option.bind_eq_some_iff.mp h
    obtain rfl := Option.some.inj h
    obtain rfl := Option.some.inj hitem
    exact ⟨view, hview⟩
  | itemCheat =>
    obtain ⟨⟨view, info⟩, hview, h⟩ := Option.bind_eq_some_iff.mp h
    obtain ⟨team, -, h⟩ := Option.bind_eq_some_iff.mp h
    obtain rfl := Option.some.inj h
    obtain rfl := Option.some.inj hitem
    exact ⟨view, hview⟩
  -- A line of any other type is about no item.
  | chat =>
    obtain ⟨_, -, h⟩ := Option.bind_eq_some_iff.mp h
    obtain ⟨_, -, h⟩ := Option.bind_eq_some_iff.mp h
    obtain rfl := Option.some.inj h
    cases hitem
  | serverChat | join | leave | tagsChanged | goal | release | collect | countdown =>
    obtain ⟨_, -, h⟩ := Option.bind_eq_some_iff.mp h
    obtain rfl := Option.some.inj h
    cases hitem
  | tutorial | commandResult | adminCommandResult =>
    obtain rfl := Option.some.inj h
    cases hitem
  | unknown => cases h

end LineKind

namespace LogLine

variable {w : World} {p : PrintBody} {i : Nat} {f : Fragment}

theorem segments_getElem? (h : p.fragments[i]? = some f) :
    (ofPrint w p).segments[i]? = some (Segment.resolve w f) := by
  rw [ofPrint, List.getElem?_map, h, Option.map_some]

theorem itemOf?_of_item? {info : ItemInfo} (h : (ofPrint w p).kind.item? = some info) :
    ∃ view, LineKind.itemOf? w p = some (view, info) := by
  rcases ofPrint_cases w p with ⟨-, hplain⟩ | hkind
  · rw [hplain] at h
    cases h
  · exact LineKind.itemOf?_of_item? hkind h

/-- What a line tells of an item is what it shows for each fragment of its packet that spells the
number of the item for the receiver, or the number of the location for the finder. -/
structure ShowsItem (line : LogLine) (p : PrintBody) (receiver : Slot) (item : NetworkItem)
    (info : ItemInfo) : Prop where
  item_segment : ∀ (i : Nat) (f : Fragment) (text : String), p.fragments[i]? = some f →
    f.kind = some .itemId → f.text = some text → f.player = some receiver →
    Text.Denotes text.toList item.item.toInt →
    ∃ segment, line.segments[i]? = some segment ∧ segment.text = info.name ∧
      segment.kind = .item info.id (f.flags.getD .none)
  location_segment : ∀ (i : Nat) (f : Fragment) (text : String), p.fragments[i]? = some f →
    f.kind = some .locationId → f.text = some text → f.player = some item.player →
    Text.Denotes text.toList item.location.toInt →
    ∃ segment, line.segments[i]? = some segment ∧ segment.text = info.locationName ∧
      segment.kind = .location info.locationId

/-- **A line about an item and its fragments agree**, whatever names are known and however the
numbers are spelled. Among the spellings of a number is its decimal form. -/
theorem ofPrint_showsItem (w : World) (p : PrintBody) :
    (∀ info, (ofPrint w p).kind.item? = some info →
      ∃ receiver item, p.receiving = some receiver ∧ p.item = some item ∧
        (ofPrint w p).ShowsItem p receiver item info) ∧
      ∀ id : Int64, Segment.int64Of? (String.ofList (Text.integer id.toInt)) = some id := by
  refine ⟨fun info hinfo => ?_, fun id => ?_⟩
  · obtain ⟨view, hitem⟩ := itemOf?_of_item? hinfo
    obtain ⟨receiver, item, hreceiving, hpitem, -, rfl⟩ := LineKind.itemOf?_eq_some_iff.mp hitem
    refine ⟨receiver, item, hreceiving, hpitem, ⟨?_, ?_⟩⟩
    · intro i f text hf hkind htext hplayer hid
      exact ⟨_, segments_getElem? hf, Segment.resolve_itemId w hkind htext hplayer hid⟩
    · intro i f text hf hkind htext hplayer hid
      exact ⟨_, segments_getElem? hf, Segment.resolve_locationId w hkind htext hplayer hid⟩
  · rw [Segment.int64Of?_eq_some_iff, String.toList_ofList]
    exact Text.denotes_integer id.toInt

/-- A world in which slot 3 plays a game that names one item, and nothing is known of slot 4. -/
def swordWorld : World where
  roster := .ofList [{ team := ⟨0⟩, slot := ⟨3⟩, game := "Zelda" }]
  catalog := { items := [⟨"Zelda", -42, "Sword"⟩] }

/-- An item sent from slot 4 to slot 3, spelled with blanks and zeros. -/
def swordSent : PrintBody where
  kind := some .itemSend
  receiving := some ⟨3⟩
  item := some { item := -42, location := 9, player := ⟨4⟩ }
  fragments := [{ kind := some .itemId, text := some " -0042\t", player := some ⟨3⟩ },
    { kind := some .locationId, text := some "+9", player := some ⟨4⟩ }]

theorem ofPrint_showsItem_sent :
    (∃ segment, (ofPrint swordWorld swordSent).segments[0]? = some segment ∧
      segment.text = "Sword" ∧ segment.kind = .item (-42) .none) ∧
    ∃ segment, (ofPrint swordWorld swordSent).segments[1]? = some segment ∧
      segment.text = "Location: 9" ∧ segment.kind = .location 9 := by
  obtain ⟨receiver, item, hreceiver, hitem, hshows⟩ :=
    (ofPrint_showsItem swordWorld swordSent).1 _ rfl
  obtain rfl := Option.some.inj hreceiver
  obtain rfl := Option.some.inj hitem
  exact ⟨hshows.item_segment 0 _ _ rfl rfl rfl rfl (Text.integer?_trim_eq_some_iff.mp rfl),
    hshows.location_segment 1 _ _ rfl rfl rfl rfl (Text.integer?_trim_eq_some_iff.mp rfl)⟩

end LogLine

end Multiworld
