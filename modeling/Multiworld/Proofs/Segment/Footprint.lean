import Multiworld.Proofs.Segment.Numbers
import Multiworld.Proofs.World

/-!
# What a fragment reads of a world

A fragment refers to one slot of the client's team at most: to the one that its text names, or to
the one whose game has the names of its items and locations. Its segment hangs on the entry of that
slot, on whether the slot is the client's own, and on the name of one number in one game; worlds
that agree on these give equal segments, whatever else they hold.

## Main definitions

* `Fragment.slot?`, `Fragment.id?`: the slot and the number that a fragment refers to
* `World.AgreesOn`: two worlds agree on what a fragment reads
* `Segment.Overlooks`: what may be added to a world without a trace
* `Segment.Shows`: what is read is shown

## Main results

* `Segment.resolve_of_agreesOn`: worlds that agree give equal segments
* `Segment.resolve_local`: a segment hangs on what its fragment refers to, and on nothing else
-/

namespace Multiworld

namespace Fragment

/-- The slot that a fragment refers to. -/
def slot? (f : Fragment) : Option Slot :=
  match f.kind with
  | some .playerId => Segment.slotOf? (f.text.getD "")
  | some .itemId => f.player
  | some .locationId => f.player
  | _ => none

/-- The number of the item or location that a fragment refers to. -/
def id? (f : Fragment) : Option Int64 := Segment.int64Of? (f.text.getD "")

/-- The game in which a fragment's item or location has its name. -/
def game? (f : Fragment) (w : World) : Option String := f.player.bind w.game?

end Fragment

/-- Two worlds of one client agree on the entry of the slot that a fragment refers to, and on the
name of its item or location in the game of that entry. -/
structure World.AgreesOn (w w' : World) (f : Fragment) : Prop where
  team_eq : w.identity.team = w'.identity.team
  slot_eq : w.identity.slot = w'.identity.slot
  player_eq : ∀ slot, f.slot? = some slot →
    w.roster.player? w.identity.team slot = w'.roster.player? w.identity.team slot
  item_eq : f.kind = some .itemId → ∀ game id, f.game? w = some game → f.id? = some id →
    w.catalog.item? game id = w'.catalog.item? game id
  location_eq : f.kind = some .locationId → ∀ game id, f.game? w = some game → f.id? = some id →
    w.catalog.location? game id = w'.catalog.location? game id

namespace World.AgreesOn

variable {w w' : World} {f : Fragment} {slot : Slot}

theorem teammate?_eq (h : w.AgreesOn w' f) (hslot : f.slot? = some slot) :
    w.teammate? slot = w'.teammate? slot := by
  rw [teammate?, teammate?, ← h.team_eq]
  exact h.player_eq slot hslot

theorem ofPlayerId_eq (h : w.AgreesOn w' f) (hkind : f.kind = some .playerId) :
    Segment.ofPlayerId w (f.text.getD "") = Segment.ofPlayerId w' (f.text.getD "") := by
  unfold Segment.ofPlayerId
  split
  · rfl
  · next slot hslot =>
    have hrefers : f.slot? = some slot := by rw [Fragment.slot?, hkind, hslot]
    rw [playerName_congr (h.teammate?_eq hrefers), h.slot_eq]

theorem ofItemId_eq (h : w.AgreesOn w' f) (hkind : f.kind = some .itemId) (flags : ItemFlags) :
    Segment.ofItemId w (f.text.getD "") flags f.player =
      Segment.ofItemId w' (f.text.getD "") flags f.player := by
  unfold Segment.ofItemId
  split
  · rfl
  · next id hid =>
    cases hplayer : f.player with
    | none => rfl
    | some slot =>
      have hrefers : f.slot? = some slot := by rw [Fragment.slot?, hkind, hplayer]
      have hname : w.itemName slot id = w'.itemName slot id := by
        apply itemName_congr (h.teammate?_eq hrefers)
        intro game hgame
        apply h.item_eq hkind game id _ hid
        rw [Fragment.game?, hplayer, Option.bind_some, hgame]
      dsimp only
      rw [hname]

theorem ofLocationId_eq (h : w.AgreesOn w' f) (hkind : f.kind = some .locationId) :
    Segment.ofLocationId w (f.text.getD "") f.player =
      Segment.ofLocationId w' (f.text.getD "") f.player := by
  unfold Segment.ofLocationId
  split
  · rfl
  · next id hid =>
    cases hplayer : f.player with
    | none => rfl
    | some slot =>
      have hrefers : f.slot? = some slot := by rw [Fragment.slot?, hkind, hplayer]
      have hname : w.locationName slot id = w'.locationName slot id := by
        apply locationName_congr (h.teammate?_eq hrefers)
        intro game hgame
        apply h.location_eq hkind game id _ hid
        rw [Fragment.game?, hplayer, Option.bind_some, hgame]
      dsimp only
      rw [hname]

end World.AgreesOn

namespace Segment

variable {w w' : World} {f : Fragment}

/-- A fragment whose text should not be a number reads nothing of a world. -/
theorem resolve_of_no_number (hkind : ∀ k : NumberKind, f.kind ≠ some k.kind) :
    resolve w f = resolve w' f := by
  unfold resolve
  split
  case h_1 h => exact absurd h (hkind .player)
  case h_3 h => exact absurd h (hkind .item)
  case h_5 h => exact absurd h (hkind .location)
  all_goals rfl

/-- **Worlds that agree on what a fragment reads give equal segments.** -/
theorem resolve_of_agreesOn (h : w.AgreesOn w' f) : resolve w f = resolve w' f := by
  by_cases hkind : ∃ k : NumberKind, f.kind = some k.kind
  · obtain ⟨k, hk⟩ := hkind
    cases k with
    | player =>
      have hsegment := h.ofPlayerId_eq hk
      simp only [resolve, hk, NumberKind.kind, hsegment]
    | item =>
      have hsegment := h.ofItemId_eq hk (f.flags.getD .none)
      simp only [resolve, hk, NumberKind.kind, hsegment]
    | location =>
      have hsegment := h.ofLocationId_eq hk
      simp only [resolve, hk, NumberKind.kind, hsegment]
  · exact resolve_of_no_number (not_exists.mp hkind)

/-! ## What leaves no trace -/

/-- What a fragment overlooks in a world: players of other teams and slots, names of other numbers
and of other games, names of items if it is no item, and names of locations if it is no location. -/
structure Overlooks (w : World) (f : Fragment) : Prop where
  player : ∀ p, ¬ (p.team = w.identity.team ∧ f.slot? = some p.slot) →
    resolve { w with roster := w.roster.add p } f = resolve w f
  item : ∀ n, ¬ (f.kind = some .itemId ∧ f.game? w = some n.game ∧ f.id? = some n.id) →
    resolve { w with catalog := w.catalog.addItem n } f = resolve w f
  location : ∀ n, ¬ (f.kind = some .locationId ∧ f.game? w = some n.game ∧ f.id? = some n.id) →
    resolve { w with catalog := w.catalog.addLocation n } f = resolve w f
  /-- A fragment whose text should not be a number overlooks everything. -/
  world : (∀ k : NumberKind, f.kind ≠ some k.kind) → ∀ w', resolve w' f = resolve w f

theorem overlooks (w : World) (f : Fragment) : Overlooks w f where
  player p hp := by
    refine resolve_of_agreesOn ⟨rfl, rfl, ?_, fun _ _ _ _ _ => rfl, fun _ _ _ _ _ => rfl⟩
    intro slot hslot
    apply Roster.player?_add_of_ne
    rintro ⟨hteam, rfl⟩
    exact hp ⟨hteam, hslot⟩
  item n hn := by
    refine resolve_of_agreesOn ⟨rfl, rfl, fun _ _ => rfl, ?_, fun _ _ _ _ _ => rfl⟩
    intro hkind game id hgame hid
    apply Catalog.item?_addItem_of_ne
    rintro ⟨rfl, rfl⟩
    exact hn ⟨hkind, hgame, hid⟩
  location n hn := by
    refine resolve_of_agreesOn ⟨rfl, rfl, fun _ _ => rfl, fun _ _ _ _ _ => rfl, ?_⟩
    intro hkind game id hgame hid
    apply Catalog.location?_addLocation_of_ne
    rintro ⟨rfl, rfl⟩
    exact hn ⟨hkind, hgame, hid⟩
  world hkind _ := resolve_of_no_number hkind

/-! ## What is shown -/

/-- What a fragment reads of a world is what it shows, if it has a name. -/
structure Shows (w : World) (f : Fragment) : Prop where
  player : ∀ slot p, f.kind = some .playerId → f.slot? = some slot →
    w.roster.player? w.identity.team slot = some p → p.nickname ≠ "" →
    (resolve w f).text = p.nickname
  item : ∀ game id name, f.kind = some .itemId → f.game? w = some game → f.id? = some id →
    w.catalog.item? game id = some name → (resolve w f).text = name
  location : ∀ game id name, f.kind = some .locationId → f.game? w = some game →
    f.id? = some id → w.catalog.location? game id = some name → (resolve w f).text = name

theorem shows_of_resolve (w : World) (f : Fragment) : Shows w f where
  player slot p hkind hslot hp hname := by
    rw [Fragment.slot?, hkind] at hslot
    simp only [resolve, hkind, ofPlayerId, hslot]
    exact World.playerName_of_nickname hp hname
  item game id name hkind hgame hid hname := by
    obtain ⟨slot, hplayer, hgame⟩ := Option.bind_eq_some_iff.mp hgame
    rw [Fragment.id?] at hid
    simp only [resolve, hkind, ofItemId, hid, hplayer]
    exact World.itemName_of_known hgame hname
  location game id name hkind hgame hid hname := by
    obtain ⟨slot, hplayer, hgame⟩ := Option.bind_eq_some_iff.mp hgame
    rw [Fragment.id?] at hid
    simp only [resolve, hkind, ofLocationId, hid, hplayer]
    exact World.locationName_of_known hgame hname

/-- **A segment hangs on what its fragment refers to**, on nothing else, and on that it does. -/
theorem resolve_local (f : Fragment) :
    (∀ w w' : World, w.AgreesOn w' f → resolve w f = resolve w' f) ∧
      ∀ w : World, Overlooks w f ∧ Shows w f :=
  ⟨fun _ _ => resolve_of_agreesOn, fun w => ⟨overlooks w f, shows_of_resolve w f⟩⟩

/-- A world in which slot 3 plays a game with one item. -/
def homeWorld : World where
  roster := .ofList [{ team := ⟨0⟩, slot := ⟨3⟩, game := "Zelda" }]
  catalog := { items := [⟨"Zelda", 42, "Sword"⟩] }

/-- The same world, in which slot 3 of another team plays another game, and in which the number of
the item means something else there and among the locations. -/
def sharedWorld : World where
  roster := .ofList [{ team := ⟨0⟩, slot := ⟨3⟩, game := "Zelda" },
    { team := ⟨1⟩, slot := ⟨3⟩, game := "Metroid" }]
  catalog :=
    { items := [⟨"Metroid", 42, "Missile"⟩, ⟨"Zelda", 42, "Sword"⟩]
      locations := [⟨"Zelda", 42, "Cave"⟩] }

/-- An item of slot 3. -/
def swordId : Fragment := { kind := some .itemId, text := some "42", player := some ⟨3⟩ }

theorem resolve_local_sword :
    resolve homeWorld swordId = resolve sharedWorld swordId ∧
      (resolve sharedWorld swordId).text = "Sword" := by
  obtain ⟨hagree, hworld⟩ := resolve_local swordId
  have hshows := (hworld sharedWorld).2
  refine ⟨hagree _ _ ⟨rfl, rfl, ?_, ?_, nofun⟩, hshows.item "Zelda" 42 _ rfl rfl rfl rfl⟩
  · intro slot hslot
    obtain rfl : ⟨3⟩ = slot := Option.some.inj hslot
    rfl
  · intro _ game id hgame hid
    obtain rfl : "Zelda" = game := Option.some.inj hgame
    obtain rfl : 42 = id := Option.some.inj hid
    rfl

end Segment

end Multiworld
