import Multiworld.World

/-!
# What a client knows

An entry that is added counts for its own key and for no other. The name of a slot hangs on the
entry of the slot in the client's team, and that of an item or a location beside it on the names
that the entry's game gives to the number.

## Main results

* `Roster.player?_add`: a player more
* `Catalog.item?_addItem_of_ne`, `Catalog.location?_addLocation_of_ne`: a name more
* `World.playerName_congr`, `World.itemName_congr`, `World.locationName_congr`: what names hang on
-/

namespace Multiworld

/-- A player who is added takes the place of one with the same team and slot, and of no other. -/
theorem Roster.player?_add (team : Team) (slot : Slot) (r : Roster) (p : Player) :
    (r.add p).player? team slot =
      if p.team = team && p.slot = slot then some p else r.player? team slot := by
  rw [add, player?, List.find?_cons]
  cases decide (p.team = team) && decide (p.slot = slot) <;> rfl

theorem Roster.player?_add_of_ne {team : Team} {slot : Slot} (r : Roster) {p : Player}
    (h : ¬ (p.team = team ∧ p.slot = slot)) :
    (r.add p).player? team slot = r.player? team slot := by
  rw [player?_add, if_neg]
  simpa only [Bool.and_eq_true, decide_eq_true_eq] using h

/-! ## Names of numbers -/

namespace Catalog

variable {n : Naming} {game : String} {id : Int64}

theorem find?_cons_of_ne (names : List Naming) (h : ¬ (n.game = game ∧ n.id = id)) :
    find? (n :: names) game id = find? names game id := by
  rw [find?, List.find?_cons_of_neg, find?]
  simpa only [Bool.and_eq_true, decide_eq_true_eq] using h

/-- A name that is added is no name of other numbers, or in other games. -/
theorem item?_addItem_of_ne (c : Catalog) (h : ¬ (n.game = game ∧ n.id = id)) :
    (c.addItem n).item? game id = c.item? game id :=
  find?_cons_of_ne c.items h

theorem location?_addLocation_of_ne (c : Catalog) (h : ¬ (n.game = game ∧ n.id = id)) :
    (c.addLocation n).location? game id = c.location? game id :=
  find?_cons_of_ne c.locations h

end Catalog

/-! ## Names of slots, items and locations -/

namespace World

variable {w w' : World} {slot : Slot} {id : Int64}

theorem playerName_congr (h : w.teammate? slot = w'.teammate? slot) :
    w.playerName slot = w'.playerName slot := by
  rw [playerName, playerName, h]

theorem game?_congr (h : w.teammate? slot = w'.teammate? slot) : w.game? slot = w'.game? slot := by
  rw [game?, game?, h]

/-- The name of an item hangs on the receiver's entry and on the names of its game. -/
theorem itemName_congr (h : w.teammate? slot = w'.teammate? slot)
    (hname : ∀ game, w.game? slot = some game →
      w.catalog.item? game id = w'.catalog.item? game id) :
    w.itemName slot id = w'.itemName slot id := by
  rw [itemName, itemName, ← game?_congr h]
  cases hgame : w.game? slot with
  | none => rfl
  | some game => rw [Option.bind_some, Option.bind_some, hname game hgame]

theorem locationName_congr (h : w.teammate? slot = w'.teammate? slot)
    (hname : ∀ game, w.game? slot = some game →
      w.catalog.location? game id = w'.catalog.location? game id) :
    w.locationName slot id = w'.locationName slot id := by
  rw [locationName, locationName, ← game?_congr h]
  cases hgame : w.game? slot with
  | none => rfl
  | some game => rw [Option.bind_some, Option.bind_some, hname game hgame]

/-! ### Names that are known -/

theorem playerName_of_nickname {p : Player} (h : w.teammate? slot = some p)
    (hname : p.nickname ≠ "") : w.playerName slot = p.nickname := by
  rw [playerName, h, Option.bind_some, nonEmpty?, if_neg hname]
  rfl

theorem itemName_of_known {game name : String} (hgame : w.game? slot = some game)
    (hname : w.catalog.item? game id = some name) : w.itemName slot id = name := by
  rw [itemName, hgame, Option.bind_some, hname, Option.getD_some]

theorem locationName_of_known {game name : String} (hgame : w.game? slot = some game)
    (hname : w.catalog.location? game id = some name) : w.locationName slot id = name := by
  rw [locationName, hgame, Option.bind_some, hname, Option.getD_some]

end World

end Multiworld
