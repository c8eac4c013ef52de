import Mathlib.Data.List.Basic
import Mathlib.Data.List.Induction
import Multiworld.Proofs.LogLine.Players
import Multiworld.Proofs.World

/-!
# How a client sees the other players

A roster is filled player by player, and of those given for one team and slot the last one counts.
A client sees as related to it itself, and every player of its team who has a group in common with
it, is one of its groups, or has it as a group. The relation goes both ways: a player whom the
client sees as related sees the client as related.

## Main definitions

* `Player.lastOf`: the player of a team and slot, from the players that were given
* `PlayerView.Shows`: what a view tells of a player

## Main results

* `Player.sharesGroupWith_iff`, `Player.sharesGroupWith_comm`: groups in common
* `Roster.player?_ofList`: the last player given counts
* `World.isRelated_iff`, `World.isRelated_comm`: who is related to the client
* `World.view_shows`: what a client sees
-/

namespace Multiworld

/-! ## Groups -/

namespace Player

variable {p q : Player}

theorem sharesGroupWith_iff :
    p.sharesGroupWith q = true ↔
      p.team = q.team ∧
        (q.slot ∈ p.groups ∨ p.slot ∈ q.groups ∨ ∃ group ∈ p.groups, group ∈ q.groups) := by
  simp only [sharesGroupWith, Bool.and_eq_true, decide_eq_true_eq, Bool.or_eq_true,
    List.contains_iff_mem, List.any_eq_true, or_assoc]

/-- Sharing a group goes both ways. -/
theorem sharesGroupWith_comm (p q : Player) : p.sharesGroupWith q = q.sharesGroupWith p := by
  have hcommon : (∃ group ∈ p.groups, group ∈ q.groups) ↔ ∃ group ∈ q.groups, group ∈ p.groups :=
    exists_congr fun _ => and_comm
  rw [Bool.eq_iff_iff, sharesGroupWith_iff, sharesGroupWith_iff, hcommon, eq_comm, or_left_comm]

/-- The player of a team and slot, from the players that were given: the last one given for it, and
if there is none, one without names and groups. -/
def lastOf (ps : List Player) (team : Team) (slot : Slot) : Player :=
  ((ps.filter fun p => p.team = team && p.slot = slot).getLast?).getD ⟨team, slot, "", "", "", []⟩

end Player

/-! ## Rosters -/

namespace Roster

variable (ps : List Player) (team : Team) (slot : Slot)

theorem ofList_concat (p : Player) : ofList (ps ++ [p]) = (ofList ps).add p := by
  rw [ofList, List.foldl_append, List.foldl_cons, List.foldl_nil, ofList]

/-- **The last player given for a team and slot is the one that is found.** -/
theorem player?_ofList :
    (ofList ps).player? team slot =
      (ps.filter fun p => p.team = team && p.slot = slot).getLast? := by
  induction ps using List.reverseRecOn with
  | nil => rfl
  | append_singleton ps p ih =>
    rw [ofList_concat, player?_add, ih, List.filter_append, List.filter_singleton]
    cases decide (p.team = team) && decide (p.slot = slot) with
    | true => exact List.getLast?_concat.symm
    | false => rw [cond_false, List.append_nil]; rfl

end Roster

/-! ## Views -/

namespace World

variable (w : World) (team : Team) (slot : Slot)

theorem isRelated_iff :
    (w.view team slot).isRelated = true ↔
      (w.view team slot).isActive = true ∨ team = w.identity.team ∧
        (slot ∈ (w.playerOf w.identity.team w.identity.slot).groups ∨
          w.identity.slot ∈ (w.playerOf team slot).groups ∨
          ∃ group ∈ (w.playerOf w.identity.team w.identity.slot).groups,
            group ∈ (w.playerOf team slot).groups) := by
  obtain ⟨hteam, hslot⟩ := w.playerOf_team_slot team slot
  obtain ⟨hownTeam, hownSlot⟩ := w.playerOf_team_slot w.identity.team w.identity.slot
  have hshares := Player.sharesGroupWith_iff (p := w.playerOf w.identity.team w.identity.slot)
    (q := w.playerOf team slot)
  rw [hteam, hslot, hownTeam, hownSlot, eq_comm (a := w.identity.team)] at hshares
  rw [view, Bool.or_eq_true, hshares]

/-- **Being related goes both ways**: from the place of the player who is seen, the client is
related if and only if the player is from the client's. -/
theorem isRelated_comm :
    (w.view team slot).isRelated =
      (view { w with identity := { w.identity with team, slot } } w.identity.team
        w.identity.slot).isRelated := by
  -- Both sides look up the same two players, so that only their order differs.
  have hshares := Player.sharesGroupWith_comm (w.playerOf w.identity.team w.identity.slot)
    (w.playerOf team slot)
  simp only [view, playerOf] at hshares ⊢
  simp only [hshares, eq_comm (a := team), eq_comm (a := slot)]

end World

/-- What a view tells of the player in a slot of a team, if a client's roster was filled with some
players. -/
structure PlayerView.Shows (view : PlayerView) (ps : List Player) (own : Identity) (team : Team)
    (slot : Slot) : Prop where
  team_eq : view.player.team = team
  slot_eq : view.player.slot = slot
  player_eq : view.player = .lastOf ps team slot
  isActive_iff : view.isActive = true ↔ team = own.team ∧ slot = own.slot
  isRelated_iff : view.isRelated = true ↔
    view.isActive = true ∨ team = own.team ∧
      (slot ∈ (Player.lastOf ps own.team own.slot).groups ∨
        own.slot ∈ (Player.lastOf ps team slot).groups ∨
        ∃ group ∈ (Player.lastOf ps own.team own.slot).groups,
          group ∈ (Player.lastOf ps team slot).groups)
  team_of_isRelated : view.isRelated = true → team = own.team

namespace World

theorem playerOf_ofList (ps : List Player) (catalog : Catalog) (own : Identity) (team : Team)
    (slot : Slot) : playerOf ⟨.ofList ps, catalog, own⟩ team slot = .lastOf ps team slot := by
  rw [playerOf, Roster.player?_ofList, Player.lastOf]

/-- **What a client sees of a player**, whatever players were given to its roster, and in which
order. Who is seen as related would see the client as related. -/
theorem view_shows (ps : List Player) (catalog : Catalog) (own : Identity) (team : Team)
    (slot : Slot) :
    (view ⟨.ofList ps, catalog, own⟩ team slot).Shows ps own team slot ∧
      (view ⟨.ofList ps, catalog, own⟩ team slot).isRelated =
        (view ⟨.ofList ps, catalog, { own with team, slot }⟩ own.team own.slot).isRelated := by
  have hrelated := isRelated_iff ⟨.ofList ps, catalog, own⟩ team slot
  have hactive := view_isActive_iff ⟨.ofList ps, catalog, own⟩ team slot
  simp only [playerOf_ofList] at hrelated
  refine ⟨⟨view_team .., view_slot .., playerOf_ofList .., hactive, hrelated, fun h => ?_⟩,
    isRelated_comm ..⟩
  rcases hrelated.mp h with hsame | ⟨hteam, -⟩
  · exact (hactive.mp hsame).1
  · exact hteam

end World

end Multiworld
