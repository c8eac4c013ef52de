import Multiworld.LogLine

/-!
# Whom a log line is about

A roster finds a player under its own team and slot only, so the player of a view is of the team
and slot that were looked up. The lines whose type needs the team of their packet are about a
player of that team, with one exception: the receiver of an item that was cheated in is looked
up on the client's own team, although the packet names another one.

## Main definitions

* `PrintKind.needsTeam`, `LineKind.needsTeam`: the types and lines that need a team

## Main results

* `World.view_team`, `World.view_slot`: a view is of the player that was looked up
* `LineKind.playerOf?_eq_some_iff`, `LineKind.itemOf?_eq_some_iff`: what a packet must name
* `LineKind.needsTeam_eq`: a line needs a team if and only if its packet's type does
* `LogLine.player_of_needsTeam`: whom a line that needs a team is about
-/

namespace Multiworld

/-! ## Views -/

/-- A player is found under its own team and slot. -/
theorem Roster.eq_of_player?_eq_some {r : Roster} {team : Team} {slot : Slot} {p : Player}
    (h : r.player? team slot = some p) : p.team = team ∧ p.slot = slot := by
  have hfound := List.find?_some h
  rw [Bool.and_eq_true, decide_eq_true_eq, decide_eq_true_eq] at hfound
  exact hfound

namespace World

variable (w : World) (team : Team) (slot : Slot)

theorem playerOf_team_slot :
    (w.playerOf team slot).team = team ∧ (w.playerOf team slot).slot = slot := by
  unfold playerOf
  cases h : w.roster.player? team slot with
  | none => exact ⟨rfl, rfl⟩
  | some p => exact Roster.eq_of_player?_eq_some h

/-- **A view is of the player that was looked up**, whatever the roster holds. -/
@[simp] theorem view_team : (w.view team slot).player.team = team :=
  (w.playerOf_team_slot team slot).1

@[simp] theorem view_slot : (w.view team slot).player.slot = slot :=
  (w.playerOf_team_slot team slot).2

theorem view_isActive_iff :
    (w.view team slot).isActive = true ↔ team = w.identity.team ∧ slot = w.identity.slot := by
  rw [view, Bool.and_eq_true, decide_eq_true_eq, decide_eq_true_eq]

end World

/-! ## What a packet names -/

/-- Whether a type of lines needs the team of the packet. -/
def PrintKind.needsTeam : PrintKind → Bool
  | .chat => true
  | .join => true
  | .leave => true
  | .tagsChanged => true
  | .goal => true
  | .release => true
  | .collect => true
  | .itemCheat => true
  | _ => false

namespace LineKind

/-- Whether a line is of a type that needs the team of the packet. -/
def needsTeam : LineKind → Bool
  | .chat .. => true
  | .join .. => true
  | .leave _ => true
  | .tagsChanged .. => true
  | .goal _ => true
  | .release _ => true
  | .collect _ => true
  | .itemCheat .. => true
  | _ => false

variable {w : World} {p : PrintBody}

theorem playerOf?_eq_some_iff {view : PlayerView} :
    playerOf? w p = some view ↔
      ∃ team slot, p.team = some team ∧ p.slot = some slot ∧ view = w.view team slot := by
  unfold playerOf?
  cases p.team <;> cases p.slot <;> simp [eq_comm]

theorem itemOf?_eq_some_iff {view : PlayerView} {info : ItemInfo} :
    itemOf? w p = some (view, info) ↔
      ∃ receiver item, p.receiving = some receiver ∧ p.item = some item ∧
        view = w.view w.identity.team receiver ∧ info = .ofNetwork w receiver item := by
  unfold itemOf?
  cases p.receiving <;> cases p.item <;> simp [eq_comm]

/-- A line of a type that needs the player and nothing else is about the player that the packet
names. -/
theorem about_of_bind {line : PlayerView → LineKind} {kind : LineKind}
    (hline : ∀ view, (line view).player? = some view)
    (h : (playerOf? w p).bind (fun view => some (line view)) = some kind) :
    ∃ view, playerOf? w p = some view ∧ kind.player? = some view := by
  obtain ⟨view, hview, h⟩ := Option.bind_eq_some_iff.mp h
  obtain rfl := Option.some.inj h
  exact ⟨view, hview, hline view⟩

/-- A line needs a team if and only if the type of its packet does. -/
theorem needsTeam_eq {type : PrintKind} {kind : LineKind} (htype : p.kind = some type)
    (h : ofPrint? w p = some kind) : kind.needsTeam = type.needsTeam := by
  cases type <;>
    simp only [ofPrint?, htype, Option.bind_eq_bind, Option.bind_some, Option.pure_def,
      Option.bind_eq_some_iff, Option.some.injEq, reduceCtorEq] at h <;>
    grind [needsTeam, PrintKind.needsTeam]

/-- A line that needs a team is about the player that its packet names, or about the receiver of an
item that was cheated in. -/
theorem about_of_needsTeam {kind : LineKind} (h : ofPrint? w p = some kind)
    (hteam : kind.needsTeam = true) :
    (p.kind ≠ some .itemCheat ∧ ∃ view, playerOf? w p = some view ∧ kind.player? = some view) ∨
      (p.kind = some .itemCheat ∧ ∃ view info team, itemOf? w p = some (view, info) ∧
        p.team = some team ∧ kind = .itemCheat view info team) := by
  obtain ⟨type, htype, -⟩ := Option.bind_eq_some_iff.mp h
  rw [needsTeam_eq htype h] at hteam
  simp only [ofPrint?, htype, Option.bind_eq_bind, Option.bind_some, Option.pure_def] at h
  cases type with
  | itemCheat =>
    obtain ⟨⟨view, info⟩, hitem, h⟩ := Option.bind_eq_some_iff.mp h
    obtain ⟨team, hteam, h⟩ := Option.bind_eq_some_iff.mp h
    exact .inr ⟨htype, view, info, team, hitem, hteam, (Option.some.inj h).symm⟩
  | chat =>
    obtain ⟨view, hview, h⟩ := Option.bind_eq_some_iff.mp h
    obtain ⟨message, -, h⟩ := Option.bind_eq_some_iff.mp h
    obtain rfl := Option.some.inj h
    exact .inl ⟨by rw [htype]; nofun, view, hview, rfl⟩
  | join | leave | tagsChanged | goal | release | collect =>
    exact .inl ⟨by rw [htype]; nofun, about_of_bind (fun _ => rfl) h⟩
  | _ => cases hteam

end LineKind

namespace LogLine

/-- **Whom a line that needs a team is about.** A line of a type that needs the team of its packet
is about a player of the slot that the packet names, who is of the team that the packet names and
counts as the client only if the client is of that team. An item that was cheated in is the
exception: its receiver is looked up on the client's team, so it is of the team that the packet
names only where the two agree, and counts as the client wherever the slots agree. -/
theorem player_of_needsTeam (w : World) (p : PrintBody)
    (hteam : (ofPrint w p).kind.needsTeam = true) :
    ∃ (team : Team) (slot : Slot) (view : PlayerView),
      p.team = some team ∧
      (if p.kind = some .itemCheat then p.receiving else p.slot) = some slot ∧
      (ofPrint w p).kind.player? = some view ∧
      view.player.slot = slot ∧
      (view.player.team = team ↔ p.kind ≠ some .itemCheat ∨ team = w.identity.team) ∧
      (view.isActive = true ↔
        slot = w.identity.slot ∧ (p.kind = some .itemCheat ∨ team = w.identity.team)) := by
  obtain ⟨kind, hkind⟩ : ∃ kind, LineKind.ofPrint? w p = some kind := by
    cases h : LineKind.ofPrint? w p with
    | none => rw [ofPrint, h] at hteam; cases hteam
    | some kind => exact ⟨kind, rfl⟩
  have hline : (ofPrint w p).kind = kind := by rw [ofPrint, hkind, Option.getD_some]
  rw [hline] at hteam ⊢
  rcases LineKind.about_of_needsTeam hkind hteam with
    ⟨htype, view, hview, habout⟩ | ⟨htype, view, info, team, hitem, hpteam, rfl⟩
  · obtain ⟨team, slot, hpteam, hslot, rfl⟩ := LineKind.playerOf?_eq_some_iff.mp hview
    refine ⟨team, slot, _, hpteam, by rw [if_neg htype, hslot], habout, w.view_slot team slot,
      iff_of_true (w.view_team team slot) (.inl htype), ?_⟩
    rw [World.view_isActive_iff, and_comm]
    simp only [htype, false_or]
  · obtain ⟨slot, item, hslot, -, rfl, -⟩ := LineKind.itemOf?_eq_some_iff.mp hitem
    refine ⟨team, slot, _, hpteam, by rw [if_pos htype, hslot], rfl, w.view_slot _ slot, ?_, ?_⟩
    · rw [w.view_team, eq_comm]
      simp only [htype, ne_eq, not_true_eq_false, false_or]
    · rw [World.view_isActive_iff]
      simp only [htype, true_and, true_or, and_true]

/-- An item that was cheated in for slot 3 of team 1. -/
def cheatedIn : PrintBody where
  kind := some .itemCheat
  team := some ⟨1⟩
  receiving := some ⟨3⟩
  item := some { item := 42, location := 9, player := ⟨4⟩ }

/-- To a client in slot 3 of team 0 the receiver is itself. -/
theorem player_of_needsTeam_cheatedIn :
    (ofPrint { identity := { slot := ⟨3⟩ } } cheatedIn).kind.needsTeam = true ∧
      ∃ view, (ofPrint { identity := { slot := ⟨3⟩ } } cheatedIn).kind.player? = some view ∧
        cheatedIn.team ≠ some view.player.team ∧ view.isActive = true := by
  have hteam : (ofPrint { identity := { slot := ⟨3⟩ } } cheatedIn).kind.needsTeam = true := by
    decide
  obtain ⟨team, slot, view, hpteam, hslot, hview, -, hsame, hactive⟩ :=
    player_of_needsTeam { identity := { slot := ⟨3⟩ } } cheatedIn hteam
  obtain rfl : ⟨1⟩ = team := Option.some.inj hpteam
  obtain rfl : ⟨3⟩ = slot := Option.some.inj hslot
  refine ⟨hteam, view, hview, fun h => ?_, hactive.mpr (by decide)⟩
  exact absurd (hsame.mp (Option.some.inj h).symm) (by decide)

end LogLine

end Multiworld
