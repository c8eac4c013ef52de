import Multiworld.Proofs.Hub.Batching
import Multiworld.Proofs.Hub.Deaths

/-!
# Listeners that join

A listener may be subscribed while packets are handed on. Who is handed a packet is settled
when its turn comes, and not when its message comes: so a listener that joins at one packet of
a message is handed the packets of that message behind it, and all packets of later messages.

A listener is known by its *place*, since listeners are never taken off the list.

## Main definitions

* `Hub.Handed`: packets handed to listeners one by one
* `Hub.received`: the packets handed to the listener at a place
* `Hub.JoinsAt`: a listener joins while a packet is handed on
* `Hub.turns`: who is handed what, by their places

## Main results

* `Hub.handed_publish`: a packet is handed to each of the listeners that are there
* `Hub.received_turns_of_lt`, `Hub.exists_joinsAt`: what listeners receive that are there, and
  that join
* `Hub.dispatch_newcomers`: the listeners that join at a message
-/

namespace Multiworld

/-- The packets of a message; a message that is no list has none. -/
def Batch.packetsOf (message : String) : List Packet :=
  match read message with
  | .ok batch => batch.packets
  | .error _ => []

namespace Hub

/-- Packets are handed to the listeners at some places, one by one. -/
inductive Handed : Hub → List (Packet × Nat) → Hub → Prop
  | nil (h : Hub) : Handed h [] h
  | cons {h h' : Hub} {packet : Packet} {n : Nat} {l : Listener} {rest : List (Packet × Nat)}
    (there : h.listeners[n]? = some l) (later : Handed (handlePacket packet h l) rest h') :
    Handed h ((packet, n) :: rest) h'

theorem Handed.append {h h' h'' : Hub} {xs ys : List (Packet × Nat)} (hxs : Handed h xs h')
    (hys : Handed h' ys h'') : Handed h (xs ++ ys) h'' := by
  induction hxs with
  | nil => exact hys
  | cons there _ ih => exact .cons there (ih hys)

/-- The packets handed to the listener at a place. -/
def received (n : Nat) (xs : List (Packet × Nat)) : List Packet :=
  (xs.filter (·.2 = n)).map (·.1)

theorem received_append (n : Nat) (xs ys : List (Packet × Nat)) :
    received n (xs ++ ys) = received n xs ++ received n ys := by
  rw [received, List.filter_append, List.map_append]
  rfl

/-- The listener at a place joins while a packet is handed on, behind some others. -/
structure JoinsAt (h : Hub) (before : List Packet) (packet : Packet) (n : Nat) : Prop where
  absent : (h.publishAll before).listeners.length ≤ n
  present : n < (h.publishAll (before ++ [packet])).listeners.length

/-! ## One packet -/

/-- The places that a packet goes to. -/
def round (h : Hub) (packet : Packet) : List (Packet × Nat) :=
  (List.range h.listeners.length).map (packet, ·)

theorem received_round (h : Hub) (packet : Packet) (n : Nat) :
    received n (h.round packet) = if n < h.listeners.length then [packet] else [] := by
  have hrange (k : Nat) : received n ((List.range k).map (packet, ·)) =
      if n < k then [packet] else [] := by
    induction k with
    | zero => rfl
    | succ k ih =>
      rw [List.range_succ, List.map_append, received_append, ih]
      rcases Nat.lt_trichotomy n k with hlt | rfl | hgt
      · rw [if_pos hlt, if_pos (Nat.lt_succ_of_lt hlt)]
        simp [received, Nat.ne_of_gt hlt]
      · simp [received]
      · rw [if_neg (Nat.not_lt_of_gt hgt), if_neg (Nat.not_lt_of_ge hgt)]
        simp [received, Nat.ne_of_lt hgt]
  exact hrange h.listeners.length

/-- Listeners go on to be handed the packet while others join behind them. -/
theorem handed_foldl (packet : Packet) (rest : List Listener) : ∀ (done : List Listener) (h : Hub),
    done ++ rest <+: h.listeners →
      Handed h ((List.range' done.length rest.length).map (packet, ·))
        (rest.foldl (handlePacket packet) h) := by
  induction rest with
  | nil => exact fun _ h _ => .nil h
  | cons l rest ih =>
    intro done h hprefix
    obtain ⟨registry, audit, calls, hl, -⟩ := handlePacket_cases packet h l
    have hthere : h.listeners[done.length]? = some l := by
      obtain ⟨more, hmore⟩ := hprefix
      rw [← hmore, List.append_assoc, List.getElem?_append_right (Nat.le_refl _), Nat.sub_self]
      rfl
    have hgrown : (done ++ [l]) ++ rest <+: (handlePacket packet h l).listeners := by
      rw [hl, List.append_assoc]
      exact hprefix.trans (List.prefix_append _ _)
    have hlater := ih (done ++ [l]) _ hgrown
    rw [List.length_append] at hlater
    rw [List.length_cons, List.range'_succ, List.map_cons]
    exact .cons hthere hlater

/-- **A packet is handed to each of the listeners that are there** when its turn comes. -/
theorem handed_publish (h : Hub) (packet : Packet) :
    Handed h (h.round packet) (h.publish packet) := by
  have hall := handed_foldl packet h.listeners [] h (List.prefix_refl _)
  rwa [List.length_nil, ← List.range_eq_range'] at hall

/-! ## Packets in a row -/

/-- Who is handed what, by their places. -/
def turns (h : Hub) : List Packet → List (Packet × Nat)
  | [] => []
  | packet :: packets => h.round packet ++ (h.publish packet).turns packets

theorem handed_turns (h : Hub) (packets : List Packet) :
    Handed h (h.turns packets) (h.publishAll packets) := by
  induction packets generalizing h with
  | nil => exact .nil h
  | cons packet packets ih => exact (handed_publish h packet).append (ih _)

/-- A listener that is there is handed every packet. -/
theorem received_turns_of_lt {h : Hub} {n : Nat} (hn : n < h.listeners.length)
    (packets : List Packet) : received n (h.turns packets) = packets := by
  induction packets generalizing h with
  | nil => rfl
  | cons packet packets ih =>
    rw [turns, received_append, received_round, if_pos hn,
      ih (Nat.lt_of_lt_of_le hn (h.listeners_prefix_publish packet).length_le)]
    rfl

/-- **A listener that joins** does so at some packet, and is handed those behind it. -/
theorem exists_joinsAt {h : Hub} {n : Nat} (hn : h.listeners.length ≤ n) :
    ∀ {packets : List Packet}, n < (h.publishAll packets).listeners.length →
      ∃ before packet after, packets = before ++ packet :: after ∧ h.JoinsAt before packet n ∧
        received n (h.turns packets) = after
  | [], hlt => absurd hlt (Nat.not_lt.mpr hn)
  | packet :: packets, hlt => by
    have hturns : received n (h.turns (packet :: packets)) =
        received n ((h.publish packet).turns packets) := by
      rw [turns, received_append, received_round, if_neg (Nat.not_lt.mpr hn), List.nil_append]
    by_cases hjoins : n < (h.publish packet).listeners.length
    · exact ⟨[], packet, packets, rfl, ⟨hn, hjoins⟩, hturns.trans (received_turns_of_lt hjoins _)⟩
    · obtain ⟨before, packet', after, rfl, ⟨habsent, hpresent⟩, hafter⟩ :=
        exists_joinsAt (Nat.not_lt.mp hjoins) hlt
      exact ⟨packet :: before, packet', after, rfl, ⟨habsent, hpresent⟩, hturns.trans hafter⟩

/-! ## Messages -/

theorem dispatch_eq_publishAll (h : Hub) (message : String) :
    (h.dispatch message).2 = h.publishAll (Batch.packetsOf message) := by
  unfold dispatch Batch.packetsOf
  cases Batch.read message <;> rfl

theorem dispatchAll_eq_publishAll (h : Hub) (messages : List String) :
    h.dispatchAll messages = h.publishAll (messages.flatMap Batch.packetsOf) := by
  induction messages generalizing h with
  | nil => rfl
  | cons message messages ih =>
    rw [dispatchAll, List.foldl_cons, ← dispatchAll, ih, dispatch_eq_publishAll, List.flatMap_cons,
      publishAll, publishAll, publishAll, List.foldl_append]

/-- **The listeners that join at a message** are handed the packets behind the one that they
join at, and all packets of later messages. So one is handed nothing of the message exactly if it
joins at the last packet. -/
theorem dispatch_newcomers (h : Hub) (message : String) (later : List String) :
    ∃ now after, Handed h now (h.dispatch message).2 ∧
      Handed (h.dispatch message).2 after ((h.dispatch message).2.dispatchAll later) ∧
      (∀ n, n < h.listeners.length → received n now = Batch.packetsOf message) ∧
      (∀ n, h.listeners.length ≤ n → n < (h.dispatch message).2.listeners.length →
        ∃ before packet behind, Batch.packetsOf message = before ++ packet :: behind ∧
          h.JoinsAt before packet n ∧ received n now = behind) ∧
      ∀ n, n < (h.dispatch message).2.listeners.length →
        received n after = later.flatMap Batch.packetsOf := by
  refine ⟨h.turns (Batch.packetsOf message),
    (h.dispatch message).2.turns (later.flatMap Batch.packetsOf), ?_, ?_, ?_, ?_, ?_⟩
  · rw [dispatch_eq_publishAll]
    exact handed_turns h _
  · rw [dispatchAll_eq_publishAll]
    exact handed_turns _ _
  · intro n hn
    exact received_turns_of_lt hn _
  · intro n hle hlt
    rw [dispatch_eq_publishAll] at hlt
    exact exists_joinsAt hle hlt
  · intro n hn
    exact received_turns_of_lt hn _

/-- A hub with a listener that subscribes another one at the first call of all. -/
def recruiting : Hub where
  __ := (ofWorld {} none).subscribe (.app "a")
  joins reports := if reports.length = 1 then [.app "b"] else []

/-- The listener that joins at the first of two packets is handed the second, though it joined in
the same message. -/
theorem dispatch_newcomers_second :
    ∃ h' now,
      h' = (recruiting.dispatch
        "[\x7b\"cmd\":\"Say\",\"text\":\"1\"\x7d,\x7b\"cmd\":\"Say\",\"text\":\"2\"\x7d]").2 ∧
      recruiting.listeners.length = 3 ∧ h'.listeners.length = 4 ∧ Handed recruiting now h' ∧
      received 3 now = [.say "2"] := by
  obtain ⟨now, _, hnow, -, -, hjoin, -⟩ := dispatch_newcomers recruiting
    "[\x7b\"cmd\":\"Say\",\"text\":\"1\"\x7d,\x7b\"cmd\":\"Say\",\"text\":\"2\"\x7d]" []
  have hpackets : Batch.packetsOf
      "[\x7b\"cmd\":\"Say\",\"text\":\"1\"\x7d,\x7b\"cmd\":\"Say\",\"text\":\"2\"\x7d]" =
      [.say "1", .say "2"] := rfl
  obtain ⟨before, packet, behind, hsplit, hjoins, hbehind⟩ :=
    hjoin 3 (Nat.le_refl 3) (by rw [dispatch_eq_publishAll, hpackets]; decide)
  rw [hpackets] at hsplit
  refine ⟨_, now, rfl, rfl, ?_, hnow, ?_⟩
  · rw [dispatch_eq_publishAll, hpackets]
    rfl
  · rw [hbehind]
    -- It is there when the second packet comes, and so joined at the first.
    match before with
    | [] => exact (List.cons.inj hsplit).2.symm
    | _ :: before =>
      obtain ⟨rfl, hrest⟩ := List.cons.inj hsplit
      have hthere := Nat.le_trans (listeners_prefix_publishAll _ before).length_le hjoins.absent
      exact absurd hthere (by decide)

end Hub

end Multiworld
