import Multiworld.Proofs.DeathScope
import Multiworld.Proofs.Hub

/-!
# What payloads of deaths do

Whoever handles a packet or a bounce, only the death notices log payloads and hand deaths on.
Where one listener hands bounces on, and the death notices are subscribed once, a packet is
taken for a death once if it is one, whatever the other listeners and handlers do meanwhile.

## Main definitions

* `Hub.Takes`: what payloads do to a hub
* `Hub.Hears`: the death notices hear of each bounce once

## Main results

* `Hub.deliver_takes`, `Hub.handlePacket_takes`: what a bounce does, and what a packet that goes
  to another listener does
* `Hub.Hears.publish_takes`: what a packet does
-/

namespace Multiworld

/-- The payload of a packet that is a death for this client. -/
def Packet.deathPayload? : Packet → Option Payload
  | .bounced body => if DeathNotice.tag ∈ body.tags then some body.data else none
  | _ => none

namespace Hub

variable {h h' h'' : Hub}

/-- The hub `h'` is what becomes of `h` when payloads of deaths are taken. -/
structure Takes (h : Hub) (payloads : List Payload) (h' : Hub) : Prop where
  scope : h'.scope = h.scope
  deathHandlers : h'.deathHandlers = h.deathHandlers
  audit : h'.audit = h.scope.logAll h.audit payloads
  deaths : h'.reports.filter (·.isDeath) =
    h.reports.filter (·.isDeath) ++ payloads.flatMap h.deathCalls

namespace Takes

/-- Calls of anyone but the handlers of deaths are no deaths taken. -/
theorem of_reports (hscope : h'.scope = h.scope) (hhandlers : h'.deathHandlers = h.deathHandlers)
    (haudit : h'.audit = h.audit) {calls : List Report} (hreports : h'.reports = h.reports ++ calls)
    (hcalls : calls.filter (·.isDeath) = []) : Takes h [] h' := by
  refine ⟨hscope, hhandlers, haudit, ?_⟩
  rw [hreports, List.filter_append, hcalls]
  rfl

theorem refl (h : Hub) : Takes h [] h := of_reports rfl rfl rfl (List.append_nil _).symm rfl

/-- What is taken later comes after what was taken before. -/
theorem trans {ps qs : List Payload} (hp : Takes h ps h') (hq : Takes h' qs h'') :
    Takes h (ps ++ qs) h'' := by
  have hcalls : h'.deathCalls = h.deathCalls := by
    funext data
    rw [deathCalls, deathCalls, hp.deathHandlers]
  refine ⟨hq.scope.trans hp.scope, hq.deathHandlers.trans hp.deathHandlers, ?_, ?_⟩
  · rw [hq.audit, hp.scope, hp.audit]
    exact List.foldl_append.symm
  · rw [hq.deaths, hp.deaths, hcalls, List.append_assoc, List.flatMap_append]

end Takes

/-! ## Bounces -/

/-- The payloads of deaths that one handler takes from an event. -/
def takenBy (event : BounceEvent) : BounceHandler → List Payload
  | .deaths => [event.data]
  | .app .. => []

theorem handleBounce_takes (event : BounceEvent) (h : Hub) (handler : BounceHandler) :
    Takes h (takenBy event handler) (handleBounce event h handler) := by
  rcases handler with _ | ⟨name, _ | cancelled⟩
  · rw [handleBounce, receiveDeath_eq]
    refine ⟨rfl, rfl, rfl, ?_⟩
    rw [reports_afterCalls, List.filter_append, filter_isDeath_deathCalls, takenBy, List.flatMap_singleton]
  · exact .of_reports rfl rfl rfl rfl rfl
  · exact .of_reports rfl rfl rfl rfl rfl

theorem foldl_handleBounce_takes (event : BounceEvent) (h : Hub) (handlers : List BounceHandler) :
    Takes h (handlers.flatMap (takenBy event)) (handlers.foldl (handleBounce event) h) := by
  induction handlers generalizing h with
  | nil => exact .refl h
  | cons handler handlers ih =>
    rw [List.flatMap_cons]
    exact (handleBounce_takes event h handler).trans (ih _)

/-- A bounce is taken for a death by those that it is for when it comes, whether or not they are
still subscribed when their turn comes. -/
theorem deliver_takes (event : BounceEvent) (h : Hub) :
    Takes h ((h.registry.matching event.tags).flatMap (takenBy event)) (h.deliver event).2 :=
  foldl_handleBounce_takes event h _

/-! ## Packets -/

/-- A listener that hands no bounces on takes nothing, and cancels no subscription. -/
theorem handlePacket_takes (packet : Packet) (h : Hub) {l : Listener} (hl : l ≠ .bounces) :
    Takes h [] (handlePacket packet h l) ∧ (handlePacket packet h l).registry = h.registry := by
  cases l with
  | bounces => exact absurd rfl hl
  | lines =>
    cases packet with
    | print body =>
      rw [handlePacket, callAll_eq]
      refine ⟨.of_reports rfl rfl rfl rfl ?_, rfl⟩
      refine List.filter_eq_nil_iff.mpr fun r hr => ?_
      obtain ⟨name, -, rfl⟩ := List.mem_map.mp hr
      exact Bool.false_ne_true
    | _ => exact ⟨.refl h, rfl⟩
  | app name => exact ⟨.of_reports rfl rfl rfl rfl rfl, rfl⟩

theorem foldl_handlePacket_takes (packet : Packet) (h : Hub) {listeners : List Listener}
    (hl : ∀ l ∈ listeners, l ≠ .bounces) :
    Takes h [] (listeners.foldl (handlePacket packet) h) ∧
      (listeners.foldl (handlePacket packet) h).registry = h.registry := by
  induction listeners generalizing h with
  | nil => exact ⟨.refl h, rfl⟩
  | cons l listeners ih =>
    obtain ⟨hne, hrest⟩ := List.forall_mem_cons.mp hl
    obtain ⟨hfirst, hregistry⟩ := handlePacket_takes packet h hne
    obtain ⟨hmore, hregistry'⟩ := ih (handlePacket packet h l) hrest
    exact ⟨hfirst.trans hmore, hregistry'.trans hregistry⟩

/-- One listener hands bounces on, and the death notices are subscribed once to the tag of
deaths. -/
structure Hears (h : Hub) : Prop where
  listeners : ∃ before after, h.listeners = before ++ .bounces :: after ∧
    ∀ l ∈ before ++ after, l ≠ .bounces
  subscriptions : ∃ before after id, h.registry.subscriptions =
      before ++ ⟨id, .ofList [DeathNotice.tag], .deaths⟩ :: after ∧
    ∀ s ∈ before ++ after, s.handler ≠ .deaths

namespace Hears

/-- The other handlers, before and after, take nothing. -/
theorem flatMap_takenBy (hh : h.Hears) (event : BounceEvent) :
    (h.registry.matching event.tags).flatMap (takenBy event) =
      if DeathNotice.tag ∈ event.tags then [event.data] else [] := by
  obtain ⟨before, after, id, hsubs, hothers⟩ := hh.subscriptions
  have hmeets : event.tags.meets (.ofList [DeathNotice.tag]) = true ↔
      DeathNotice.tag ∈ event.tags := by
    rw [NameSet.meets_iff]
    simp only [NameSet.mem_ofList, List.mem_singleton, exists_eq_right]
  have hpart (part : List (Subscription BounceHandler)) (hsub : part ⊆ before ++ after) :
      ((part.filter fun s => event.tags.meets s.tags).map (·.handler)).flatMap (takenBy event) =
        [] := by
    refine List.flatMap_eq_nil_iff.mpr fun handler hhandler => ?_
    obtain ⟨s, hs, rfl⟩ := List.mem_map.mp hhandler
    have hne := hothers s (hsub (List.mem_filter.mp hs).1)
    cases hhandler : s.handler with
    | deaths => exact absurd hhandler hne
    | app name cancels => rfl
  rw [Registry.matching, hsubs, List.filter_append, List.map_append, List.flatMap_append,
    hpart before (List.subset_append_left _ _), List.nil_append, List.filter_cons]
  by_cases htag : DeathNotice.tag ∈ event.tags
  · rw [if_pos (hmeets.mpr htag), if_pos htag, List.map_cons, List.flatMap_cons,
      hpart after (List.subset_append_right _ _)]
    rfl
  · rw [if_neg fun hm => htag (hmeets.mp hm), if_neg htag,
      hpart after (List.subset_append_right _ _)]

/-- The handlers of bounces take a packet for a death once if it is one. -/
theorem handlePacket_takes (hh : h.Hears) (hregistry : h'.registry = h.registry)
    (packet : Packet) :
    Takes h' packet.deathPayload?.toList (handlePacket packet h' .bounces) := by
  cases packet with
  | bounced body =>
    have hdeliver := deliver_takes (.ofBody body) h'
    rw [hregistry, hh.flatMap_takenBy] at hdeliver
    have htag : DeathNotice.tag ∈ (BounceEvent.ofBody body).tags ↔ DeathNotice.tag ∈ body.tags :=
      NameSet.mem_ofList
    have htaken : (Packet.bounced body).deathPayload?.toList =
        if DeathNotice.tag ∈ (BounceEvent.ofBody body).tags then [body.data] else [] := by
      by_cases hm : DeathNotice.tag ∈ body.tags
      · rw [Packet.deathPayload?, if_pos hm, if_pos (htag.mpr hm)]
        rfl
      · rw [Packet.deathPayload?, if_neg hm, if_neg fun h => hm (htag.mp h)]
        rfl
    rw [htaken]
    exact hdeliver
  | _ => exact .refl h'

/-- **A packet is taken for a death once** if it is one, whoever else sees it. -/
theorem publish_takes (hh : h.Hears) (packet : Packet) :
    Takes h packet.deathPayload?.toList (h.publish packet) := by
  obtain ⟨before, after, hlisteners, hothers⟩ := hh.listeners
  obtain ⟨hbefore, hafter⟩ := List.forall_mem_append.mp hothers
  -- The listeners before leave all subscriptions as they are.
  obtain ⟨hfirst, hregistry⟩ := foldl_handlePacket_takes packet h hbefore
  have hbounces := hh.handlePacket_takes hregistry packet
  have hrest := (foldl_handlePacket_takes packet
    (handlePacket packet (before.foldl (handlePacket packet) h) .bounces) hafter).1
  rw [publish, hlisteners, List.foldl_append, List.foldl_cons]
  have hall := hfirst.trans (hbounces.trans hrest)
  rwa [List.nil_append, List.append_nil] at hall

end Hears

end Hub

end Multiworld
