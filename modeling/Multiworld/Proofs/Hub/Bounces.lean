import Mathlib.Data.List.Induction
import Multiworld.Proofs.Bounce.History
import Multiworld.Proofs.Hub

/-!
# Who is called for a bounce

A hub whose registry starts empty, through any row of subscriptions, cancellations and
packets. At each point the history of the subscriptions says who is called for a packet,
and what cancelling a subscription finds. A handler that cancels a subscription while it is
called adds to that history.

## Main definitions

* `BounceAction`, `Hub.Traced`: what is done to a hub, and a hub with its history
* `Hub.called`, `Hub.callReports`: who is called for a packet, and what is reported of it
* `Hub.Serves`: a hub does what its history says

## Main results

* `Hub.calls_foldl`: handlers called in a row
* `Hub.Traced.tracks_after`: the registry keeps up with the history
* `Hub.serves_after`: after any row of actions, a hub does what its history says
-/

namespace Multiworld

open RegistryChange

/-- What is done to the subscriptions of a hub, or comes in for them. -/
inductive BounceAction where
  | register (tags : List String) (handler : BounceHandler)
  | unregister (id : SubscriptionId)
  | receive (packet : Packet)

/-- The subscription that a handler cancels when it is called. -/
def BounceHandler.cancels? : BounceHandler → Option SubscriptionId
  | .deaths => none
  | .app _ id => id

namespace Hub

/-! ## Calls -/

/-- The subscriptions whose handlers are called for a packet. -/
def called (past : List (RegistryChange BounceHandler)) :
    Packet → List (Registration BounceHandler)
  | .bounced body => sharing past body.tags
  | _ => []

/-- What calls change. -/
def cancellations (rs : List (Registration BounceHandler)) :
    List (RegistryChange BounceHandler) :=
  rs.filterMap fun r => r.handler.cancels?.map .removed

/-- What is reported of calls in a row, `deaths` being the calls that one of the death notices
leads to. A handler that cancels a subscription finds it if it is still there. -/
def callReports (deaths : List Report) (past : List (RegistryChange BounceHandler))
    (event : BounceEvent) : List (Registration BounceHandler) → List Report
  | [] => []
  | r :: rest =>
    match r.handler with
    | .deaths => deaths ++ callReports deaths past event rest
    | .app name none => .bounce name event none :: callReports deaths past event rest
    | .app name (some id) =>
      .bounce name event (some ((live past).any (·.id = id))) ::
        callReports deaths (past ++ [.removed id]) event rest

/-- The hub `h'` is what becomes of `h` when handlers are called for an event. -/
structure Calls (h : Hub) (past : List (RegistryChange BounceHandler)) (event : BounceEvent)
    (rs : List (Registration BounceHandler)) (h' : Hub) : Prop where
  registry : h'.registry.Tracks (past ++ cancellations rs)
  /-- There is one call for each subscription, in order, and no other. -/
  reports : h'.reports = h.reports ++ callReports (h.deathCalls event.data) past event rs
  /-- The payload is logged once for each subscription of the death notices. -/
  audit : h'.audit = (rs.filter (·.handler = .deaths)).foldl
    (fun log _ => h.scope.logReceived event.data log) h.audit

variable {h : Hub} {past : List (RegistryChange BounceHandler)}

/-- **Handlers called in a row**: each call leaves the registry to the next one as its
history says. -/
theorem calls_foldl (event : BounceEvent) (rs : List (Registration BounceHandler))
    (ht : h.registry.Tracks past) :
    Calls h past event rs ((rs.map (·.handler)).foldl (handleBounce event) h) := by
  induction rs generalizing h past with
  | nil =>
    refine ⟨?_, ?_, rfl⟩
    · rw [cancellations, List.filterMap_nil, List.append_nil]
      exact ht
    · rw [callReports, List.append_nil]
      rfl
  | cons r rs ih =>
    obtain ⟨id, tags, handler⟩ := r
    rw [List.map_cons, List.foldl_cons]
    -- A handler may be the death notices, or one that cancels nothing, or one that does.
    rcases handler with _ | ⟨name, _ | cancelled⟩
    · rw [handleBounce, receiveDeath_eq]
      obtain ⟨hregistry, hreports, haudit⟩ := ih (h := h.afterCalls h.registry
        (h.scope.logReceived event.data h.audit) (h.deathCalls event.data)) ht
      refine ⟨hregistry, ?_, haudit⟩
      rw [hreports, reports_afterCalls, List.append_assoc]
      rfl
    · obtain ⟨hregistry, hreports, haudit⟩ :=
        ih (h := h.call (.bounce name event none)) ht
      refine ⟨hregistry, ?_, haudit⟩
      rw [handleBounce, hreports, call, report, List.append_assoc]
      rfl
    · -- Those behind it find a registry with one change more.
      obtain ⟨hregistry, hreports, haudit⟩ :=
        ih (h := handleBounce event h (.app name (some cancelled))) (ht.unregister cancelled)
      have hfound : (h.unregister cancelled).1 = (live past).any (·.id = cancelled) :=
        ht.isLive_eq cancelled
      have hcall : (handleBounce event h (.app name (some cancelled))).reports =
          h.reports ++ [.bounce name event (some ((live past).any (·.id = cancelled)))] := by
        rw [← hfound]
        rfl
      refine ⟨?_, ?_, haudit⟩
      · rw [List.append_assoc] at hregistry
        exact hregistry
      · rw [hreports, hcall, List.append_assoc]
        rfl

theorem deliver_ofBody (ht : h.registry.Tracks past) (body : BounceBody) :
    h.deliver (.ofBody body) = ((sharing past body.tags).length,
      ((sharing past body.tags).map (·.handler)).foldl (handleBounce (.ofBody body)) h) := by
  have hmatching : h.registry.matching (BounceEvent.ofBody body).tags =
      (sharing past body.tags).map (·.handler) := ht.matching_eq body.tags
  rw [deliver, hmatching]
  simp only [List.length_map]

theorem called_bounced (body : BounceBody) :
    called past (.bounced body) = sharing past body.tags := rfl

theorem called_of_ne {packet : Packet} (hp : ∀ body, packet ≠ .bounced body) :
    called past packet = [] := by
  cases packet with
  | bounced body => exact absurd rfl (hp body)
  | _ => rfl

theorem ofBody_congr {body : BounceBody} {tags : List String}
    (htags : ∀ t, t ∈ tags ↔ t ∈ body.tags) :
    BounceEvent.ofBody { body with tags } = BounceEvent.ofBody body := by
  have hset : NameSet.ofList tags = NameSet.ofList body.tags := by
    refine NameSet.eq_of_mem_iff fun t => ?_
    rw [NameSet.mem_ofList, NameSet.mem_ofList, htags]
  rw [BounceEvent.ofBody, BounceEvent.ofBody, hset]

/-! ## Runs -/

/-- A hub, and what has happened to its subscriptions so far. -/
structure Traced where
  hub : Hub
  past : List (RegistryChange BounceHandler)

namespace Traced

/-- A hub whose registry is that of a new one. -/
def fresh (h : Hub) : Traced := ⟨{ h with registry := (ofWorld h.world none).registry }, []⟩

/-- One action. -/
def act (s : Traced) : BounceAction → Traced
  | .register tags handler =>
    let (id, hub) := s.hub.register tags handler
    ⟨hub, s.past ++ [.added ⟨id, tags, handler⟩]⟩
  | .unregister id => ⟨(s.hub.unregister id).2, s.past ++ [.removed id]⟩
  | .receive packet =>
    ⟨handlePacket packet s.hub .bounces, s.past ++ cancellations (called s.past packet)⟩

/-- Actions in a row. -/
def after (h : Hub) (actions : List BounceAction) : Traced := actions.foldl act (fresh h)

/-- One action keeps the registry in line with its history. -/
theorem tracks_act {s : Traced} (ht : s.hub.registry.Tracks s.past) (a : BounceAction) :
    (s.act a).hub.registry.Tracks (s.act a).past := by
  cases a with
  | register tags handler => exact ht.register tags handler
  | unregister id => exact ht.unregister id
  | receive packet =>
    by_cases hp : ∃ body, packet = .bounced body
    · obtain ⟨body, rfl⟩ := hp
      have hhub : (s.act (.receive (.bounced body))).hub =
          ((sharing s.past body.tags).map (·.handler)).foldl (handleBounce (.ofBody body)) s.hub :=
        congrArg Prod.snd (deliver_ofBody ht body)
      rw [hhub]
      exact (calls_foldl (.ofBody body) (sharing s.past body.tags) ht).registry
    · have hne := not_exists.mp hp
      have hhub : (s.act (.receive packet)).hub = s.hub := handlePacket_bounces_of_ne hne
      have hpast : (s.act (.receive packet)).past = s.past := by
        rw [act, called_of_ne hne]
        exact List.append_nil s.past
      rw [hhub, hpast]
      exact ht

theorem tracks_after (h : Hub) (actions : List BounceAction) :
    (after h actions).hub.registry.Tracks (after h actions).past := by
  induction actions using List.reverseRecOn with
  | nil => exact .empty
  | append_singleton actions a ih =>
    rw [after, List.foldl_concat]
    exact tracks_act ih a

end Traced

/-- A hub does what the history of its subscriptions says. -/
structure Serves (h : Hub) (past : List (RegistryChange BounceHandler)) : Prop where
  /-- No two subscriptions were given one name. -/
  distinct : (past.filterMap added?).Pairwise (·.id ≠ ·.id)
  /-- Cancelling finds a subscription that was made and not cancelled since. -/
  unregister_iff : ∀ id, (h.unregister id).1 = true ↔ ∃ before r after,
    past = before ++ .added r :: after ∧ r.id = id ∧ .removed id ∉ after
  /-- It takes away that subscription and no other. -/
  unregister_matching : ∀ id tags, (h.unregister id).2.registry.matching (.ofList tags) =
    ((sharing past tags).filter (·.id ≠ id)).map (·.handler)
  /-- A bounce is handed to those called for it, who are counted. -/
  bounced : ∀ body, ∃ event : BounceEvent,
    ((∀ t, t ∈ event.tags ↔ t ∈ body.tags) ∧ event.data = body.data ∧
      event.games = body.games ∧ event.slots = body.slots) ∧
    handlePacket (.bounced body) h .bounces = (h.deliver event).2 ∧
    (h.deliver event).1 = (called past (.bounced body)).length ∧
    Calls h past event (called past (.bounced body)) (h.deliver event).2
  /-- Those called have a tag in common with it, were not cancelled, and come in the order
  of their subscriptions. -/
  called_iff : ∀ body r, r ∈ called past (.bounced body) ↔ (∃ before after,
    past = before ++ .added r :: after ∧ .removed r.id ∉ after) ∧ ∃ t ∈ body.tags, t ∈ r.tags
  called_sublist : ∀ packet, (called past packet).Sublist (past.filterMap added?)
  /-- Any other packet is handed to nobody. -/
  other : ∀ packet, (∀ body, packet ≠ .bounced body) → handlePacket packet h .bounces = h
  /-- Neither order nor repetition of tags matters. -/
  called_congr : ∀ body body' : BounceBody, (∀ t, t ∈ body.tags ↔ t ∈ body'.tags) →
    called past (.bounced body) = called past (.bounced body')
  bounced_congr : ∀ (body : BounceBody) (tags : List String), (∀ t, t ∈ tags ↔ t ∈ body.tags) →
    handlePacket (.bounced { body with tags }) h .bounces = handlePacket (.bounced body) h .bounces
  /-- Nothing without tags is ever called, or calls. -/
  untagged : ∀ body : BounceBody, body.tags = [] → handlePacket (.bounced body) h .bounces = h
  called_ne_nil : ∀ packet, ∀ r ∈ called past packet, r.tags ≠ []

theorem Serves.of_tracks (ht : h.registry.Tracks past) : h.Serves past where
  distinct := ht.distinct
  unregister_iff _ := ht.isLive_iff
  unregister_matching id tags := by
    have hmatching := (ht.unregister id).matching_eq tags
    rw [sharing_concat_removed] at hmatching
    exact hmatching
  bounced body := by
    have hdeliver := deliver_ofBody ht body
    refine ⟨.ofBody body, ⟨fun t => NameSet.mem_ofList, rfl, rfl, rfl⟩, rfl, ?_, ?_⟩
    · rw [hdeliver, called_bounced]
    · rw [hdeliver, called_bounced]
      exact calls_foldl _ _ ht
  called_iff body r := by
    rw [called_bounced, mem_sharing, mem_live]
  called_sublist packet := by
    cases packet with
    | bounced body => exact List.filter_sublist.trans live_sublist
    | _ => exact List.nil_sublist _
  other _ := handlePacket_bounces_of_ne
  called_congr _ _ := sharing_congr
  bounced_congr body tags htags := by
    show (h.deliver (.ofBody { body with tags })).2 = (h.deliver (.ofBody body)).2
    rw [ofBody_congr htags]
  untagged body hbody := by
    have hsharing : sharing past body.tags = [] := by
      rw [hbody]
      exact List.filter_eq_nil_iff.mpr fun _ _ => Bool.false_ne_true
    show (h.deliver (.ofBody body)).2 = h
    rw [deliver_ofBody ht, hsharing]
    rfl
  called_ne_nil packet r hr htags := by
    cases packet with
    | bounced body =>
      obtain ⟨-, t, -, ht⟩ := mem_sharing.mp hr
      rw [htags] at ht
      exact List.not_mem_nil ht
    | _ => exact List.not_mem_nil hr

/-- **After any row of subscriptions, cancellations and packets, a hub does what the history
of its subscriptions says.** -/
theorem serves_after (h : Hub) (actions : List BounceAction) :
    (Traced.after h actions).hub.Serves (Traced.after h actions).past :=
  .of_tracks (Traced.tracks_after h actions)

end Hub

end Multiworld
