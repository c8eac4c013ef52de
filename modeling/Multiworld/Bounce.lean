import Multiworld.NameSet
import Multiworld.Packet

/-!
# Bounces

A bounce is a payload that the server relays to every client with a matching tag. Here,
handlers subscribe with tags of their own, and a bounce is for those with which it has a
tag in common. A subscription is named by a number that is never given twice.

## Main definitions

* `BounceEvent`: a payload that was bounced to this client
* `Registry`: handlers subscribed to tags
* `Registry.register`, `Registry.unregister`: adding and removing subscriptions
* `Registry.matching`: the handlers that a bounce is for
-/

namespace Multiworld

/-- A payload that was bounced to this client. -/
structure BounceEvent where
  tags : NameSet
  data : Payload
  games : List String
  slots : List Slot

/-- The event of a body; neither order nor repetition of its tags matters. -/
def BounceEvent.ofBody (body : BounceBody) : BounceEvent where
  tags := NameSet.ofList body.tags
  data := body.data
  games := body.games
  slots := body.slots

/-- The name of a subscription. -/
structure SubscriptionId where
  number : Nat
deriving DecidableEq

/-- A handler and the tags it is subscribed to. -/
structure Subscription (η : Type) where
  id : SubscriptionId
  tags : NameSet
  handler : η

/-- Handlers subscribed to tags, in the order of their subscriptions. -/
structure Registry (η : Type) where
  subscriptions : List (Subscription η) := []
  /-- How many subscriptions there have been; the latest has this number. -/
  issued : Nat := 0
  increasing : subscriptions.Pairwise (·.id.number < ·.id.number) := by
    exact List.Pairwise.nil
  number_le : ∀ s ∈ subscriptions, s.id.number ≤ issued := by
    exact fun _ h => absurd h List.not_mem_nil

namespace Registry

variable {η : Type}

/-- Subscribes a handler to tags. -/
def register (r : Registry η) (tags : NameSet) (handler : η) : SubscriptionId × Registry η :=
  (⟨r.issued + 1⟩,
    { subscriptions := r.subscriptions ++ [⟨⟨r.issued + 1⟩, tags, handler⟩]
      issued := r.issued + 1
      increasing := by
        refine List.pairwise_append.mpr
          ⟨r.increasing, List.pairwise_singleton _ _, fun s hs t ht => ?_⟩
        obtain rfl := List.mem_singleton.mp ht
        exact Nat.lt_succ_of_le (r.number_le s hs)
      number_le := fun s hs => by
        rcases List.mem_append.mp hs with hs | hs
        · exact Nat.le_succ_of_le (r.number_le s hs)
        · obtain rfl := List.mem_singleton.mp hs
          exact Nat.le_refl _ })

/-- Whether a subscription is there. -/
def isLive (r : Registry η) (id : SubscriptionId) : Bool := r.subscriptions.any (·.id = id)

/-- Removes a subscription, and says whether it was there. -/
def unregister (r : Registry η) (id : SubscriptionId) : Bool × Registry η :=
  (r.isLive id,
    { subscriptions := r.subscriptions.filter (·.id ≠ id)
      issued := r.issued
      increasing := r.increasing.filter _
      number_le := fun s hs => r.number_le s (List.mem_filter.mp hs).1 })

/-- The handlers that a bounce with some tags is for. -/
def matching (r : Registry η) (tags : NameSet) : List η :=
  (r.subscriptions.filter fun s => tags.meets s.tags).map (·.handler)

end Registry

end Multiworld
