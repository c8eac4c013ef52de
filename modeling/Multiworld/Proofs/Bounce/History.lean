import Mathlib.Data.List.Basic
import Multiworld.Bounce

/-!
# The history of a registry

What was subscribed to bounces, and what was cancelled, in order. A subscription is there
as long as it is not cancelled after it was made; cancelling beforehand does nothing.

## Main definitions

* `Registration`, `RegistryChange`: a subscription as it was asked for, and what happens
  to subscriptions
* `RegistryChange.live`: the subscriptions that are left after some changes
* `Registry.Tracks`: a registry after some changes

## Main results

* `RegistryChange.mem_live`, `RegistryChange.live_concat_removed`: what is left
* `Registry.Tracks.register`, `Registry.Tracks.unregister`: a registry keeps up
* `Registry.Tracks.matching_eq`: a bounce is for those left that share a tag with it
-/

namespace Multiworld

/-- Sets with the same members are equal. -/
theorem NameSet.eq_of_mem_iff {s t : NameSet} (h : ∀ name, name ∈ s ↔ name ∈ t) : s = t := by
  have hnodup (u : NameSet) : u.names.Nodup := by
    refine u.increasing.imp fun {a b} hlt heq => ?_
    rw [heq] at hlt
    exact String.lt_irrefl b hlt
  have hperm : s.names.Perm t.names := (List.perm_ext_iff_of_nodup (hnodup s) (hnodup t)).mpr h
  refine NameSet.ext (hperm.eq_of_pairwise (fun a b _ _ hab hba => ?_) s.increasing t.increasing)
  exact absurd (String.lt_trans hab hba) (String.lt_irrefl a)

variable {η : Type}

/-- A subscription as it was asked for. -/
structure Registration (η : Type) where
  id : SubscriptionId
  tags : List String
  handler : η

/-- The subscription of a registration. -/
def Registration.subscription (r : Registration η) : Subscription η :=
  ⟨r.id, .ofList r.tags, r.handler⟩

/-- What happens to subscriptions. -/
inductive RegistryChange (η : Type) where
  | added (r : Registration η)
  | removed (id : SubscriptionId)

namespace RegistryChange

variable {past : List (RegistryChange η)} {r : Registration η} {id : SubscriptionId}

/-- Whether a change removes a subscription. -/
def removes (id : SubscriptionId) : RegistryChange η → Bool
  | added _ => false
  | removed id' => id' = id

/-- The subscription that a change adds. -/
def added? : RegistryChange η → Option (Registration η)
  | added r => some r
  | removed _ => none

/-- The subscriptions that are added and not removed later, in the order they were added. -/
def live : List (RegistryChange η) → List (Registration η)
  | [] => []
  | added r :: later => if later.any (removes r.id) then live later else r :: live later
  | removed _ :: later => live later

/-- The subscriptions left that share one of some tags. -/
def sharing (past : List (RegistryChange η)) (tags : List String) : List (Registration η) :=
  (live past).filter fun r => tags.any (· ∈ r.tags)

theorem any_removes_iff : past.any (removes id) = true ↔ removed id ∈ past := by
  rw [List.any_eq_true]
  constructor
  · rintro ⟨c, hc, hid⟩
    cases c with
    | added r => cases hid
    | removed id' =>
      obtain rfl := of_decide_eq_true hid
      exact hc
  · intro h
    exact ⟨_, h, decide_eq_true rfl⟩

theorem live_concat_added : live (past ++ [added r]) = live past ++ [r] := by
  induction past with
  | nil => rfl
  | cons c past ih =>
    cases c with
    | added r' =>
      have hany : (past ++ [added r]).any (removes r'.id) = past.any (removes r'.id) := by
        rw [List.any_append, List.any_cons, List.any_nil, removes, Bool.or_false, Bool.or_false]
      rw [List.cons_append, live, live, hany, ih]
      split
      · rfl
      · rfl
    | removed id => exact ih

/-- **Removing a subscription leaves the others**, in their order. -/
theorem live_concat_removed :
    live (past ++ [removed id]) = (live past).filter (·.id ≠ id) := by
  induction past with
  | nil => rfl
  | cons c past ih =>
    cases c with
    | added r =>
      rw [List.cons_append, live, live, List.any_append, List.any_cons, List.any_nil,
        Bool.or_false, ih]
      -- It may have been removed earlier, or is removed just now, or stays.
      by_cases hlater : past.any (removes r.id) = true
      · rw [hlater, Bool.true_or, if_pos rfl, if_pos rfl]
      · rw [Bool.eq_false_iff.mpr hlater, Bool.false_or, if_neg Bool.false_ne_true]
        by_cases hid : id = r.id
        · subst hid
          simp [removes]
        · simp [removes, hid, Ne.symm hid]
    | removed id => exact ih

theorem sharing_concat_removed (tags : List String) :
    sharing (past ++ [removed id]) tags = (sharing past tags).filter (·.id ≠ id) := by
  rw [sharing, sharing, live_concat_removed, List.filter_filter, List.filter_filter]
  exact List.filter_congr fun r _ => Bool.and_comm _ _

/-- **A subscription is left exactly if it was added, and not removed since.** -/
theorem mem_live :
    r ∈ live past ↔ ∃ before after, past = before ++ added r :: after ∧ removed r.id ∉ after := by
  induction past with
  | nil => simp [live]
  | cons c past ih =>
    -- The change is the first one, or it is among the later ones.
    have hsplit : (∃ before after, c :: past = before ++ added r :: after ∧ removed r.id ∉ after) ↔
        (c = added r ∧ removed r.id ∉ past) ∨ r ∈ live past := by
      rw [ih]
      constructor
      · rintro ⟨_ | ⟨b, before⟩, after, h, hr⟩
        · obtain ⟨rfl, rfl⟩ := List.cons.inj h
          exact .inl ⟨rfl, hr⟩
        · obtain ⟨-, h⟩ := List.cons.inj h
          exact .inr ⟨before, after, h, hr⟩
      · rintro (⟨rfl, hr⟩ | ⟨before, after, rfl, hr⟩)
        · exact ⟨[], past, rfl, hr⟩
        · exact ⟨c :: before, after, rfl, hr⟩
    rw [hsplit]
    cases c with
    | removed id => simp [live]
    | added r' =>
      rw [live]
      split
      · next h =>
        refine (or_iff_right ?_).symm
        rintro ⟨he, hr⟩
        obtain rfl := RegistryChange.added.inj he
        exact hr (any_removes_iff.mp h)
      · next h =>
        rw [any_removes_iff] at h
        rw [List.mem_cons]
        refine or_congr ⟨?_, ?_⟩ Iff.rfl
        · rintro rfl
          exact ⟨rfl, h⟩
        · rintro ⟨he, -⟩
          exact (RegistryChange.added.inj he).symm

theorem mem_filterMap_added? : r ∈ past.filterMap added? ↔ added r ∈ past := by
  rw [List.mem_filterMap]
  constructor
  · rintro ⟨c, hc, hr⟩
    cases c with
    | added r' =>
      obtain rfl := Option.some.inj hr
      exact hc
    | removed id => cases hr
  · intro h
    exact ⟨_, h, rfl⟩

/-- Those left come in the order in which they were added. -/
theorem live_sublist : (live past).Sublist (past.filterMap added?) := by
  induction past with
  | nil => exact .slnil
  | cons c past ih =>
    cases c with
    | added r =>
      rw [live]
      split
      · exact ih.cons r
      · exact ih.cons_cons r
    | removed id => exact ih

theorem mem_sharing {tags : List String} :
    r ∈ sharing past tags ↔ r ∈ live past ∧ ∃ t ∈ tags, t ∈ r.tags := by
  rw [sharing, List.mem_filter, List.any_eq_true]
  simp only [decide_eq_true_eq]

/-- Neither order nor repetition of tags matters. -/
theorem sharing_congr {tags tags' : List String} (h : ∀ t, t ∈ tags ↔ t ∈ tags') :
    sharing past tags = sharing past tags' := by
  refine List.filter_congr fun r _ => ?_
  rw [Bool.eq_iff_iff, List.any_eq_true, List.any_eq_true]
  exact exists_congr fun t => and_congr_left' (h t)

end RegistryChange

namespace Registry

open RegistryChange

/-- A registry after some changes. -/
structure Tracks (r : Registry η) (past : List (RegistryChange η)) : Prop where
  subscriptions_eq : r.subscriptions = (live past).map Registration.subscription
  distinct : (past.filterMap added?).Pairwise (·.id ≠ ·.id)
  number_le : ∀ s, added s ∈ past → s.id.number ≤ r.issued

namespace Tracks

variable {r : Registry η} {past : List (RegistryChange η)}

theorem empty : Tracks ({} : Registry η) [] where
  subscriptions_eq := rfl
  distinct := .nil
  number_le := fun _ h => absurd h List.not_mem_nil

/-- A new subscription has a name that none has had. -/
theorem register (h : r.Tracks past) (tags : List String) (handler : η) :
    (r.register (.ofList tags) handler).2.Tracks
      (past ++ [added ⟨(r.register (.ofList tags) handler).1, tags, handler⟩]) := by
  refine ⟨?_, ?_, fun s hs => ?_⟩
  · rw [live_concat_added, List.map_append, ← h.subscriptions_eq]
    rfl
  · rw [List.filterMap_append, List.pairwise_append]
    refine ⟨h.distinct, List.pairwise_singleton _ _, fun s hs t ht hid => ?_⟩
    obtain rfl := List.mem_singleton.mp ht
    have hle := h.number_le s (mem_filterMap_added?.mp hs)
    rw [hid] at hle
    exact absurd hle (Nat.not_succ_le_self _)
  · rcases List.mem_append.mp hs with hs | hs
    · exact Nat.le_succ_of_le (h.number_le s hs)
    · cases List.mem_singleton.mp hs
      exact Nat.le_refl _

theorem unregister (h : r.Tracks past) (id : SubscriptionId) :
    (r.unregister id).2.Tracks (past ++ [removed id]) := by
  refine ⟨?_, ?_, fun s hs => ?_⟩
  · have hsubscriptions :
        (r.unregister id).2.subscriptions = r.subscriptions.filter (·.id ≠ id) := rfl
    rw [hsubscriptions, live_concat_removed, h.subscriptions_eq, List.filter_map]
    rfl
  · rw [List.filterMap_append]
    exact (List.append_nil _).symm ▸ h.distinct
  · rcases List.mem_append.mp hs with hs | hs
    · exact h.number_le s hs
    · cases List.mem_singleton.mp hs

/-- Whether a subscription is there. -/
theorem isLive_eq (h : r.Tracks past) (id : SubscriptionId) :
    r.isLive id = (live past).any (·.id = id) := by
  rw [isLive, h.subscriptions_eq, List.any_map]
  rfl

theorem isLive_iff (h : r.Tracks past) {id : SubscriptionId} :
    r.isLive id = true ↔ ∃ before s after,
      past = before ++ added s :: after ∧ s.id = id ∧ removed id ∉ after := by
  rw [h.isLive_eq, List.any_eq_true]
  constructor
  · rintro ⟨s, hs, hid⟩
    obtain rfl := of_decide_eq_true hid
    obtain ⟨before, after, hpast, hr⟩ := mem_live.mp hs
    exact ⟨before, s, after, hpast, rfl, hr⟩
  · rintro ⟨before, s, after, hpast, rfl, hr⟩
    exact ⟨s, mem_live.mpr ⟨before, after, hpast, hr⟩, decide_eq_true rfl⟩

/-- **A bounce is for the handlers left that share a tag with it**, oldest first. -/
theorem matching_eq (h : r.Tracks past) (tags : List String) :
    r.matching (.ofList tags) = (sharing past tags).map (·.handler) := by
  rw [matching, h.subscriptions_eq, List.filter_map, List.map_map]
  congr 1
  refine List.filter_congr fun s _ => ?_
  rw [Bool.eq_iff_iff, Function.comp_apply, NameSet.meets_iff, List.any_eq_true]
  simp only [Registration.subscription, NameSet.mem_ofList, decide_eq_true_eq]

end Tracks

end Registry

end Multiworld
