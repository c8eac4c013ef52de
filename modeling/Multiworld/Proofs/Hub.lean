import Multiworld.Hub

/-!
# What handling does to a hub

The calls that a payload of a death leads to, and who is called for what.

## Main definitions

* `Report.isDeath`: whether a report is of a call for a death
* `Hub.deathCalls`: who is called for a payload of a death
* `Hub.joined`: the listeners that the application subscribes when it is called
* `Hub.afterCalls`: what calls make of a hub

## Main results

* `Hub.callAll_eq`: calls are reported, and listeners may join
* `Hub.receiveDeath_eq`: a payload is logged, and handed on if it is a death
* `Hub.handlePacket_bounces_of_ne`: only bounces are handed to handlers of bounces
-/

namespace Multiworld

/-- Whether a report is of a handler of deaths. -/
def Report.isDeath : Report → Bool
  | .death .. => true
  | _ => false

namespace Hub

variable {h : Hub}

/-- The listeners that the application subscribes at calls in a row, behind what was reported
before. -/
def joined (joins : List Report → List Listener) (past : List Report) :
    List Report → List Listener
  | [] => []
  | r :: rest => joins (past ++ [r]) ++ joined joins (past ++ [r]) rest

/-- What some calls make of a hub, where subscriptions may be cancelled and payloads logged. -/
def afterCalls (h : Hub) (registry : Registry BounceHandler) (audit : AuditLog)
    (calls : List Report) : Hub :=
  { h with
    registry := registry
    audit := audit
    reports := h.reports ++ calls
    listeners := h.listeners ++ joined h.joins h.reports calls }

theorem reports_afterCalls (h : Hub) (registry : Registry BounceHandler) (audit : AuditLog)
    (calls : List Report) : (h.afterCalls registry audit calls).reports = h.reports ++ calls := rfl

section Joining

variable {joins : List Report → List Listener} {past : List Report}

theorem joined_append (calls more : List Report) :
    joined joins past (calls ++ more) =
      joined joins past calls ++ joined joins (past ++ calls) more := by
  induction calls generalizing past with
  | nil =>
    rw [List.append_nil]
    rfl
  | cons r calls ih =>
    rw [List.cons_append, joined, joined, ih, List.append_assoc, List.append_assoc]
    rfl

/-- Whoever joins was subscribed at some call. -/
theorem exists_mem_joins_of_mem_joined {l : Listener} {calls : List Report}
    (h : l ∈ joined joins past calls) : ∃ reports, l ∈ joins reports := by
  induction calls generalizing past with
  | nil => cases h
  | cons r calls ih =>
    rcases List.mem_append.mp h with h | h
    · exact ⟨_, h⟩
    · exact ih h

end Joining

theorem afterCalls_nil (h : Hub) : h.afterCalls h.registry h.audit [] = h := by
  simp only [afterCalls, joined, List.append_nil]

/-- Calls behind others find what those have left. -/
theorem afterCalls_afterCalls (h : Hub) (registry registry' : Registry BounceHandler)
    (audit audit' : AuditLog) (calls more : List Report) :
    (h.afterCalls registry audit calls).afterCalls registry' audit' more =
      h.afterCalls registry' audit' (calls ++ more) := by
  simp only [afterCalls, joined_append, List.append_assoc]

theorem call_eq (h : Hub) (r : Report) : h.call r = h.afterCalls h.registry h.audit [r] := by
  simp only [call, report, afterCalls, joined, List.append_nil]

theorem callAll_eq (h : Hub) (calls : List Report) :
    h.callAll calls = h.afterCalls h.registry h.audit calls := by
  unfold callAll
  induction calls generalizing h with
  | nil => exact h.afterCalls_nil.symm
  | cons r calls ih =>
    rw [List.foldl_cons, ih, call_eq]
    exact afterCalls_afterCalls h _ _ _ _ [r] calls

/-- The calls for a payload: one of each handler of deaths, if it is a death. -/
def deathCalls (h : Hub) (data : Payload) : List Report :=
  match DeathNotice.ofPayload data with
  | .ok notice => h.deathHandlers.map (.death · notice)
  | .error _ => []

theorem receiveDeath_eq (h : Hub) (data : Payload) :
    h.receiveDeath data =
      h.afterCalls h.registry (h.scope.logReceived data h.audit) (h.deathCalls data) := by
  unfold receiveDeath deathCalls
  cases DeathNotice.ofPayload data with
  | ok notice => exact callAll_eq _ _
  | error e => simp only [afterCalls, joined, List.append_nil]

theorem filter_isDeath_deathCalls (data : Payload) :
    (h.deathCalls data).filter (·.isDeath) = h.deathCalls data := by
  unfold deathCalls
  split
  · refine List.filter_eq_self.mpr fun r hr => ?_
    obtain ⟨name, -, rfl⟩ := List.mem_map.mp hr
    rfl
  · rfl

/-- Packets that are no bounces come to nobody. -/
theorem handlePacket_bounces_of_ne {packet : Packet} (hp : ∀ body, packet ≠ .bounced body) :
    handlePacket packet h .bounces = h := by
  cases packet with
  | bounced body => exact absurd rfl (hp body)
  | _ => rfl

end Hub

end Multiworld
