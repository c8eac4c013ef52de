import Mathlib.Data.List.Chain
import Multiworld.Session

/-!
# Tags and what the server knows of them

Calls that ask for deaths, or for no more of them, come one after another, and each call
has its own fate. The server has been told of the tags by the last update that was
accepted, whether or not that update was ever written.

## Main definitions

* `Fate.answer`: what the sender says of a message
* `TagCall`, `Session.call`, `Session.after`: calls in a row
* `Session.accepted`: what was accepted in a row of calls, and from which call
* `Session.InStep`: what holds after a row of calls

## Main results

* `Session.call_cases`: all that a call can do
* `Session.exists_inStep`: the tags stay in step with the server
* `Session.tags_after`: the same, and what the next call does
-/

namespace Multiworld

/-- What the sender says of a message: it is refused, or accepted with a delivery. What is relayed
is written. -/
def Fate.answer : Fate → Except SendError Delivery
  | .refused e => .error e
  | .accepted d => .ok d
  | .relayed => .ok .written

/-- A call that asks for deaths or for no more of them, and the fate of what it sends. -/
structure TagCall where
  enables : Bool
  fate : Fate

namespace TagCall

/-- Whether a call finds the tags as it wants them. -/
def Idle (c : TagCall) (tags : List String) : Prop :=
  DeathNotice.tag ∈ tags ↔ c.enables = true

instance (c : TagCall) (tags : List String) : Decidable (c.Idle tags) :=
  inferInstanceAs (Decidable (_ ↔ _))

/-- The tags that a call wants. -/
def wanted (c : TagCall) (tags : List String) : List String :=
  if c.enables then tags ++ [DeathNotice.tag] else tags.filter (· ≠ DeathNotice.tag)

/-- How tags are reported to the server. -/
def update (tags : List String) : Report := .sent (Batch.write [.connectUpdate { tags }])

variable {c : TagCall} {tags : List String}

theorem mem_wanted : DeathNotice.tag ∈ c.wanted tags ↔ c.enables = true := by
  unfold wanted
  cases c.enables <;> simp

theorem wanted_ne (h : ¬ c.Idle tags) : tags ≠ c.wanted tags := by
  intro he
  refine h ?_
  rw [Idle, he]
  exact mem_wanted

/-- Other tags stay as they are. -/
theorem filter_wanted :
    (c.wanted tags).filter (· ≠ DeathNotice.tag) = tags.filter (· ≠ DeathNotice.tag) := by
  unfold wanted
  cases c.enables <;> simp

theorem count_wanted_le (h : ¬ c.Idle tags) : (c.wanted tags).count DeathNotice.tag ≤ 1 := by
  unfold Idle at h
  unfold wanted
  -- The tag is added only where there is none, and all of them are taken away.
  cases hc : c.enables with
  | true =>
    rw [hc] at h
    have hmem : DeathNotice.tag ∉ tags := fun hm => h (iff_of_true hm rfl)
    rw [if_pos rfl, List.count_append, List.count_eq_zero_of_not_mem hmem, List.count_singleton_self]
  | false =>
    have hmem : DeathNotice.tag ∉ tags.filter (· ≠ DeathNotice.tag) := by simp
    rw [if_neg Bool.false_ne_true, List.count_eq_zero_of_not_mem hmem]
    exact Nat.zero_le 1

end TagCall

namespace Session

open TagCall

/-! ## One call -/

/-- A call to a session. -/
def call (s : Session) (c : TagCall) : Except SendError Bool × Session :=
  if c.enables then ({ s with fate := c.fate } : Session).enableDeaths
  else ({ s with fate := c.fate } : Session).disableDeaths

/-- A call tells the server of the tags it wants, unless they are as it wants them. -/
theorem call_eq (s : Session) (c : TagCall) :
    s.call c = ({ s with fate := c.fate } : Session).changeTags
      (if c.Idle s.hub.tags then none else some (c.wanted s.hub.tags)) := by
  obtain ⟨enables, fate⟩ := c
  by_cases h : DeathNotice.tag ∈ s.hub.tags
  · cases enables <;>
      simp [call, enableDeaths, disableDeaths, Hub.tagsWithDeath?, Hub.tagsWithoutDeath?, Idle,
        wanted, h]
  · cases enables <;>
      simp [call, enableDeaths, disableDeaths, Hub.tagsWithDeath?, Hub.tagsWithoutDeath?, Idle,
        wanted, h]

/-- An update whose packet is accepted replaces the tags at once. -/
theorem changeTags_some (s : Session) (tags : List String) :
    (∃ e, s.fate.answer = .error e ∧ s.changeTags (some tags) = (.error e, s)) ∨
      ∃ d, s.fate.answer = .ok d ∧ s.changeTags (some tags) =
        (d.wait.map fun _ => true,
          { s with hub := (s.hub.report (update tags)).setTags tags }) := by
  obtain ⟨hub, fate⟩ := s
  -- Nothing bounces back for an update, so relaying it is writing it.
  cases fate with
  | refused e => exact .inl ⟨e, rfl, rfl⟩
  | accepted d => exact .inr ⟨d, rfl, rfl⟩
  | relayed => exact .inr ⟨.written, rfl, rfl⟩

/-- **All that a call can do**: it is idle, or its update is refused, or its update is
accepted and the tags are replaced. -/
theorem call_cases (s : Session) (c : TagCall) :
    (c.Idle s.hub.tags ∧ s.call c = (.ok false, ⟨s.hub, c.fate⟩)) ∨
      (¬ c.Idle s.hub.tags ∧ ∃ e, c.fate.answer = .error e ∧
        s.call c = (.error e, ⟨s.hub, c.fate⟩)) ∨
      (¬ c.Idle s.hub.tags ∧ ∃ d, c.fate.answer = .ok d ∧
        s.call c = (d.wait.map fun _ => true,
          ⟨(s.hub.report (update (c.wanted s.hub.tags))).setTags (c.wanted s.hub.tags), c.fate⟩)) := by
  rw [call_eq]
  by_cases h : c.Idle s.hub.tags
  · rw [if_pos h]
    exact .inl ⟨h, rfl⟩
  · rw [if_neg h]
    rcases changeTags_some ⟨s.hub, c.fate⟩ (c.wanted s.hub.tags) with ⟨e, he, hcall⟩ | ⟨d, hd, hcall⟩
    · exact .inr (.inl ⟨h, e, he, hcall⟩)
    · exact .inr (.inr ⟨h, d, hd, hcall⟩)

/-! ## Calls in a row -/

/-- The session after calls in a row. -/
def after (s : Session) (calls : List TagCall) : Session :=
  calls.foldl (fun s c => (s.call c).2) s

/-- What was accepted in a row of calls, each message with the call that sent it. -/
def accepted (s : Session) : List TagCall → List (TagCall × Report)
  | [] => []
  | c :: rest =>
    ((s.call c).2.hub.reports.drop s.hub.reports.length).map (c, ·) ++ (s.call c).2.accepted rest

theorem after_concat (s : Session) (calls : List TagCall) (c : TagCall) :
    s.after (calls ++ [c]) = ((s.after calls).call c).2 :=
  List.foldl_concat _ _ _ _

theorem accepted_concat (s : Session) (calls : List TagCall) (c : TagCall) :
    s.accepted (calls ++ [c]) = s.accepted calls ++
      (((s.after calls).call c).2.hub.reports.drop (s.after calls).hub.reports.length).map (c, ·) := by
  induction calls generalizing s with
  | nil => exact List.append_nil _
  | cons d calls ih =>
    rw [List.cons_append, accepted, accepted, ih, List.append_assoc]
    rfl

/-- What holds after a row of calls, in which the server was told of some lists of tags. -/
structure InStep (s : Session) (calls : List TagCall) (updates : List (List String)) :
    Prop where
  /-- The updates are all that was accepted. -/
  accepted_eq : (s.accepted calls).map (·.2) = updates.map update
  /-- The tags are those of the last update. -/
  tags_eq : (s.after calls).hub.tags = updates.getLast?.getD s.hub.tags
  /-- Other tags are as they were. -/
  others_eq : (s.after calls).hub.tags.filter (· ≠ DeathNotice.tag) =
    s.hub.tags.filter (· ≠ DeathNotice.tag)
  /-- The tag of deaths is there once at most, unless it was there more often and stayed. -/
  count_le : (s.after calls).hub.tags.count DeathNotice.tag ≤ 1 ∨
    1 < s.hub.tags.count DeathNotice.tag ∧ ∀ a ∈ s.accepted calls, a.1.enables = true
  /-- Every update changes the list. -/
  differ : (s.hub.tags :: updates).IsChain (· ≠ ·)

theorem inStep_nil (s : Session) : InStep s [] [] where
  accepted_eq := rfl
  tags_eq := rfl
  others_eq := rfl
  count_le := (Nat.lt_or_ge 1 _).symm.imp_right fun h => ⟨h, List.forall_mem_nil _⟩
  differ := .singleton _

namespace InStep

variable {s : Session} {calls : List TagCall} {updates : List (List String)}

/-- A call that leaves the hub alone leaves everything in step. -/
theorem concat_same (h : InStep s calls updates) {c : TagCall}
    (hsame : ((s.after calls).call c).2.hub = (s.after calls).hub) :
    InStep s (calls ++ [c]) updates := by
  have haccepted : s.accepted (calls ++ [c]) = s.accepted calls := by
    rw [accepted_concat, hsame, List.drop_length, List.map_nil, List.append_nil]
  have hhub : (s.after (calls ++ [c])).hub = (s.after calls).hub := by
    rw [after_concat, hsame]
  refine ⟨?_, ?_, ?_, ?_, h.differ⟩
  · rw [haccepted, h.accepted_eq]
  · rw [hhub, h.tags_eq]
  · rw [hhub, h.others_eq]
  · rw [hhub, haccepted]
    exact h.count_le

/-- An update that is accepted leaves everything in step. -/
theorem concat_update (h : InStep s calls updates) {c : TagCall}
    (hidle : ¬ c.Idle (s.after calls).hub.tags)
    (hhub : ((s.after calls).call c).2.hub =
      ((s.after calls).hub.report (update (c.wanted (s.after calls).hub.tags))).setTags
        (c.wanted (s.after calls).hub.tags)) :
    InStep s (calls ++ [c]) (updates ++ [c.wanted (s.after calls).hub.tags]) := by
  have htags : (s.after (calls ++ [c])).hub.tags = c.wanted (s.after calls).hub.tags := by
    rw [after_concat, hhub]
    rfl
  -- The one new report is that of the update.
  have haccepted : s.accepted (calls ++ [c]) =
      s.accepted calls ++ [(c, update (c.wanted (s.after calls).hub.tags))] := by
    rw [accepted_concat, hhub]
    simp [Hub.setTags, Hub.report]
  refine ⟨?_, ?_, ?_, ?_, ?_⟩
  · rw [haccepted, List.map_append, List.map_append, h.accepted_eq]
    rfl
  · rw [htags, List.getLast?_concat, Option.getD_some]
  · rw [htags, filter_wanted, h.others_eq]
  · rw [htags]
    exact .inl (count_wanted_le hidle)
  · -- The last list told, or the first one, is the one that the update changes.
    rw [← List.cons_append, List.isChain_append]
    refine ⟨h.differ, .singleton _, ?_⟩
    rw [List.getLast?_cons, ← h.tags_eq]
    rintro _ ⟨⟩ _ ⟨⟩
    exact wanted_ne hidle

end InStep

/-- **The tags stay in step with the server**, whatever becomes of the updates. -/
theorem exists_inStep (s : Session) (calls : List TagCall) :
    ∃ updates, InStep s calls updates := by
  -- Only a call whose update is accepted adds to the updates.
  induction calls using List.reverseRecOn with
  | nil => exact ⟨[], inStep_nil s⟩
  | append_singleton calls c ih =>
    obtain ⟨updates, h⟩ := ih
    rcases (s.after calls).call_cases c with ⟨-, hcall⟩ | ⟨-, e, -, hcall⟩ | ⟨hidle, d, -, hcall⟩
    · exact ⟨updates, h.concat_same (by rw [hcall])⟩
    · exact ⟨updates, h.concat_same (by rw [hcall])⟩
    · exact ⟨_, h.concat_update hidle (by rw [hcall])⟩

theorem map_true_ne_false (r : Except SendError Unit) : (r.map fun _ => true) ≠ .ok false := by
  cases r <;> nofun

/-- **After any row of calls**, the tags are in step with the server. The next call gives
`false` exactly if it finds the tags as it wants them, and then it sends nothing. If its update is
refused, it gives the error and changes nothing. If its update is accepted, the server is told of
the tags that it wants, these replace the list, and it gives what became of the update. -/
theorem tags_after (s : Session) (calls : List TagCall) :
    (∃ updates, InStep s calls updates) ∧
    ∀ c : TagCall,
      (((s.after calls).call c).1 = .ok false ↔ c.Idle (s.after calls).hub.tags) ∧
      (((s.after calls).call c).1 = .ok false →
        ((s.after calls).call c).2.hub = (s.after calls).hub) ∧
      (∀ e, c.fate = .refused e → ¬ c.Idle (s.after calls).hub.tags →
        ((s.after calls).call c).1 = .error e ∧
          ((s.after calls).call c).2.hub = (s.after calls).hub) ∧
      (∀ d, c.fate.answer = .ok d → ¬ c.Idle (s.after calls).hub.tags →
        ((s.after calls).call c).1 = (d.wait.map fun _ => true) ∧
          ((s.after calls).call c).2.hub =
            ((s.after calls).hub.report (update (c.wanted (s.after calls).hub.tags))).setTags
              (c.wanted (s.after calls).hub.tags)) := by
  refine ⟨s.exists_inStep calls, fun c => ?_⟩
  rcases (s.after calls).call_cases c with
    ⟨hidle, hcall⟩ | ⟨hidle, e, he, hcall⟩ | ⟨hidle, d, hd, hcall⟩
  · rw [hcall]
    exact ⟨iff_of_true rfl hidle, fun _ => rfl, fun _ _ h => absurd hidle h,
      fun _ _ h => absurd hidle h⟩
  · rw [hcall]
    refine ⟨iff_of_false nofun hidle, nofun, fun e' he' _ => ?_, fun d' hd' _ => ?_⟩
    · rw [he'] at he
      obtain rfl := Except.error.inj he
      exact ⟨rfl, rfl⟩
    · cases he.symm.trans hd'
  · rw [hcall]
    refine ⟨iff_of_false (map_true_ne_false _) hidle, fun h => ?_, fun e' he' _ => ?_,
      fun d' hd' _ => ?_⟩
    · exact absurd h (map_true_ne_false _)
    · rw [he'] at hd
      cases hd
    · obtain rfl := Except.ok.inj (hd.symm.trans hd')
      exact ⟨rfl, rfl⟩

end Session

end Multiworld
