import Mathlib.Data.List.Basic
import Multiworld.Proofs.Hub.Payloads

/-!
# Every death is accounted for

A hub to which the death notices are attached once, and messages that come in. Every payload
of a death is logged once and, if it is a death, handed once to each handler of deaths;
nothing else is logged. Other listeners and handlers may be there, as long as they leave the
subscription of the death notices alone.

## Main definitions

* `Batch.deathPayloads`: the payloads of deaths in what comes in
* `Hub.Attached`: the death notices are attached once
* `Hub.Receives`: what payloads do to a hub
* `Hub.Accounts`: the same, entry by entry and call by call

## Main results

* `Hub.publish_receives`, `Hub.dispatch_receives`: what a packet and a message do
* `Hub.attached_ofWorld`, `Hub.Attached.register` and what goes with it: attached hubs
* `Hub.dispatchAll_accounts`: what messages in a row do
-/

namespace Multiworld

/-- The payloads of the deaths in a message, in order. -/
def Batch.deathPayloads (message : String) : List Payload :=
  match Batch.read message with
  | .ok batch => batch.packets.filterMap (·.deathPayload?)
  | .error _ => []

/-- A handler of the application that leaves a subscription alone. -/
def BounceHandler.Spares (id : SubscriptionId) : BounceHandler → Prop
  | .deaths => False
  | .app _ cancels => cancels ≠ some id

/-- The deaths that a handler was handed, in order. -/
def Report.noticesTo (name : String) (reports : List Report) : List DeathNotice :=
  reports.filterMap fun
    | .death handler notice => if handler = name then some notice else none
    | _ => none

namespace Hub

variable {h h' h'' : Hub} {id : SubscriptionId}

/-- The death notices are attached once, under the name `id`. -/
structure Attached (h : Hub) (id : SubscriptionId) : Prop where
  /-- One listener hands bounces on. -/
  listeners : ∃ before after, h.listeners = before ++ .bounces :: after ∧
    ∀ l ∈ before ++ after, l ≠ .bounces
  /-- No other one that does will join. -/
  joins : ∀ reports, ∀ l ∈ h.joins reports, l ≠ .bounces
  subscriptions : ∃ before after, h.registry.subscriptions =
      before ++ ⟨id, .ofList [DeathNotice.tag], .deaths⟩ :: after ∧
    ∀ s ∈ before ++ after, s.handler.Spares id

/-- The hub `h'` is what becomes of `h` when payloads of deaths come in. -/
structure Receives (id : SubscriptionId) (h : Hub) (payloads : List Payload) (h' : Hub) :
    Prop where
  attached : h'.Attached id
  scope : h'.scope = h.scope
  deathHandlers : h'.deathHandlers = h.deathHandlers
  audit : h'.audit = h.scope.logAll h.audit payloads
  deaths : h'.reports.filter (·.isDeath) =
    h.reports.filter (·.isDeath) ++ payloads.flatMap h.deathCalls

namespace Receives

theorem of_takes {payloads : List Payload} (ha : h'.Attached id) (ht : Takes h payloads h') :
    Receives id h payloads h' :=
  ⟨ha, ht.scope, ht.deathHandlers, ht.audit, ht.deaths⟩

theorem takes {payloads : List Payload} (hr : Receives id h payloads h') : Takes h payloads h' :=
  ⟨hr.scope, hr.deathHandlers, hr.audit, hr.deaths⟩

theorem refl (ha : h.Attached id) : Receives id h [] h := .of_takes ha (.refl h)

/-- What comes in later comes after what came in before. -/
theorem trans {ps qs : List Payload} (hp : Receives id h ps h') (hq : Receives id h' qs h'') :
    Receives id h (ps ++ qs) h'' :=
  .of_takes hq.attached (hp.takes.trans hq.takes)

/-- What comes in step by step comes in in a row. -/
theorem foldl {α : Type} {f : Hub → α → Hub} {payloads : α → List Payload} {xs : List α}
    (hstep : ∀ x ∈ xs, ∀ h : Hub, h.Attached id → Receives id h (payloads x) (f h x))
    (ha : h.Attached id) : Receives id h (xs.flatMap payloads) (xs.foldl f h) := by
  induction xs generalizing h with
  | nil => exact refl ha
  | cons x xs ih =>
    obtain ⟨hx, hxs⟩ := List.forall_mem_cons.mp hstep
    have hfirst := hx h ha
    rw [List.flatMap_cons]
    exact hfirst.trans (ih hxs hfirst.attached)

end Receives

/-! ## One packet -/

namespace Attached

/-- Death notices that are attached once hear of each bounce once. -/
theorem hears (ha : h.Attached id) : h.Hears where
  listeners := ha.listeners
  subscriptions := by
    obtain ⟨before, after, hsubs, hspare⟩ := ha.subscriptions
    refine ⟨before, after, id, hsubs, fun s hs hdeaths => ?_⟩
    have hspares := hspare s hs
    rw [hdeaths] at hspares
    exact hspares

/-- The death notices stay attached when another subscription is cancelled. -/
theorem unregister (ha : h.Attached id) {cancelled : SubscriptionId} (hne : cancelled ≠ id) :
    (h.unregister cancelled).2.Attached id := by
  obtain ⟨before, after, hsubs, hspare⟩ := ha.subscriptions
  refine ⟨ha.listeners, ha.joins, before.filter (·.id ≠ cancelled), after.filter (·.id ≠ cancelled), ?_,
    fun s hs => ?_⟩
  · have hfilter : (h.unregister cancelled).2.registry.subscriptions =
        h.registry.subscriptions.filter (·.id ≠ cancelled) := rfl
    have hself : decide (id ≠ cancelled) = true := decide_eq_true hne.symm
    rw [hfilter, hsubs, List.filter_append, List.filter_cons, hself, if_pos rfl]
  · rw [← List.filter_append] at hs
    exact hspare s (List.mem_filter.mp hs).1

/-- They stay attached whoever joins when the application is called. -/
theorem afterCalls (ha : h.Attached id) (audit : AuditLog) (calls : List Report) :
    (h.afterCalls h.registry audit calls).Attached id := by
  obtain ⟨before, after, hlisteners, hothers⟩ := ha.listeners
  refine ⟨⟨before, after ++ joined h.joins h.reports calls, ?_, fun l hl => ?_⟩, ha.joins,
    ha.subscriptions⟩
  · rw [Hub.afterCalls, hlisteners, List.append_assoc, List.cons_append]
  · rw [← List.append_assoc] at hl
    rcases List.mem_append.mp hl with hl | hl
    · exact hothers l hl
    · obtain ⟨reports, hl⟩ := exists_mem_joins_of_mem_joined hl
      exact ha.joins reports l hl

theorem call (ha : h.Attached id) (r : Report) : (h.call r).Attached id := by
  rw [call_eq]
  exact ha.afterCalls _ _

theorem handleBounce (ha : h.Attached id) (event : BounceEvent) {handler : BounceHandler}
    (hh : handler = .deaths ∨ handler.Spares id) : (handleBounce event h handler).Attached id := by
  rcases handler with _ | ⟨name, _ | cancelled⟩
  · rw [Hub.handleBounce, receiveDeath_eq]
    exact ha.afterCalls _ _
  · exact ha.call _
  · -- What the handler cancels is not the subscription of the death notices.
    have hspares : (some cancelled : Option SubscriptionId) ≠ some id := by
      rcases hh with hh | hh
      · cases hh
      · exact hh
    have hkept := ha.unregister fun hid => hspares (congrArg some hid)
    exact hkept.call _

/-- The handlers that a bounce is for are the death notices or leave them alone. -/
theorem spares_of_mem_matching (ha : h.Attached id) {tags : NameSet} {handler : BounceHandler}
    (hh : handler ∈ h.registry.matching tags) : handler = .deaths ∨ handler.Spares id := by
  obtain ⟨before, after, hsubs, hspare⟩ := ha.subscriptions
  obtain ⟨s, hs, rfl⟩ := List.mem_map.mp hh
  have hmem := (List.mem_filter.mp hs).1
  rw [hsubs, List.mem_append, List.mem_cons] at hmem
  rcases hmem with hs | rfl | hs
  · exact .inr (hspare s (List.mem_append_left _ hs))
  · exact .inl rfl
  · exact .inr (hspare s (List.mem_append_right _ hs))

theorem deliver (ha : h.Attached id) (event : BounceEvent) : (h.deliver event).2.Attached id :=
  List.foldlRecOn (motive := fun k : Hub => k.Attached id) _ _ ha fun _ hk _ hh =>
    hk.handleBounce event (ha.spares_of_mem_matching hh)

theorem handlePacket (ha : h.Attached id) (packet : Packet) (l : Listener) :
    (handlePacket packet h l).Attached id := by
  cases l with
  | bounces =>
    cases packet with
    | bounced body => exact ha.deliver _
    | _ => exact ha
  | lines =>
    cases packet with
    | print body =>
      rw [Hub.handlePacket, callAll_eq]
      exact ha.afterCalls _ _
    | _ => exact ha
  | app name => exact ha.call _

theorem publish (ha : h.Attached id) (packet : Packet) : (h.publish packet).Attached id :=
  List.foldlRecOn (motive := fun k : Hub => k.Attached id) _ _ ha fun _ hk l _ =>
    hk.handlePacket packet l

end Attached

/-- **A packet is taken for a death once** if it is one, whoever else sees it. -/
theorem publish_receives (packet : Packet) (ha : h.Attached id) :
    Receives id h packet.deathPayload?.toList (h.publish packet) :=
  .of_takes (ha.publish packet) (ha.hears.publish_takes packet)

/-! ## One message, and messages in a row -/

theorem publishAll_receives (packets : List Packet) (ha : h.Attached id) :
    Receives id h (packets.filterMap (·.deathPayload?)) (h.publishAll packets) := by
  rw [List.filterMap_eq_flatMap_toList]
  exact .foldl (fun packet _ h₀ ha₀ => publish_receives packet ha₀) ha

theorem dispatch_receives (message : String) (ha : h.Attached id) :
    Receives id h (Batch.deathPayloads message) (h.dispatch message).2 := by
  unfold dispatch Batch.deathPayloads
  cases Batch.read message with
  | error e => exact .refl ha
  | ok batch => exact publishAll_receives batch.packets ha

/-- Messages in a row. -/
def dispatchAll (h : Hub) (messages : List String) : Hub :=
  messages.foldl (fun h message => (h.dispatch message).2) h

theorem dispatchAll_receives (messages : List String) (ha : h.Attached id) :
    Receives id h (messages.flatMap Batch.deathPayloads) (h.dispatchAll messages) :=
  .foldl (fun message _ _ ha₀ => dispatch_receives message ha₀) ha

/-! ## The books -/

/-- The deaths among payloads. -/
def deathsAmong (payloads : List Payload) : List DeathNotice :=
  payloads.filterMap fun p => (DeathNotice.ofPayload p).toOption

/-- What a list has gained at its end. -/
def gained {α : Type} (before after : List α) : List α := after.drop before.length

/-- The hub `h'` accounts for payloads of deaths that came in since `h`. -/
structure Accounts (h : Hub) (payloads : List Payload) (h' : Hub) : Prop where
  /-- There is one entry for each payload. -/
  received : h'.audit.entries h.scope.receivedKey =
    h.audit.entries h.scope.receivedKey ++ payloads.map DeathScope.receivedEntry
  /-- There is one more for each that could not be read. -/
  failed : h'.audit.entries DeathScope.failedKey =
    h.audit.entries DeathScope.failedKey ++ payloads.filterMap h.scope.failedEntry?
  /-- Nothing else was logged. -/
  others : ∀ key, key ≠ h.scope.receivedKey → key ≠ DeathScope.failedKey →
    h'.audit.entries key = h.audit.entries key
  /-- Each death was handed to the handlers of deaths, one after the other. -/
  calls : h'.reports.filter (·.isDeath) = h.reports.filter (·.isDeath) ++
    (deathsAmong payloads).flatMap fun notice => h.deathHandlers.map (.death · notice)
  /-- So a handler was handed each death once for every time it is on the list. -/
  notices : ∀ name, Report.noticesTo name h'.reports = Report.noticesTo name h.reports ++
    (deathsAmong payloads).flatMap (List.replicate (h.deathHandlers.count name))
  /-- What came in was handed on or failed. -/
  balance : ∀ name, h.deathHandlers.count name = 1 →
    (gained (h.audit.entries h.scope.receivedKey) (h'.audit.entries h.scope.receivedKey)).length =
      (gained (Report.noticesTo name h.reports) (Report.noticesTo name h'.reports)).length +
      (gained (h.audit.entries DeathScope.failedKey)
        (h'.audit.entries DeathScope.failedKey)).length

@[simp] theorem gained_append {α : Type} (before more : List α) :
    gained before (before ++ more) = more := List.drop_left

/-- A payload leads to calls exactly if it is a death. -/
theorem flatMap_deathCalls (payloads : List Payload) :
    payloads.flatMap h.deathCalls =
      (deathsAmong payloads).flatMap fun notice => h.deathHandlers.map (.death · notice) := by
  induction payloads with
  | nil => rfl
  | cons p payloads ih =>
    rw [List.flatMap_cons, ih, deathsAmong, deathsAmong, List.filterMap_cons, deathCalls]
    cases DeathNotice.ofPayload p with
    | ok notice => rfl
    | error e => rfl

/-- Only handlers of deaths are handed deaths. -/
theorem noticesTo_filter (name : String) (reports : List Report) :
    Report.noticesTo name (reports.filter (·.isDeath)) = Report.noticesTo name reports := by
  rw [Report.noticesTo, Report.noticesTo, List.filterMap_filter]
  refine List.filterMap_congr fun r _ => ?_
  cases r <;> rfl

theorem noticesTo_handlers (name : String) (handlers : List String) (notice : DeathNotice) :
    Report.noticesTo name (handlers.map (.death · notice)) =
      List.replicate (handlers.count name) notice := by
  induction handlers with
  | nil => rfl
  | cons handler handlers ih =>
    rw [Report.noticesTo] at ih
    rw [Report.noticesTo, List.map_cons, List.filterMap_cons, ih, List.count_cons]
    by_cases hn : handler = name
    · simp [hn, List.replicate_succ]
    · simp [hn]

theorem noticesTo_calls (name : String) (handlers : List String) (notices : List DeathNotice) :
    Report.noticesTo name (notices.flatMap fun notice => handlers.map (.death · notice)) =
      notices.flatMap (List.replicate (handlers.count name)) := by
  rw [Report.noticesTo, List.filterMap_flatMap]
  refine List.flatMap_congr fun notice _ => ?_
  exact noticesTo_handlers name handlers notice

theorem Receives.accounts {payloads : List Payload} (hr : Receives id h payloads h') :
    Accounts h payloads h' := by
  have hreceived := h.scope.entries_logAll_received h.audit payloads
  have hfailed := h.scope.entries_logAll_failed h.audit payloads
  have hcalls := hr.deaths
  rw [flatMap_deathCalls] at hcalls
  rw [← hr.audit] at hreceived hfailed
  have hnotices (name : String) : Report.noticesTo name h'.reports =
      Report.noticesTo name h.reports ++
        (deathsAmong payloads).flatMap (List.replicate (h.deathHandlers.count name)) := by
    rw [← noticesTo_filter name h'.reports, hcalls, Report.noticesTo, List.filterMap_append,
      ← Report.noticesTo, ← Report.noticesTo, noticesTo_filter, noticesTo_calls]
  refine ⟨hreceived, hfailed, fun key hkey hkey' => ?_, hcalls, hnotices, fun name hname => ?_⟩
  · rw [hr.audit]
    exact h.scope.entries_logAll_other h.audit payloads hkey hkey'
  · rw [hreceived, hfailed, hnotices, hname, gained_append, gained_append, gained_append,
      List.length_map, h.scope.length_eq_add_failed payloads]
    congr 1
    exact congrArg List.length (List.flatMap_singleton' (deathsAmong payloads)).symm

/-! ## Attached hubs -/

theorem attached_ofWorld (world : World) (scope : Option String) :
    (ofWorld world scope).attach.2.Attached (ofWorld world scope).attach.1 where
  listeners := by
    refine ⟨[], [.lines], rfl, fun l hl => ?_⟩
    rw [List.mem_singleton.mp hl]
    nofun
  joins _ := List.forall_mem_nil _
  subscriptions := ⟨[], [], rfl, List.forall_mem_nil _⟩

theorem Attached.onDeath (ha : h.Attached id) (name : String) : (h.onDeath name).Attached id :=
  ⟨ha.listeners, ha.joins, ha.subscriptions⟩

/-- Other handlers may be subscribed, to the tag of deaths as well. -/
theorem Attached.register (ha : h.Attached id) (tags : List String) {handler : BounceHandler}
    (hh : handler.Spares id) : (h.register tags handler).2.Attached id := by
  obtain ⟨before, after, hsubs, hspare⟩ := ha.subscriptions
  refine ⟨ha.listeners, ha.joins, before, after ++ [⟨⟨h.registry.issued + 1⟩, .ofList tags, handler⟩], ?_,
    fun s hs => ?_⟩
  · have hadd : (h.register tags handler).2.registry.subscriptions =
        h.registry.subscriptions ++ [⟨⟨h.registry.issued + 1⟩, .ofList tags, handler⟩] := rfl
    rw [hadd, hsubs, List.append_assoc, List.cons_append]
  · rw [← List.append_assoc] at hs
    rcases List.mem_append.mp hs with hs | hs
    · exact hspare s hs
    · obtain rfl := List.mem_singleton.mp hs
      exact hh

theorem Attached.subscribe (ha : h.Attached id) {l : Listener} (hl : l ≠ .bounces) :
    (h.subscribe l).Attached id := by
  obtain ⟨before, after, hlisteners, hothers⟩ := ha.listeners
  refine ⟨⟨before, after ++ [l], ?_, fun l' hl' => ?_⟩, ha.joins, ha.subscriptions⟩
  · rw [Hub.subscribe, hlisteners, List.append_assoc, List.cons_append]
  · rw [← List.append_assoc] at hl'
    rcases List.mem_append.mp hl' with hl' | hl'
    · exact hothers l' hl'
    · obtain rfl := List.mem_singleton.mp hl'
      exact hl

/-- **Messages in a row are accounted for**: the payloads of their deaths are logged and
handed on, each once and in order, whatever else the messages hold. -/
theorem dispatchAll_accounts (ha : h.Attached id) (messages : List String) :
    Accounts h (messages.flatMap Batch.deathPayloads) (h.dispatchAll messages) :=
  (dispatchAll_receives messages ha).accounts

theorem dispatchAll_accounts_twoOfThree :
    ((ofWorld {} none).attach.2.onDeath "a").Attached ⟨1⟩ ∧
      ∃ payloads, payloads.length = 2 ∧
        Accounts ((ofWorld {} none).attach.2.onDeath "a") payloads
          (((ofWorld {} none).attach.2.onDeath "a").dispatchAll
            ["[\x7b\"cmd\":\"Bounced\",\"tags\":[\"DeathLink\",\"DeathLink\"]\x7d, 7]", "no list",
              "[\x7b\"cmd\":\"Bounced\",\"tags\":[\"Ring\",\"DeathLink\"]\x7d]",
              "[\x7b\"cmd\":\"Bounce\",\"tags\":[\"DeathLink\"]\x7d]"]) :=
  have ha := (attached_ofWorld {} none).onDeath "a"
  ⟨ha, _, rfl, dispatchAll_accounts ha _⟩

end Hub

end Multiworld
