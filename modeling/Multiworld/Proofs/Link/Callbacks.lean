import Multiworld.Link.Bridge

/-!
# What a host is told

Events are handed to a host one after another. It is called for each of them if it registered
a callback, in order, and for an error once for each single error in it, from left to right,
however they are nested. Only openings and closings change the state.

A call is known by its *place*: the number of its event, and then the numbers of the errors to
go into, outermost first. The order of the calls is that of their places.

## Main definitions

* `Lists`: values listed in the order of their places
* `LinkError.leafAt?`: the single error at a place
* `Callbacks.callAt?`: the call at a place of some events
* `CallbackBridge.Relays`: a host is told of events

## Main results

* `Lists.flatMap`: lists one behind another
* `LinkError.lists_leaves`: the leaves are all single errors, from left to right
* `CallbackBridge.handleAll_relays`: a host is told of all events
-/

namespace Multiworld

/-! ## Places -/

section Places

variable {α β : Type}

/-- The values are those at the places that have one, each once, in the order of the places. -/
def Lists (value? : List Nat → Option β) (values : List β) : Prop :=
  ∃ places : List (List Nat), places.Pairwise (· < ·) ∧
    (∀ place, place ∈ places ↔ (value? place).isSome) ∧ places.map value? = values.map some

/-- The value at a place of several things: the first number tells the thing. -/
def within (value? : α → List Nat → Option β) (xs : List α) : List Nat → Option β
  | [] => none
  | i :: place => xs[i]?.bind (value? · place)

variable {value? : List Nat → Option β}

theorem Lists.of_none (h : ∀ place, value? place = none) : Lists value? [] :=
  ⟨[], List.Pairwise.nil, fun place => by simp [h], rfl⟩

/-- One value, at the top. -/
theorem Lists.singleton {v : β} (htop : value? [] = some v)
    (h : ∀ i place, value? (i :: place) = none) : Lists value? [v] := by
  refine ⟨[[]], List.pairwise_singleton _ _, fun place => ?_, by simp [htop]⟩
  cases place with
  | nil => simp [htop]
  | cons i place => simp [h]

/-- One value at the top, if it is there. -/
theorem Lists.ite {v : β} {there : Bool} (htop : value? [] = if there then some v else none)
    (h : ∀ i place, value? (i :: place) = none) : Lists value? (if there then [v] else []) := by
  cases there with
  | false =>
    refine .of_none fun place => ?_
    cases place with
    | nil => exact htop
    | cons i place => exact h i place
  | true => exact .singleton htop h

theorem Lists.map {γ : Type} {values : List β} (f : β → γ) (h : Lists value? values) :
    Lists (fun place => (value? place).map f) (values.map f) := by
  obtain ⟨places, hplaces, hmem, hvalues⟩ := h
  refine ⟨places, hplaces, fun place => ?_, ?_⟩
  · rw [hmem, Option.isSome_map]
  · have hmap := congrArg (List.map (Option.map f)) hvalues
    rw [List.map_map, List.map_map] at hmap
    rw [List.map_map]
    exact hmap

/-- The place among things one of which comes in front. -/
def behind : List Nat → List Nat
  | [] => []
  | i :: place => (i + 1) :: place

theorem behind_lt_behind : ∀ {p q : List Nat}, p < q → behind p < behind q
  | [], [], h => absurd h (List.lt_irrefl [])
  | [], _ :: _, _ => List.nil_lt_cons _ _
  | _ :: _, [], h => absurd h (List.not_lt_nil _)
  | i :: p, j :: q, h => by
    simpa [behind, List.cons_lt_cons_iff] using h

theorem behind_eq_nil {p : List Nat} : behind p = [] ↔ p = [] := by
  cases p <;> simp [behind]

theorem behind_eq_cons {p q : List Nat} {i : Nat} :
    behind p = i :: q ↔ ∃ j, i = j + 1 ∧ p = j :: q := by
  cases p with
  | nil => simp [behind]
  | cons j p =>
    constructor
    · intro h
      obtain ⟨rfl, rfl⟩ := List.cons.inj h
      exact ⟨j, rfl, rfl⟩
    · rintro ⟨_, rfl, h⟩
      obtain ⟨rfl, rfl⟩ := List.cons.inj h
      rfl

theorem within_behind (value? : α → List Nat → Option β) (x : α) (xs : List α)
    (place : List Nat) : within value? (x :: xs) (behind place) = within value? xs place := by
  cases place <;> rfl

/-- **Lists one behind another** list the values of all. -/
theorem Lists.flatMap {value? : α → List Nat → Option β} {values : α → List β} :
    ∀ xs : List α, (∀ x ∈ xs, Lists (value? x) (values x)) →
      Lists (within value? xs) (xs.flatMap values)
  | [], _ => .of_none fun place => by cases place <;> rfl
  | x :: xs, h => by
    obtain ⟨first, hfirst, hmem, hvalues⟩ := h x List.mem_cons_self
    obtain ⟨rest, hrest, hmem', hvalues'⟩ :=
      Lists.flatMap xs fun y hy => h y (List.mem_cons_of_mem x hy)
    -- No place among several things is the top.
    have htop : [] ∉ rest := fun htop => Bool.false_ne_true ((hmem' []).mp htop)
    refine ⟨first.map (0 :: ·) ++ rest.map behind, ?_, fun place => ?_, ?_⟩
    · refine List.pairwise_append.mpr ⟨?_, ?_, ?_⟩
      · exact List.pairwise_map.mpr
          (hfirst.imp fun hlt => List.cons_lt_cons_iff.mpr (.inr ⟨rfl, hlt⟩))
      · exact List.pairwise_map.mpr (hrest.imp behind_lt_behind)
      · intro _ hp _ hq
        obtain ⟨p, -, rfl⟩ := List.mem_map.mp hp
        obtain ⟨q, hq', rfl⟩ := List.mem_map.mp hq
        cases q with
        | nil => exact absurd hq' htop
        | cons i q => exact List.cons_lt_cons_iff.mpr (.inl (Nat.succ_pos i))
    · rw [List.mem_append, List.mem_map, List.mem_map]
      match place with
      | [] => simp [within, behind_eq_nil, htop]
      | 0 :: place => simp [within, behind_eq_cons, hmem]
      | (i + 1) :: place =>
        have hplace : (within value? (x :: xs) ((i + 1) :: place)).isSome ↔ i :: place ∈ rest :=
          (hmem' (i :: place)).symm
        simp [behind_eq_cons, hplace]
    · rw [List.map_append, List.map_map, List.map_map, List.flatMap_cons, List.map_append,
        ← hvalues, ← hvalues']
      congr 1
      exact List.map_congr_left fun place _ => within_behind value? x xs place

end Places

/-! ## Single errors -/

namespace LinkError

/-- The single error at a place in an error; several errors at once are none. -/
def leafAt? : LinkError → List Nat → Option LinkError
  | .aggregate _, [] => none
  | .aggregate errors, i :: place => errors[i]?.bind (leafAt? · place)
  | e, [] => some e
  | _, _ :: _ => none

theorem leavesOf_eq_flatMap (errors : List LinkError) : leavesOf errors = errors.flatMap leaves := by
  induction errors with
  | nil => rfl
  | cons e errors ih => rw [leavesOf, ih, List.flatMap_cons]

theorem leafAt?_aggregate (errors : List LinkError) :
    (aggregate errors).leafAt? = within leafAt? errors := by
  funext place
  cases place <;> rfl

/-- **The leaves of an error are all single errors in it**, from left to right. -/
theorem lists_leaves : ∀ e : LinkError, Lists e.leafAt? e.leaves
  | .connectionClosed _ | .connectFailed _ | .sendFailed _ | .receiveFailed _ | .invalidUtf8 _
  | .messageTooLarge _ _ | .invalidSettings _ => .singleton rfl fun _ _ => rfl
  | .aggregate errors => by
    rw [leafAt?_aggregate, leaves, leavesOf_eq_flatMap]
    exact Lists.flatMap errors fun e _ => lists_leaves e

end LinkError

/-! ## Calls -/

/-- The call at a place of an event, if a callback is registered for it. Only an error has
places inside. -/
def Callbacks.callAt? (c : Callbacks) : LinkEvent → List Nat → Option HostCall
  | .opened, [] => if c.onOpen then some .opened else none
  | .closed, [] => if c.onClose then some .closed else none
  | .message text, [] => if c.onMessage then some (.message text) else none
  | .error e, place =>
    if c.onError then (e.leafAt? place).map fun leaf => .error ⟨leaf.message, leaf.report.stack⟩
    else none
  | _, _ :: _ => none

/-- Whether an event opens or closes the connection. -/
def LinkEvent.isTurn : LinkEvent → Bool
  | .opened | .closed => true
  | .message _ | .error _ => false

namespace CallbackBridge

variable {c : Callbacks} {b : CallbackBridge}

/-- **The calls for an event** are those at its places. -/
theorem lists_calls (c : Callbacks) (event : LinkEvent) :
    Lists (c.callAt? event) (calls c event) := by
  cases event with
  | opened => exact .ite rfl fun _ _ => rfl
  | closed => exact .ite rfl fun _ _ => rfl
  | message text => exact .ite rfl fun _ _ => rfl
  | error e =>
    cases honError : c.onError with
    | false =>
      have hcalls : calls c (.error e) = [] := by simp [calls, honError]
      rw [hcalls]
      exact .of_none fun place => by simp [Callbacks.callAt?, honError]
    | true =>
      have hcalls : calls c (.error e) = e.leaves.map (.error ·.report) := by simp [calls, honError]
      have hplaces : c.callAt? (.error e) = fun place => (e.leafAt? place).map (.error ·.report) := by
        funext place
        simp only [Callbacks.callAt?, honError, if_true]
        rfl
      rw [hcalls, hplaces]
      exact e.lists_leaves.map _

/-! ## Runs -/

/-- A host is told of events by some calls, and the state that they imply is remembered. -/
structure Relays (c : Callbacks) (events : List LinkEvent) (told : List HostCall)
    (state : LinkState) : Prop where
  /-- There is a call for every event with a callback, and for every single error of one. -/
  told_lists : Lists (within c.callAt? events) told
  /-- The last opening or closing counts. -/
  state_open : ∀ before after, events = before ++ .opened :: after →
    (∀ event ∈ after, event.isTurn = false) → state = .open
  state_closed : ∀ before after, events = before ++ .closed :: after →
    (∀ event ∈ after, event.isTurn = false) → state = .closed
  state_disconnected : (∀ event ∈ events, event.isTurn = false) → state = .disconnected

theorem handle_state_of_not_isTurn {event : LinkEvent} (h : event.isTurn = false) :
    (b.handle event).2.state = b.state := by
  cases event with
  | message text => rfl
  | error e => rfl
  | opened => cases h
  | closed => cases h

/-- Events that neither open nor close leave the state. -/
theorem handleAll_state_of_not_isTurn {events : List LinkEvent}
    (h : ∀ event ∈ events, event.isTurn = false) : (b.handleAll events).2.state = b.state := by
  induction events generalizing b with
  | nil => rfl
  | cons event events ih =>
    obtain ⟨hevent, hrest⟩ := List.forall_mem_cons.mp h
    exact (ih hrest).trans (handle_state_of_not_isTurn hevent)

/-- The calls for events are those for each of them, in order. -/
theorem handleAll_calls (b : CallbackBridge) (events : List LinkEvent) :
    (b.handleAll events).1 = events.flatMap (calls b.callbacks) := by
  induction events generalizing b with
  | nil => rfl
  | cons event events ih => exact congrArg (calls b.callbacks event ++ ·) (ih _)

/-- **A host is told of all events**, in order, once for each single error, and the state is
that of the last opening or closing. -/
theorem handleAll_relays (c : Callbacks) (events : List LinkEvent) :
    Relays c events (handleAll { callbacks := c } events).1
      (handleAll { callbacks := c } events).2.state := by
  have hlast (before after : List LinkEvent) (turn : LinkEvent)
      (hafter : ∀ event ∈ after, event.isTurn = false) (b : CallbackBridge) :
      (b.handleAll (before ++ turn :: after)).2.state =
        stateAfter (b.handleAll before).2.state turn := by
    rw [handleAll_append]
    exact handleAll_state_of_not_isTurn hafter
  refine ⟨?_, ?_, ?_, ?_⟩
  · rw [handleAll_calls]
    exact Lists.flatMap events fun event _ => lists_calls c event
  · rintro before after rfl hafter
    exact hlast before after .opened hafter _
  · rintro before after rfl hafter
    exact hlast before after .closed hafter _
  · intro hnone
    exact handleAll_state_of_not_isTurn hnone

end CallbackBridge

end Multiworld
