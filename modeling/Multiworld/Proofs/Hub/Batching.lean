import Multiworld.Proofs.Hub
import Multiworld.Proofs.Packet.Batch

/-!
# How messages are cut into batches does not matter

What a hub does with a message is settled packet by packet: each is handed to every listener
before the next one is handed to any. So two messages may as well come as one, and an element
that is set aside might as well not be there. A text that is no list is refused, and nobody
is told of it.

## Main definitions

* `Hub.handings`: who is handed what, in order
* `Hub.Tells`: what a listener reports of a packet
* `Hub.HandsOn`: packets are handed on in order
* `Batch.recognized`: the packets among elements

## Main results

* `Hub.handlePacket_cases`: all that handing a packet to a listener can do
* `Hub.publishAll_eq_foldl`, `Hub.foldl_hand_tells`: packets handed on in a row
* `Hub.dispatch_append`, `Hub.dispatch_insert`, `Hub.dispatch_of_no_list`: messages that are
  joined, that hold more, and that are none
* `Hub.dispatch_batches`: messages cut and joined
-/

namespace Multiworld

/-- Whether a report is of a call for an event: of a handler of bounces, or of deaths. -/
def Report.IsFor (event : BounceEvent) : Report → Prop
  | .bounce _ event' _ => event' = event
  | .death _ notice => DeathNotice.ofPayload event.data = .ok notice
  | _ => False

namespace Hub

variable {h : Hub}

/-! ## One packet, one listener -/

/-- What a listener reports of a packet. -/
def Tells (h : Hub) (packet : Packet) : Listener → List Report → Prop
  | .app name, calls => calls = [.packet name packet]
  | .lines, calls =>
    match packet with
    | .print body => calls = h.lineHandlers.map (.line · (.ofPrint h.world body))
    | _ => calls = []
  | .bounces, calls =>
    match packet with
    | .bounced body => ∀ r ∈ calls, r.IsFor (.ofBody body)
    | _ => calls = []

/-- **All that handing a bounce to a handler can do.** -/
theorem handleBounce_cases (event : BounceEvent) (h : Hub) (handler : BounceHandler) :
    ∃ registry audit calls, handleBounce event h handler = h.afterCalls registry audit calls ∧
      ∀ r ∈ calls, r.IsFor event := by
  rcases handler with _ | ⟨name, _ | id⟩
  · refine ⟨_, _, _, receiveDeath_eq h event.data, ?_⟩
    intro r hr
    unfold deathCalls at hr
    cases hd : DeathNotice.ofPayload event.data with
    | error e =>
      rw [hd] at hr
      exact absurd hr List.not_mem_nil
    | ok notice =>
      rw [hd] at hr
      obtain ⟨name, -, rfl⟩ := List.mem_map.mp hr
      exact hd
  · refine ⟨_, _, _, call_eq h _, ?_⟩
    intro r hr
    rw [List.mem_singleton.mp hr]
    rfl
  · -- Only the registry may have changed before the handler is called.
    refine ⟨(h.unregister id).2.registry, h.audit, _, call_eq (h.unregister id).2 _, ?_⟩
    intro r hr
    rw [List.mem_singleton.mp hr]
    rfl

theorem foldl_handleBounce_cases (event : BounceEvent) (h : Hub)
    (handlers : List BounceHandler) :
    ∃ registry audit calls,
      handlers.foldl (handleBounce event) h = h.afterCalls registry audit calls ∧
        ∀ r ∈ calls, r.IsFor event := by
  induction handlers generalizing h with
  | nil => exact ⟨h.registry, h.audit, [], h.afterCalls_nil.symm, List.forall_mem_nil _⟩
  | cons handler handlers ih =>
    obtain ⟨registry, audit, calls, hfirst, hcalls⟩ := handleBounce_cases event h handler
    obtain ⟨registry', audit', calls', hrest, hcalls'⟩ := ih (handleBounce event h handler)
    refine ⟨registry', audit', calls ++ calls', ?_, List.forall_mem_append.mpr ⟨hcalls, hcalls'⟩⟩
    rw [List.foldl_cons, hrest, hfirst, afterCalls_afterCalls]

/-- **All that handing a packet to a listener can do**: subscriptions may be cancelled and
payloads logged, and there are calls at which others may join. -/
theorem handlePacket_cases (packet : Packet) (h : Hub) (l : Listener) :
    ∃ registry audit calls, handlePacket packet h l = h.afterCalls registry audit calls ∧
      h.Tells packet l calls := by
  cases l with
  | app name => exact ⟨_, _, _, call_eq h _, rfl⟩
  | lines =>
    cases packet with
    | print body => exact ⟨_, _, _, callAll_eq h _, rfl⟩
    | _ => exact ⟨_, _, [], h.afterCalls_nil.symm, rfl⟩
  | bounces =>
    cases packet with
    | bounced body => exact foldl_handleBounce_cases _ h _
    | _ => exact ⟨_, _, [], h.afterCalls_nil.symm, rfl⟩

/-! ## Packets in a row -/

/-- Who is handed what, in order: a packet goes to each of the listeners, and the next one to
them and to those that have joined meanwhile. -/
def handings (h : Hub) : List Packet → List (Packet × Listener)
  | [] => []
  | packet :: rest => h.listeners.map (packet, ·) ++ (h.publish packet).handings rest

/-- Hands a packet to a listener. -/
def hand (h : Hub) (x : Packet × Listener) : Hub := handlePacket x.1 h x.2

/-- Listeners may join, and none is ever taken off the list. -/
theorem listeners_prefix_foldl (packet : Packet) (listeners : List Listener) (h : Hub) :
    h.listeners <+: (listeners.foldl (handlePacket packet) h).listeners := by
  induction listeners generalizing h with
  | nil => exact List.prefix_refl _
  | cons l listeners ih =>
    obtain ⟨registry, audit, calls, hl, -⟩ := handlePacket_cases packet h l
    have hfirst : h.listeners <+: (handlePacket packet h l).listeners := by
      rw [hl]
      exact List.prefix_append _ _
    exact hfirst.trans (ih _)

theorem listeners_prefix_publish (h : Hub) (packet : Packet) :
    h.listeners <+: (h.publish packet).listeners :=
  listeners_prefix_foldl packet h.listeners h

theorem listeners_prefix_publishAll (h : Hub) (packets : List Packet) :
    h.listeners <+: (h.publishAll packets).listeners := by
  induction packets generalizing h with
  | nil => exact List.prefix_refl _
  | cons packet packets ih => exact (h.listeners_prefix_publish packet).trans (ih _)

/-- If no listener joins, every packet goes to the same listeners. -/
theorem handings_of_settled {h : Hub} {packets : List Packet}
    (hs : (h.publishAll packets).listeners = h.listeners) :
    h.handings packets = packets.flatMap fun p => h.listeners.map (p, ·) := by
  induction packets generalizing h with
  | nil => rfl
  | cons packet packets ih =>
    have hrest : (h.publishAll (packet :: packets)).listeners =
        ((h.publish packet).publishAll packets).listeners := rfl
    -- The listeners after the first packet are between those before it and those at the end.
    have hfirst : (h.publish packet).listeners = h.listeners := by
      have hlater := (h.publish packet).listeners_prefix_publishAll packets
      rw [← hrest, hs] at hlater
      exact hlater.eq_of_length_le (h.listeners_prefix_publish packet).length_le
    rw [handings, ih (by rw [← hrest, hs, hfirst]), hfirst, List.flatMap_cons]

/-- **Each packet is handed to every listener before the next one is handed to any.** -/
theorem publishAll_eq_foldl (h : Hub) (packets : List Packet) :
    h.publishAll packets = (h.handings packets).foldl hand h := by
  induction packets generalizing h with
  | nil => rfl
  | cons packet packets ih =>
    have hfirst : h.publish packet = (h.listeners.map (packet, ·)).foldl hand h := by
      rw [List.foldl_map]
      rfl
    rw [handings, List.foldl_append, ← hfirst, ← ih]
    rfl

/-- What is reported of packets handed on one by one is what each listener reports. -/
theorem foldl_hand_tells (h : Hub) (xs : List (Packet × Listener)) :
    ∃ calls, (xs.foldl hand h).reports = h.reports ++ calls.flatten ∧
      List.Forall₂ (fun x own => h.Tells x.1 x.2 own) xs calls := by
  induction xs generalizing h with
  | nil => exact ⟨[], (List.append_nil _).symm, .nil⟩
  | cons x xs ih =>
    obtain ⟨registry, audit, own, hx, htells⟩ := handlePacket_cases x.1 h x.2
    obtain ⟨calls, hreports, hcalls⟩ := ih (h.hand x)
    refine ⟨own :: calls, ?_, .cons htells ?_⟩
    · rw [List.foldl_cons, hreports, hand, hx, reports_afterCalls, List.flatten_cons,
        List.append_assoc]
    · -- What a listener reports depends on nothing that the first handing changes.
      rw [hand, hx] at hcalls
      exact hcalls

/-- Packets are handed on in order. -/
structure HandsOn (h : Hub) (packets : List Packet) (h' : Hub) : Prop where
  /-- Each is handed to every listener, in the order of their subscriptions, before the next. -/
  handed : h' = (h.handings packets).foldl hand h
  /-- So the calls come in this order, and each listener is called as it should be. -/
  told : ∃ calls, h'.reports = h.reports ++ calls.flatten ∧
    List.Forall₂ (fun x own => h.Tells x.1 x.2 own) (h.handings packets) calls
  /-- If nobody joins meanwhile, all packets go to the same listeners. -/
  settled : h'.listeners = h.listeners →
    h.handings packets = packets.flatMap fun p => h.listeners.map (p, ·)

theorem handsOn_publishAll (h : Hub) (packets : List Packet) :
    h.HandsOn packets (h.publishAll packets) := by
  have hall := publishAll_eq_foldl h packets
  refine ⟨hall, ?_, handings_of_settled⟩
  rw [hall]
  exact foldl_hand_tells h _

end Hub

/-! ## Elements -/

namespace Batch

/-- The packets among elements. -/
def recognized (js : List Json) : List Packet := js.filterMap fun j => (Packet.ofElement j).toOption

theorem packets_ofElements (index : Nat) (js : List Json) :
    (ofElements index js).packets = recognized js := by
  induction js generalizing index with
  | nil => rfl
  | cons j js ih =>
    rw [ofElements, recognized, List.filterMap_cons, ← recognized, ← ih (index + 1)]
    cases Packet.ofElement j with
    | ok p => rfl
    | error r => rfl

theorem recognized_append (js ks : List Json) :
    recognized (js ++ ks) = recognized js ++ recognized ks :=
  List.filterMap_append

theorem recognized_insert {j : Json} {r : SkipReason} (hj : Packet.ofElement j = .error r)
    (js ks : List Json) : recognized (js ++ j :: ks) = recognized (js ++ ks) := by
  rw [recognized_append, recognized_append, recognized, recognized, recognized,
    List.filterMap_cons_none (by rw [hj]; rfl)]

/-- **An element more that is set aside** is set aside, and those behind it have moved. -/
theorem ofElements_insert {j : Json} {r : SkipReason} (hj : Packet.ofElement j = .error r)
    (js ks : List Json) :
    ∃ earlier later, (∀ s ∈ earlier, s.index < js.length) ∧ (∀ s ∈ later, js.length ≤ s.index) ∧
      (ofElements 0 (js ++ ks)).skipped = earlier ++ later ∧
      (ofElements 0 (js ++ j :: ks)).skipped =
        earlier ++ ⟨js.length, r⟩ :: later.map (·.shift 1) := by
  refine ⟨(ofElements 0 js).skipped, (ofElements js.length ks).skipped, ?_, ?_, ?_, ?_⟩
  · intro s hs
    exact (holds_ofElements js).index_lt hs
  · intro s hs
    have hshift := ofElements_shift js.length 0 ks
    rw [Nat.add_zero] at hshift
    rw [hshift] at hs
    obtain ⟨t, -, rfl⟩ := List.mem_map.mp hs
    exact Nat.le_add_right js.length t.index
  · rw [ofElements_append, Nat.zero_add]
  · have hshift := ofElements_shift 1 js.length ks
    rw [Nat.add_comm] at hshift
    rw [ofElements_append, Nat.zero_add, ofElements, hj, hshift]

end Batch

namespace Hub

/-! ## Messages -/

theorem dispatch_of_list {message : String} {js : List Json}
    (hjs : Json.read message = .ok (.arr js)) (h : Hub) :
    h.dispatch message =
      (.ok (Batch.recognized js).length, h.publishAll (Batch.recognized js)) := by
  rw [dispatch, Batch.read_of_list hjs]
  dsimp only
  rw [Batch.packets_ofElements]

/-- **A message may as well come as two.** -/
theorem dispatch_append {first second both : String} {js ks : List Json}
    (hfirst : Json.read first = .ok (.arr js)) (hsecond : Json.read second = .ok (.arr ks))
    (hboth : Json.read both = .ok (.arr (js ++ ks))) (h : Hub) :
    ∃ m n, (h.dispatch first).1 = .ok m ∧ ((h.dispatch first).2.dispatch second).1 = .ok n ∧
      h.dispatch both = (.ok (m + n), ((h.dispatch first).2.dispatch second).2) := by
  refine ⟨(Batch.recognized js).length, (Batch.recognized ks).length, ?_, ?_, ?_⟩
  · rw [dispatch_of_list hfirst]
  · rw [dispatch_of_list hsecond]
  · rw [dispatch_of_list hboth, dispatch_of_list hfirst, dispatch_of_list hsecond,
      Batch.recognized_append, List.length_append, publishAll, List.foldl_append]
    rfl

/-- **A message that is no list is refused**, and changes nothing. -/
theorem dispatch_of_no_list {message : String}
    (hno : ∀ js, Json.read message ≠ .ok (.arr js)) (h : Hub) :
    ∃ e, h.dispatch message = (.error e, h) := by
  cases hread : Json.readSequence message with
  | ok js => exact absurd (Json.readSequence_eq_ok_iff.mp hread) (hno js)
  | error e =>
    refine ⟨e, ?_⟩
    rw [dispatch, Batch.read, hread]
    rfl

/-- **An element that is set aside changes nothing** but what is set aside. -/
theorem dispatch_insert {message more : String} {js ks : List Json} {j : Json} {r : SkipReason}
    (hmessage : Json.read message = .ok (.arr (js ++ ks)))
    (hmore : Json.read more = .ok (.arr (js ++ j :: ks))) (hj : Packet.ofElement j = .error r) :
    (∀ h : Hub, h.dispatch more = h.dispatch message) ∧
      ∃ packets earlier later, Batch.read message = .ok ⟨packets, earlier ++ later⟩ ∧
        Batch.read more = .ok ⟨packets, earlier ++ ⟨js.length, r⟩ :: later.map (·.shift 1)⟩ ∧
        (∀ s ∈ earlier, s.index < js.length) ∧ ∀ s ∈ later, js.length ≤ s.index := by
  constructor
  · intro h
    rw [dispatch_of_list hmore, dispatch_of_list hmessage, Batch.recognized_insert hj]
  · obtain ⟨earlier, later, hearlier, hlater, hskipped, hmoved⟩ := Batch.ofElements_insert hj js ks
    refine ⟨Batch.recognized (js ++ ks), earlier, later, ?_, ?_, hearlier, hlater⟩
    · rw [Batch.read_of_list hmessage, ← hskipped, ← Batch.packets_ofElements 0]
    · rw [Batch.read_of_list hmore, ← hmoved, ← Batch.recognized_insert hj,
        ← Batch.packets_ofElements 0]

/-- **How messages are cut does not matter to a hub.** Two lists may come as one, and what they
hold is handed on packet by packet; an element that is set aside might as well not be there;
and a text that is no list changes nothing. As in `Batch.read_elementwise`, a list is a text that
`Json.read` reads as one, so what it cannot read in one element is no element that is set aside. -/
theorem dispatch_batches (h : Hub) :
    (∀ first second both js ks, Json.read first = .ok (.arr js) →
      Json.read second = .ok (.arr ks) → Json.read both = .ok (.arr (js ++ ks)) →
      ∃ m n, (h.dispatch first).1 = .ok m ∧ ((h.dispatch first).2.dispatch second).1 = .ok n ∧
        h.dispatch both = (.ok (m + n), ((h.dispatch first).2.dispatch second).2)) ∧
    (∀ message js, Json.read message = .ok (.arr js) →
      (h.dispatch message).1 = .ok (Batch.recognized js).length ∧
        h.HandsOn (Batch.recognized js) (h.dispatch message).2) ∧
    (∀ message more js j r ks, Json.read message = .ok (.arr (js ++ ks)) →
      Json.read more = .ok (.arr (js ++ j :: ks)) → Packet.ofElement j = .error r →
      h.dispatch more = h.dispatch message ∧
        ∃ packets earlier later, Batch.read message = .ok ⟨packets, earlier ++ later⟩ ∧
          Batch.read more = .ok ⟨packets, earlier ++ ⟨js.length, r⟩ :: later.map (·.shift 1)⟩ ∧
          (∀ s ∈ earlier, s.index < js.length) ∧ ∀ s ∈ later, js.length ≤ s.index) ∧
    ∀ message, (∀ js, Json.read message ≠ .ok (.arr js)) →
      ∃ e, h.dispatch message = (.error e, h) := by
  refine ⟨?_, ?_, ?_, ?_⟩
  · intro first second both js ks hfirst hsecond hboth
    exact dispatch_append hfirst hsecond hboth h
  · intro message js hjs
    rw [dispatch_of_list hjs]
    exact ⟨rfl, handsOn_publishAll h _⟩
  · intro message more js j r ks hmessage hmore hj
    obtain ⟨hsame, hbatches⟩ := dispatch_insert hmessage hmore hj
    exact ⟨hsame h, hbatches⟩
  · intro message hno
    exact dispatch_of_no_list hno h

/-- Cutting off an element that is set aside, leaving it out, and its text alone. -/
theorem dispatch_batches_bounceThenNumber :
    ∃ h, h = (ofWorld {} none).attach.2 ∧
      (∃ m n, (h.dispatch "[\x7b\"cmd\":\"Bounced\",\"tags\":[\"DeathLink\"]\x7d]").1 = .ok m ∧
        ((h.dispatch "[\x7b\"cmd\":\"Bounced\",\"tags\":[\"DeathLink\"]\x7d]").2.dispatch
          "[7]").1 = .ok n ∧
        h.dispatch "[\x7b\"cmd\":\"Bounced\",\"tags\":[\"DeathLink\"]\x7d,7]" = (.ok (m + n),
          ((h.dispatch "[\x7b\"cmd\":\"Bounced\",\"tags\":[\"DeathLink\"]\x7d]").2.dispatch
            "[7]").2)) ∧
      h.dispatch "[\x7b\"cmd\":\"Bounced\",\"tags\":[\"DeathLink\"]\x7d,7]" =
        h.dispatch "[\x7b\"cmd\":\"Bounced\",\"tags\":[\"DeathLink\"]\x7d]" ∧
      ∃ e, h.dispatch "7" = (.error e, h) := by
  refine ⟨_, rfl, ?_, ?_, ?_⟩
  · exact (dispatch_batches _).1 _ _ _
      [.obj [("cmd", .str "Bounced"), ("tags", .arr [.str "DeathLink"])]]
      [.num (.int ⟨7, by decide, by decide⟩)] rfl rfl rfl
  · exact ((dispatch_batches _).2.2.1 _ _
      [.obj [("cmd", .str "Bounced"), ("tags", .arr [.str "DeathLink"])]]
      (.num (.int ⟨7, by decide, by decide⟩)) _ [] rfl rfl rfl).1
  · apply (dispatch_batches _).2.2.2
    intro js hjs
    have hseven : Json.read "7" = .ok (.num (.int ⟨7, by decide, by decide⟩)) := rfl
    rw [hseven] at hjs
    exact Json.noConfusion (Except.ok.inj hjs)

end Hub

end Multiworld
