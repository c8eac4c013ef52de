import Multiworld.Proofs.DeathNotice.RoundTrip
import Multiworld.Proofs.DeathNotice.Seconds
import Multiworld.Proofs.Hub.Payloads
import Multiworld.Proofs.Packet.RoundTrip
import Multiworld.Proofs.Session.Deaths

/-!
# Deaths that come back

A server relays a death to everyone linked, the sender included. What the sender wrote is read
as one bounce; when the server sends that bounce back, each handler of deaths is called once,
with the death that was sent, and the logs of what went out and of what came in have gained the
same payload. That holds of every death whose payload is read as itself.

## Main definitions

* `Hub.Echoes`: what sending a death and getting it back does

## Main results

* `DeathNotice.fields_payload`: the fields of a death, in order
* `Batch.read_write_tagged`: a bounce with one tag reads back, before it is relayed and after
* `Session.death_comes_back`: a death that was written comes back once
-/

namespace Multiworld

open Json

/-! ## On the wire -/

namespace DeathNotice

/-- The fields of a death, in order. -/
theorem fields_payload (d : DeathNotice) :
    d.payload.fields = (d.cause.map fun cause => ("cause", Json.str cause)).toList ++
      [("source", .str d.source), ("time", .num (.float (seconds d.instant)))] := by
  obtain ⟨instant, source, cause⟩ := d
  cases cause with
  | none => rfl
  | some cause => rfl

theorem depth_payload (d : DeathNotice) : d.payload.toJson.depth = 1 := by
  rw [Payload.toJson, fields_payload]
  cases d.cause <;> rfl

/-- The only float of a death is its time. -/
theorem floats_payload (d : DeathNotice) :
    d.payload.toJson.floats = [seconds d.instant] := by
  rw [Payload.toJson, fields_payload]
  cases d.cause <;> rfl

end DeathNotice

/-- A bounce with one tag reads back, before it is relayed and after. -/
theorem Batch.read_write_tagged {wrap : BounceBody → Packet}
    (hwrap : wrap = .bounce ∨ wrap = .bounced) (tag : String) {data : Payload}
    (hdepth : data.toJson.depth ≤ 125) (hfloats : ∀ x ∈ data.toJson.floats, ReadsBack x) :
    read (write [wrap (.tagged tag data)]) = .ok ⟨[wrap (.tagged tag data)], []⟩ := by
  obtain ⟨name, hjson⟩ : ∃ name, (wrap (.tagged tag data)).toJson =
      .obj [("cmd", .str name), ("tags", .arr [.str tag]), ("data", data.toJson)] := by
    rcases hwrap with rfl | rfl
    · exact ⟨_, rfl⟩
    · exact ⟨_, rfl⟩
  -- The list and the packet add two brackets, and no floats.
  have hdepth' : (Json.arr ([wrap (.tagged tag data)].map Packet.toJson)).depth ≤ maxDepth := by
    rw [List.map_singleton, hjson]
    simp only [depth, itemsDepth, fieldsDepth, maxDepth]
    omega
  have hfloats' : ∀ x ∈ (Json.arr ([wrap (.tagged tag data)].map Packet.toJson)).floats,
      ReadsBack x := by
    rw [List.map_singleton, hjson]
    simpa [floats, itemsFloats, fieldsFloats] using hfloats
  rw [read, write, readSequence_text _ hdepth' hfloats', map_ok, sortedItems_eq_map, List.map_map]
  exact congrArg Except.ok (ofElements_toJson _ 0)

/-! ## Sent, and back again -/

/-- A death that was written. -/
def DeathCall.written (d : DeathNotice) : DeathCall := ⟨d, .ok .written⟩

namespace Hub

variable {h h' : Hub} {d : DeathNotice}

/-- The hub `h'` is what becomes of `h` when a death is sent and comes back. -/
structure Echoes (h : Hub) (d : DeathNotice) (h' : Hub) : Prop where
  sent : h'.audit.entries h.scope.sentKey =
    h.audit.entries h.scope.sentKey ++ [d.payload.toJson.text]
  received : h'.audit.entries h.scope.receivedKey =
    h.audit.entries h.scope.receivedKey ++ [s!"ok {d.payload.toJson.text}"]
  failed : h'.audit.entries DeathScope.failedKey = h.audit.entries DeathScope.failedKey
  others : ∀ key, key ≠ h.scope.sentKey → key ≠ h.scope.receivedKey →
    key ≠ DeathScope.failedKey → h'.audit.entries key = h.audit.entries key
  /-- Each handler of deaths is called once, with this death. -/
  calls : h'.reports.filter (·.isDeath) =
    h.reports.filter (·.isDeath) ++ h.deathHandlers.map (.death · d)

theorem Hears.afterDeaths (hh : h.Hears) (calls : List DeathCall) : (h.afterDeaths calls).Hears :=
  ⟨hh.listeners, hh.subscriptions⟩

/-- A death comes in that went out before. -/
theorem Takes.echoes (ht : Takes (h.afterDeaths [.written d]) [d.payload] h')
    (hd : DeathNotice.ofPayload d.payload = .ok d) : h.Echoes d h' := by
  have hlogs := h.logs_afterDeaths [.written d]
  have haudit : h'.audit = h.scope.logAll (h.afterDeaths [.written d]).audit [d.payload] := ht.audit
  refine ⟨?_, ?_, ?_, fun key hsent hreceived hfailed => ?_, ?_⟩
  · rw [haudit, DeathScope.entries_logAll_other _ _ _ (h.scope.sentKey_ne_receivedKey _)
      h.scope.sentKey_ne_failedKey]
    exact hlogs.sent_eq
  · have hentry : DeathScope.receivedEntry d.payload = s!"ok {d.payload.toJson.text}" := by
      rw [DeathScope.receivedEntry, hd]
    rw [haudit, DeathScope.entries_logAll_received, List.map_singleton, hentry,
      hlogs.others_eq _ (h.scope.sentKey_ne_receivedKey _).symm]
  · have hentry : h.scope.failedEntry? d.payload = none := by
      rw [DeathScope.failedEntry?, hd]
    rw [haudit, DeathScope.entries_logAll_failed, List.filterMap_cons_none hentry,
      List.filterMap_nil, List.append_nil, hlogs.others_eq _ h.scope.sentKey_ne_failedKey.symm]
  · rw [haudit, DeathScope.entries_logAll_other _ _ _ hreceived hfailed, hlogs.others_eq key hsent]
  · have hcalls : (h.afterDeaths [.written d]).deathCalls d.payload =
        h.deathHandlers.map (.death · d) := by
      rw [deathCalls, hd]
      rfl
    -- The message that went to the sender is no call of a handler.
    have hreports : (h.afterDeaths [.written d]).reports.filter (·.isDeath) =
        h.reports.filter (·.isDeath) := by
      rw [hlogs.reports_eq, List.filter_append]
      exact List.append_nil _
    rw [ht.deaths, hreports, List.flatMap_singleton, hcalls]

end Hub

namespace Session

variable {s : Session} {d : DeathNotice}

theorem sendDeath_written (hfate : s.fate = .accepted .written) (d : DeathNotice) :
    s.sendDeath d = (.ok (), ⟨s.hub.afterDeaths [.written d], s.fate⟩) := by
  obtain ⟨hub, fate⟩ := s
  obtain rfl : fate = .accepted .written := hfate
  exact callDeath_eq ⟨hub, _⟩ (.written d)

/-- **A death that was written comes back once.** Its message holds one bounce, for those who
know the tag of deaths. If the server sends that bounce back, each handler of deaths is called
once, with the death that was sent; its payload is then in the log of what went out and in the
log of what came in, once more in each, and nothing is logged as unreadable. -/
theorem death_comes_back (hh : s.hub.Hears) (hfate : s.fate = .accepted .written)
    (hd : DeathNotice.ofPayload d.payload = .ok d) :
    ∃ wire body,
      (s.sendDeath d).1 = .ok () ∧
      (s.sendDeath d).2.hub.reports = s.hub.reports ++ [.sent wire] ∧
      Batch.read wire = .ok ⟨[.bounce body], []⟩ ∧
      body.tags = [DeathNotice.tag] ∧
      ((s.sendDeath d).2.hub.dispatch (Batch.write [.bounced body])).1 = .ok 1 ∧
      s.hub.Echoes d ((s.sendDeath d).2.hub.dispatch (Batch.write [.bounced body])).2 := by
  have hwire {wrap : BounceBody → Packet} (hwrap : wrap = .bounce ∨ wrap = .bounced) :
      Batch.read (Batch.write [wrap (.tagged DeathNotice.tag d.payload)]) =
        .ok ⟨[wrap (.tagged DeathNotice.tag d.payload)], []⟩ := by
    refine Batch.read_write_tagged hwrap _ ?_ ?_
    · rw [d.depth_payload]
      decide
    · rw [d.floats_payload]
      exact List.forall_mem_singleton.mpr (DeathNotice.readsBack_seconds _)
  have hback (h : Hub) : h.dispatch (Batch.write [.bounced (.tagged DeathNotice.tag d.payload)]) =
      (.ok 1, h.publish (.bounced (.tagged DeathNotice.tag d.payload))) := by
    rw [Hub.dispatch, hwire (.inr rfl)]
    rfl
  rw [sendDeath_written hfate]
  refine ⟨_, .tagged DeathNotice.tag d.payload, rfl, rfl, hwire (.inl rfl), rfl, ?_, ?_⟩
  · rw [hback]
  · rw [hback]
    have htakes := (hh.afterDeaths [.written d]).publish_takes
      (.bounced (.tagged DeathNotice.tag d.payload))
    have htag : DeathNotice.tag ∈ (BounceBody.tagged DeathNotice.tag d.payload).tags :=
      List.mem_singleton_self _
    rw [Packet.deathPayload?, if_pos htag] at htakes
    exact htakes.echoes hd

/-- A death whose cause has to be escaped. -/
def fall : DeathNotice where
  instant := ⟨1700000000, 250, by decide, by decide, by decide⟩
  source := "Link"
  cause := some "fell \"off\"\n"

/-- A session whose messages are written. A handler of bounces cancels the subscription of the
death notices before a bounce is their turn. -/
def listening : Session where
  hub :=
    (((Hub.ofWorld {} none).register [DeathNotice.tag] (.app "b" (some ⟨2⟩))).2.attach.2.onDeath
      "a").onDeath "c"
  fate := .accepted .written

theorem hears_listening : listening.hub.Hears where
  listeners := ⟨[], [.lines], rfl, by simp⟩
  subscriptions :=
    ⟨[⟨⟨1⟩, .ofList [DeathNotice.tag], .app "b" (some ⟨2⟩)⟩], [], ⟨2⟩, rfl, by simp⟩

theorem death_comes_back_fall :
    listening.hub.Hears ∧ listening.fate = .accepted .written ∧
      DeathNotice.ofPayload fall.payload = .ok fall ∧
      ∃ message, ((listening.sendDeath fall).2.hub.dispatch message).1 = .ok 1 ∧
        listening.hub.Echoes fall ((listening.sendDeath fall).2.hub.dispatch message).2 := by
  have hd : DeathNotice.ofPayload fall.payload = .ok fall := by decide +kernel
  obtain ⟨-, body, -, -, -, -, hcount, hechoes⟩ := death_comes_back hears_listening rfl hd
  exact ⟨hears_listening, rfl, hd, Batch.write [.bounced body], hcount, hechoes⟩

end Session

end Multiworld
