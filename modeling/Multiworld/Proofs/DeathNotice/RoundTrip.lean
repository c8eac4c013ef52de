import Multiworld.Proofs.DeathNotice.Time
import Multiworld.Proofs.Json.Shape
import Multiworld.Proofs.Outcome

/-!
# Deaths, read back

The payload of a death is read as the death with the same name and cause, at the instant
that its time is read as. That is the instant of the death, unless it lies in a leap second
or its milliseconds are some of those that are read as one more.

## Main results

* `DeathNotice.ofPayload_payload`: what the payload of a death is read as
* `DeathNotice.ofPayload_payload_eq_ok_iff`: the deaths that read back as themselves
-/

namespace Multiworld.DeathNotice

open Json

/-- The fields of a death. -/
def fields (d : DeathNotice) : List (String × Json) :=
  [("time", .num (.float (seconds d.instant))), ("source", .str d.source)] ++
    optionalField "cause" .str d.cause

theorem payload_eq (d : DeathNotice) : d.payload = .ofFields d.fields := by
  obtain ⟨instant, source, cause⟩ := d
  cases cause <;> rfl

theorem get?_payload (d : DeathNotice) (key : String) :
    d.payload.get? key = (lookup key d.fields).map sorted := by
  rw [payload_eq]
  refine lookup_sortedFields ?_ key
  obtain ⟨instant, source, cause⟩ := d
  cases cause <;> simp [fields, optionalField]

theorem timeOf_payload (d : DeathNotice) : timeOf d.payload = .ok (seconds d.instant) := by
  have h : d.payload.get? "time" = some (.num (.float (seconds d.instant))) := by
    rw [get?_payload]
    simp [fields]
  rw [timeOf, h]
  rfl

theorem sourceOf_payload (d : DeathNotice) : sourceOf d.payload = .ok d.source := by
  have h : d.payload.get? "source" = some (.str d.source) := by
    rw [get?_payload]
    simp [fields]
  rw [sourceOf, h]

theorem causeOf_payload (d : DeathNotice) : causeOf d.payload = d.cause := by
  have h : d.payload.get? "cause" = d.cause.map .str := by
    rw [get?_payload]
    cases hc : d.cause <;> simp [fields, hc]
  rw [causeOf, h]
  cases d.cause <;> rfl

/-- **What the payload of a death is read as**: a death of the same name and cause. -/
theorem ofPayload_payload (d : DeathNotice) :
    ofPayload d.payload =
      match Instant.ofMillis? (readMillis d.instant.millis) with
      | some instant => .ok { d with instant }
      | none => .error (.outOfRange (seconds d.instant)) := by
  rw [ofPayload, timeOf_payload, ok_bind, sourceOf_payload, ok_bind, causeOf_payload,
    instant?_seconds]
  rfl

/-- A death of the year 141338 is read a millisecond late. -/
example : (ofPayload (payload
    { instant := ⟨4398046511104, 21, by decide, by decide, by decide⟩
      source := "Link" })).toOption.map (fun d => (d.instant.second, d.instant.milli)) =
    some (4398046511104, 22) := by
  decide +kernel

theorem millis_of_ofMillis? {m : Int} {t : Instant} (h : Instant.ofMillis? m = some t) :
    t.millis = m ∧ t.milli < 1000 := by
  unfold Instant.ofMillis? at h
  split at h
  · obtain rfl := Option.some.inj h
    unfold Instant.millis
    dsimp only
    omega
  · exact absurd h (Option.some_ne_none t).symm

/-- **The deaths that read back as themselves** are those outside leap seconds whose
milliseconds are not read as one more. -/
theorem ofPayload_payload_eq_ok_iff (d : DeathNotice) :
    ofPayload d.payload = .ok d ↔
      d.instant.milli < 1000 ∧ ¬ Slips d.instant.millis.natAbs := by
  rw [ofPayload_payload]
  constructor
  · intro h
    cases hread : Instant.ofMillis? (readMillis d.instant.millis) with
    | none => simp [hread] at h
    | some t =>
      obtain ⟨hmillis, hmilli⟩ := millis_of_ofMillis? hread
      have ht : t = d.instant := by
        rw [hread] at h
        exact congrArg DeathNotice.instant (Except.ok.inj h)
      subst ht
      refine ⟨hmilli, fun hs => ?_⟩
      -- Milliseconds that are read as one more are not zero, and so move.
      have h0 : d.instant.millis ≠ 0 := fun h0 => by
        rw [h0] at hs
        exact absurd hs.1 (by omega)
      rw [readMillis, if_pos hs] at hmillis
      exact absurd (Int.sign_eq_zero_iff_zero.mp (by omega)) h0
  · rintro ⟨hmilli, hs⟩
    rw [readMillis, if_neg hs, Instant.ofMillis?_millis hmilli]

end Multiworld.DeathNotice
