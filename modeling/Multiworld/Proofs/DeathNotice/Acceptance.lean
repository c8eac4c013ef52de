import Multiworld.Proofs.DeathNotice.RoundTrip

/-!
# Which payloads are deaths

A payload is a death if its time is a number, its source a string, and the milliseconds of the time
are those of an instant. The guard lets one count of milliseconds through that does not fit into 64
bits, but neither that nor the one that it is clamped to is the count of an instant. Of several
faults the first one is reported, in the order in which the fields are looked at. The cause has no
part in it.

## Main definitions

* `Binary64.IsNearest`: an integer is nearest to a number
* `DeathNotice.Counts`: how many milliseconds some seconds are
* `DeathNotice.IsReadFrom`: a payload is read as a death
* `DeathFault.AppliesTo`, `DeathFault.IsFirst`: the faults of a payload, and the first of them
* `DeathNotice.IsChecked`: what the outcome hangs on

## Main results

* `Binary64.nearestInt_eq_iff`: rounding finds the nearest integer
* `DeathNotice.instant?_eq_some_iff`: the instant of some seconds
* `DeathNotice.ofPayload_cases`: a payload is read as a death, or has a first fault
* `DeathNotice.ofPayload_isChecked`: a payload is checked field by field
-/

namespace Multiworld

/-! ## The nearest integer -/

/-- An integer is nearest to a number; of two that are equally near, it is the one further from
zero. -/
def Binary64.IsNearest (x : Binary64) (m : Int) : Prop :=
  ∃ magnitude : Nat, m = (if x.negative then -(magnitude : Int) else magnitude) ∧
    magnitude <<< 1074 ≤ x.units + 1 <<< 1073 ∧
      x.units + 1 <<< 1073 < (magnitude + 1) <<< 1074

/-- To add a half and to cut is to round a half up. -/
theorem half_up_eq_iff {v k m : Nat} :
    ((v >>> k) + 1) / 2 = m ↔
      m <<< (k + 1) ≤ v + 1 <<< k ∧ v + 1 <<< k < (m + 1) <<< (k + 1) := by
  have hpos : 0 < 2 ^ k := Nat.two_pow_pos k
  have hunit : 0 < 2 ^ (k + 1) := Nat.two_pow_pos (k + 1)
  rw [Nat.shiftRight_eq_div_pow, ← Nat.add_div_right v hpos, Nat.div_div_eq_div_mul, ← Nat.pow_succ,
    Nat.div_eq_iff hunit, Nat.one_shiftLeft, Nat.shiftLeft_eq, Nat.shiftLeft_eq, Nat.succ_mul]
  omega

/-- **Rounding finds the nearest integer.** -/
theorem Binary64.nearestInt_eq_iff {x : Binary64} {m : Int} :
    x.nearestInt = m ↔ x.IsNearest m := by
  constructor
  · rintro rfl
    exact ⟨_, rfl, half_up_eq_iff.mp rfl⟩
  · rintro ⟨magnitude, rfl, hnear⟩
    rw [nearestInt, half_up_eq_iff.mpr hnear]

/-! ## Instants -/

/-- A count of milliseconds is that of an instant. -/
def Instant.InRange (m : Int) : Prop := -8334601228800000 ≤ m ∧ m ≤ 8210266876799999

theorem Instant.ofMillis?_eq_some_iff {m : Int} {t : Instant} :
    ofMillis? m = some t ↔ t.millis = m ∧ t.milli < 1000 := by
  constructor
  · exact DeathNotice.millis_of_ofMillis?
  · rintro ⟨rfl, hmilli⟩
    exact ofMillis?_millis hmilli

theorem Instant.exists_ofMillis?_iff {m : Int} : (∃ t, ofMillis? m = some t) ↔ InRange m := by
  unfold ofMillis?
  split
  · next h => exact iff_of_true ⟨_, rfl⟩ h
  · next h =>
    apply iff_of_false _ h
    rintro ⟨t, ht⟩
    cases ht

namespace DeathNotice

/-- Some seconds are so many milliseconds: the product with 1000 is a number, and that is the
integer nearest to it. -/
def Counts (seconds : Binary64) (m : Int) : Prop :=
  ∃ product, seconds.mulNat? 1000 = some product ∧ product.IsNearest m

variable {seconds : Binary64} {m m' : Int} {t : Instant}

theorem counts_iff :
    Counts seconds m ↔ (seconds.mulNat? 1000).map Binary64.nearestInt = some m := by
  rw [Option.map_eq_some_iff]
  exact exists_congr fun product => and_congr_right fun _ => Binary64.nearestInt_eq_iff.symm

theorem Counts.eq (h : Counts seconds m) (h' : Counts seconds m') : m = m' := by
  rw [counts_iff] at h h'
  exact Option.some.inj (h.symm.trans h')

theorem instant?_eq_bind :
    instant? seconds = ((seconds.mulNat? 1000).map Binary64.nearestInt).bind Instant.ofMillis? := by
  rw [instant?_eq, Option.bind_map]
  rfl

/-- **The instant of some seconds** is that of their milliseconds, and in no leap second. -/
theorem instant?_eq_some_iff :
    instant? seconds = some t ↔ Counts seconds t.millis ∧ t.milli < 1000 := by
  rw [instant?_eq_bind, Option.bind_eq_some_iff]
  constructor
  · rintro ⟨m, hm, ht⟩
    obtain ⟨rfl, hmilli⟩ := Instant.ofMillis?_eq_some_iff.mp ht
    exact ⟨counts_iff.mpr hm, hmilli⟩
  · rintro ⟨hcounts, hmilli⟩
    exact ⟨t.millis, counts_iff.mp hcounts, Instant.ofMillis?_millis hmilli⟩

theorem exists_instant?_iff :
    (∃ t, instant? seconds = some t) ↔ ∃ m, Counts seconds m ∧ Instant.InRange m := by
  simp only [instant?_eq_bind, Option.bind_eq_some_iff, counts_iff, ← Instant.exists_ofMillis?_iff]
  constructor
  · rintro ⟨t, m, hm, ht⟩
    exact ⟨m, hm, t, ht⟩
  · rintro ⟨m, hm, t, ht⟩
    exact ⟨t, m, hm, ht⟩

end DeathNotice

/-! ## What is read, and what is wrong -/

/-- What a field of a death may hold. -/
def DeathField.Accepts : DeathField → Json → Prop
  | .time, v => ∃ n, v = .num n
  | .source, v => ∃ text, v = .str text

theorem DeathField.Accepts.ne_null {field : DeathField} {v : Json} (h : field.Accepts v) :
    v ≠ .null := by
  rintro rfl
  cases field with
  | time =>
    obtain ⟨n, hn⟩ := h
    cases hn
  | source =>
    obtain ⟨text, htext⟩ := h
    cases htext

/-- How early a field is looked at: each has two faults. -/
def DeathField.rank : DeathField → Nat
  | .time => 0
  | .source => 2

theorem DeathField.rank_lt (field : DeathField) : field.rank < 3 := by
  cases field with
  | time => exact Nat.succ_pos 2
  | source => exact Nat.lt_succ_self 2

/-- A payload is read as a death. -/
structure DeathNotice.IsReadFrom (d : DeathNotice) (p : Payload) : Prop where
  time : ∃ n, p.get? "time" = some (.num n) ∧ Counts n.toBinary64 d.instant.millis
  /-- No time is in a leap second. -/
  milli_lt : d.instant.milli < 1000
  source : p.get? "source" = some (.str d.source)
  cause_iff : ∀ text, d.cause = some text ↔ p.get? "cause" = some (.str text)

namespace DeathFault

/-- A fault is one of a payload. A payload can have several. -/
def AppliesTo (p : Payload) : DeathFault → Prop
  | .missing field => p.get? field.name = none ∨ p.get? field.name = some .null
  | .wrongType field =>
    ∃ v, p.get? field.name = some v ∧ v ≠ .null ∧ ¬ field.Accepts v
  | .outOfRange time =>
    ∃ n, p.get? "time" = some (.num n) ∧ n.toBinary64 = time ∧
      ∀ m, DeathNotice.Counts time m → ¬ Instant.InRange m

/-- How early a fault is found. -/
def rank : DeathFault → Nat
  | .missing field => field.rank
  | .wrongType field => field.rank + 1
  | .outOfRange _ => 4

/-- All faults of a payload have this rank or a later one. -/
def NoneBefore (p : Payload) (rank : Nat) : Prop := ∀ e : DeathFault, e.AppliesTo p → rank ≤ e.rank

/-- The first fault of a payload. -/
def IsFirst (p : Payload) (e : DeathFault) : Prop := e.AppliesTo p ∧ NoneBefore p e.rank

variable {p : Payload} {e e' : DeathFault}

/-- A fault is known from its rank, up to the time that is out of range. -/
theorem eq_or_of_rank_eq (h : e.rank = e'.rank) :
    e = e' ∨ ∃ x x', e = .outOfRange x ∧ e' = .outOfRange x' := by
  rcases e with (_ | _) | (_ | _) | x <;> rcases e' with (_ | _) | (_ | _) | x' <;>
    simp_all [rank, DeathField.rank]

/-- A payload has one first fault at most. -/
theorem IsFirst.eq (h : e.IsFirst p) (h' : e'.IsFirst p) : e = e' := by
  have hrank := Nat.le_antisymm (h.2 e' h'.1) (h'.2 e h.1)
  rcases eq_or_of_rank_eq hrank with heq | ⟨_, _, rfl, rfl⟩
  · exact heq
  · -- A payload has only one time.
    obtain ⟨n, hn, rfl, -⟩ := h.1
    obtain ⟨n', hn', rfl, -⟩ := h'.1
    rw [hn] at hn'
    cases hn'
    rfl

theorem noneBefore_zero : NoneBefore p 0 := fun e _ => Nat.zero_le e.rank

/-- A rank is passed if the one fault of it does not apply. -/
theorem NoneBefore.succ (h : NoneBefore p e.rank) (he : ¬ e.AppliesTo p)
    (hrank : e.rank < 4) : NoneBefore p (e.rank + 1) := by
  intro e' he'
  apply Nat.lt_of_le_of_ne (h e' he')
  intro heq
  rcases eq_or_of_rank_eq heq with rfl | ⟨_, _, rfl, -⟩
  · exact he he'
  · exact absurd hrank (Nat.lt_irrefl 4)

/-- A field that is there is not missing. -/
theorem not_missing {field : DeathField} {v : Json} (h : p.get? field.name = some v)
    (hnull : v ≠ .null) : ¬ (missing field).AppliesTo p := by
  rintro (hnone | hnull')
  · cases h.symm.trans hnone
  · exact hnull (Option.some.inj (h.symm.trans hnull'))

/-- A field of its type is not of a wrong one. -/
theorem not_wrongType {field : DeathField} {v : Json} (h : p.get? field.name = some v)
    (hv : field.Accepts v) : ¬ (wrongType field).AppliesTo p := by
  rintro ⟨v', h', -, hv'⟩
  cases h.symm.trans h'
  exact hv' hv

/-- A field that is there has its other fault at most. -/
theorem NoneBefore.add_one (field : DeathField) {v : Json} (h : NoneBefore p field.rank)
    (hv : p.get? field.name = some v) (hnull : v ≠ .null) : NoneBefore p (field.rank + 1) := by
  apply NoneBefore.succ (e := missing field) h (not_missing hv hnull)
  exact Nat.lt_succ_of_lt field.rank_lt

/-- Nothing is wrong with a field of its type. -/
theorem NoneBefore.add_two (field : DeathField) {v : Json} (h : NoneBefore p field.rank)
    (hv : p.get? field.name = some v) (haccepts : field.Accepts v) :
    NoneBefore p (field.rank + 2) := by
  have hthere := h.add_one field hv haccepts.ne_null
  apply NoneBefore.succ (e := wrongType field) hthere (not_wrongType hv haccepts)
  exact Nat.succ_lt_succ field.rank_lt

/-- The first fault of a field is the first one of the payload if none comes before the field. -/
theorem NoneBefore.isFirst (field : DeathField) (hbefore : NoneBefore p field.rank)
    (h : e.AppliesTo p) (he : e = missing field ∨ e = wrongType field) : e.IsFirst p := by
  refine ⟨h, ?_⟩
  rcases he with rfl | rfl
  · exact hbefore
  · obtain ⟨v, hv, hnull, -⟩ := h
    exact hbefore.add_one field hv hnull

end DeathFault

namespace DeathNotice

open DeathFault

variable (p : Payload)

theorem timeOf_cases :
    (∃ n, p.get? "time" = some (.num n) ∧ timeOf p = .ok n.toBinary64) ∨
      ∃ e : DeathFault, timeOf p = .error e ∧ e.AppliesTo p ∧
        (e = .missing .time ∨ e = .wrongType .time) := by
  unfold timeOf
  split
  · next h => exact .inr ⟨_, rfl, .inl h, .inl rfl⟩
  · next h => exact .inr ⟨_, rfl, .inr h, .inl rfl⟩
  · next n h => exact .inl ⟨n, h, rfl⟩
  · next v hnull hnum h =>
    refine .inr ⟨_, rfl, ⟨v, h, hnull, ?_⟩, .inr rfl⟩
    rintro ⟨n, rfl⟩
    exact hnum n rfl

theorem sourceOf_cases :
    (∃ text, p.get? "source" = some (.str text) ∧ sourceOf p = .ok text) ∨
      ∃ e : DeathFault, sourceOf p = .error e ∧ e.AppliesTo p ∧
        (e = .missing .source ∨ e = .wrongType .source) := by
  unfold sourceOf
  split
  · next h => exact .inr ⟨_, rfl, .inl h, .inl rfl⟩
  · next h => exact .inr ⟨_, rfl, .inr h, .inl rfl⟩
  · next text h => exact .inl ⟨text, h, rfl⟩
  · next v hnull hstr h =>
    refine .inr ⟨_, rfl, ⟨v, h, hnull, ?_⟩, .inr rfl⟩
    rintro ⟨text, rfl⟩
    exact hstr text rfl

theorem causeOf_eq_some_iff {text : String} :
    causeOf p = some text ↔ p.get? "cause" = some (.str text) := by
  unfold causeOf
  split
  · next cause h => rw [h, Option.some.injEq, Option.some.injEq, Json.str.injEq]
  · next hstr =>
    apply iff_of_false nofun
    intro h
    exact hstr text h

/-- **A payload is read as a death, or has a first fault.** -/
theorem ofPayload_cases :
    (∃ d, ofPayload p = .ok d ∧ d.IsReadFrom p) ∨
      ∃ e : DeathFault, ofPayload p = .error e ∧ e.IsFirst p := by
  unfold ofPayload
  obtain ⟨n, hn, htime⟩ | ⟨e, htime, happlies, he⟩ := timeOf_cases p
  · have hbefore : NoneBefore p DeathField.source.rank := noneBefore_zero.add_two .time hn ⟨n, rfl⟩
    -- The source is looked at once the time has its type, ...
    rw [htime, ok_bind]
    obtain ⟨source, hs, hsource⟩ | ⟨e, hsource, happlies, he⟩ := sourceOf_cases p
    · -- ... and the range of the time once both have theirs.
      rw [hsource, ok_bind]
      cases hinstant : instant? n.toBinary64 with
      | some t =>
        obtain ⟨hcounts, hmilli⟩ := instant?_eq_some_iff.mp hinstant
        exact .inl ⟨_, rfl, ⟨n, hn, hcounts⟩, hmilli, hs, fun _ => causeOf_eq_some_iff p⟩
      | none =>
        have hlast := hbefore.add_two .source hs ⟨source, rfl⟩
        refine .inr ⟨_, rfl, ⟨n, hn, rfl, ?_⟩, hlast⟩
        intro m hcounts hrange
        obtain ⟨t, ht⟩ := exists_instant?_iff.mpr ⟨m, hcounts, hrange⟩
        cases hinstant.symm.trans ht
    · rw [hsource]
      exact .inr ⟨e, rfl, hbefore.isFirst .source happlies he⟩
  · rw [htime]
    exact .inr ⟨e, rfl, noneBefore_zero.isFirst .time happlies he⟩

/-! ## The outcome -/

section Outcome

variable {p} {q : Payload} {d d' : DeathNotice} {e : DeathFault}

theorem IsReadFrom.inRange (h : d.IsReadFrom p) : Instant.InRange d.instant.millis :=
  Instant.exists_ofMillis?_iff.mp ⟨d.instant, Instant.ofMillis?_millis h.milli_lt⟩

/-- A payload is read as one death at most. -/
theorem IsReadFrom.eq (h : d.IsReadFrom p) (h' : d'.IsReadFrom p) : d = d' := by
  obtain ⟨n, hn, hcounts⟩ := h.time
  obtain ⟨n', hn', hcounts'⟩ := h'.time
  cases hn.symm.trans hn'
  -- Outside leap seconds an instant is known from its milliseconds.
  have hinstant : d.instant = d'.instant := by
    have hsame := Instant.ofMillis?_millis h'.milli_lt
    rw [hcounts'.eq hcounts, Instant.ofMillis?_millis h.milli_lt] at hsame
    exact Option.some.inj hsame
  have hsource : d.source = d'.source :=
    Json.str.inj (Option.some.inj (h.source.symm.trans h'.source))
  have hcause : d.cause = d'.cause :=
    Option.ext fun text => (h.cause_iff text).trans (h'.cause_iff text).symm
  cases d
  cases d'
  simp only at hinstant hsource hcause
  rw [hinstant, hsource, hcause]

/-- Nothing is wrong with a payload that is read. -/
theorem IsReadFrom.not_appliesTo (h : d.IsReadFrom p) : ¬ e.AppliesTo p := by
  obtain ⟨n, hn, hcounts⟩ := h.time
  have hs := h.source
  cases e with
  | missing field =>
    cases field with
    | time => exact not_missing hn nofun
    | source => exact not_missing hs nofun
  | wrongType field =>
    cases field with
    | time => exact not_wrongType hn ⟨n, rfl⟩
    | source => exact not_wrongType hs ⟨d.source, rfl⟩
  | outOfRange x =>
    rintro ⟨n', hn', rfl, hrange⟩
    cases hn.symm.trans hn'
    exact hrange _ hcounts h.inRange

/-- **The payloads that are read** as some death. -/
theorem ofPayload_eq_ok_iff : ofPayload p = .ok d ↔ d.IsReadFrom p := by
  constructor
  · intro h
    obtain ⟨d', hd', hread⟩ | ⟨e, he, -⟩ := ofPayload_cases p
    · cases h.symm.trans hd'
      exact hread
    · cases h.symm.trans he
  · intro h
    obtain ⟨d', hd', hread⟩ | ⟨e, -, hfirst⟩ := ofPayload_cases p
    · rw [hd', h.eq hread]
    · exact absurd hfirst.1 h.not_appliesTo

/-- **The payloads that are refused** for some fault. -/
theorem ofPayload_eq_error_iff : ofPayload p = .error e ↔ e.IsFirst p := by
  constructor
  · intro h
    obtain ⟨d, hd, -⟩ | ⟨e', he', hfirst⟩ := ofPayload_cases p
    · cases h.symm.trans hd
    · cases h.symm.trans he'
      exact hfirst
  · intro h
    obtain ⟨d, -, hread⟩ | ⟨e', he', hfirst⟩ := ofPayload_cases p
    · exact absurd h.1 hread.not_appliesTo
    · rw [he', h.eq hfirst]

/-- **The payloads that are deaths.** -/
theorem exists_ofPayload_eq_ok_iff :
    (∃ d, ofPayload p = .ok d) ↔
      (∃ n m, p.get? "time" = some (.num n) ∧ Counts n.toBinary64 m ∧ Instant.InRange m) ∧
        ∃ source, p.get? "source" = some (.str source) := by
  simp only [ofPayload_eq_ok_iff]
  constructor
  · rintro ⟨d, hread⟩
    obtain ⟨n, hn, hcounts⟩ := hread.time
    exact ⟨⟨n, _, hn, hcounts, hread.inRange⟩, _, hread.source⟩
  · rintro ⟨⟨n, m, hn, hcounts, hrange⟩, source, hs⟩
    obtain ⟨t, ht⟩ := exists_instant?_iff.mpr ⟨m, hcounts, hrange⟩
    obtain ⟨hmillis, hmilli⟩ := instant?_eq_some_iff.mp ht
    exact ⟨⟨t, source, causeOf p⟩, ⟨n, hn, hmillis⟩, hmilli, hs, fun _ => causeOf_eq_some_iff p⟩

/-- A time whose milliseconds are those of no instant is refused. -/
theorem ofPayload_ne_ok_of_not_inRange {n : Num} {m : Int} (hn : p.get? "time" = some (.num n))
    (hcounts : Counts n.toBinary64 m) (hrange : ¬ Instant.InRange m) : ofPayload p ≠ .ok d := by
  intro h
  have hread := ofPayload_eq_ok_iff.mp h
  obtain ⟨n', hn', hcounts'⟩ := hread.time
  cases hn.symm.trans hn'
  rw [hcounts.eq hcounts'] at hrange
  exact hrange hread.inRange

theorem timeOf_congr (h : q.get? "time" = p.get? "time") : timeOf q = timeOf p := by
  rw [timeOf, timeOf, h]

theorem sourceOf_congr (h : q.get? "source" = p.get? "source") : sourceOf q = sourceOf p := by
  rw [sourceOf, sourceOf, h]

theorem causeOf_congr (h : q.get? "cause" = p.get? "cause") : causeOf q = causeOf p := by
  rw [causeOf, causeOf, h]

/-- Nothing but three fields is looked at. -/
theorem ofPayload_congr (htime : q.get? "time" = p.get? "time")
    (hsource : q.get? "source" = p.get? "source") (hcause : q.get? "cause" = p.get? "cause") :
    ofPayload q = ofPayload p := by
  rw [ofPayload, ofPayload, timeOf_congr htime, sourceOf_congr hsource, causeOf_congr hcause]

/-- The cause changes nothing but the cause. -/
theorem map_ofPayload_congr (htime : q.get? "time" = p.get? "time")
    (hsource : q.get? "source" = p.get? "source") (cause : Option String) :
    (ofPayload q).map (fun d => { d with cause }) =
      (ofPayload p).map fun d => { d with cause } := by
  rw [ofPayload, ofPayload, timeOf_congr htime, sourceOf_congr hsource, bind_map_eq, bind_map_eq]
  -- The cause is read last, and cannot fail.
  congr 1
  funext time
  rw [bind_map_eq, bind_map_eq]
  congr 1
  funext source
  cases instant? time <;> rfl

end Outcome

/-- What the outcome of reading a payload as a death hangs on. -/
structure IsChecked (p : Payload) : Prop where
  /-- The time must be a number of milliseconds, those of an instant, and the source a string. -/
  accepted_iff : (∃ d, ofPayload p = .ok d) ↔
    (∃ n m, p.get? "time" = some (.num n) ∧ Counts n.toBinary64 m ∧ Instant.InRange m) ∧
      ∃ source, p.get? "source" = some (.str source)
  /-- The death is what the fields say. -/
  ok_iff : ∀ d, ofPayload p = .ok d ↔ d.IsReadFrom p
  /-- The fault is the first one. -/
  error_iff : ∀ e, ofPayload p = .error e ↔ e.IsFirst p
  /-- No time is moved to the nearest one in range. -/
  refused : ∀ n m, p.get? "time" = some (.num n) → Counts n.toBinary64 m →
    ¬ Instant.InRange m → ∀ d, ofPayload p ≠ .ok d
  /-- Other fields are not looked at. -/
  congr : ∀ q : Payload, (∀ key ∈ ["time", "source", "cause"], q.get? key = p.get? key) →
    ofPayload q = ofPayload p
  /-- With another cause or none, the outcome is the same but for the cause. -/
  recause : ∀ q : Payload, (∀ key ≠ "cause", q.get? key = p.get? key) → ∀ cause,
    (ofPayload q).map (fun d => { d with cause }) = (ofPayload p).map fun d => { d with cause }

/-- **A payload is checked field by field**, and its time to the millisecond. -/
theorem ofPayload_isChecked (p : Payload) : IsChecked p where
  accepted_iff := exists_ofPayload_eq_ok_iff
  ok_iff _ := ofPayload_eq_ok_iff
  error_iff _ := ofPayload_eq_error_iff
  refused _ _ hn hcounts hrange _ := ofPayload_ne_ok_of_not_inRange hn hcounts hrange
  congr q h :=
    ofPayload_congr (h "time" (by simp)) (h "source" (by simp)) (h "cause" (by simp))
  recause q h := map_ofPayload_congr (h "time" (by simp)) (h "source" (by simp))

/-- The guard lets `2^63` milliseconds through, and no instant has as many. -/
example : (Binary64.ofInt 9223372036854776 (by decide)).mulNat? 1000 =
      some (Binary64.ofInt (2 ^ 63) (by decide)) ∧
    (Binary64.ofInt (2 ^ 63) (by decide)).nearestInt = 2 ^ 63 ∧
      instant? (Binary64.ofInt 9223372036854776 (by decide)) = none := by
  decide +kernel

end DeathNotice

end Multiworld
