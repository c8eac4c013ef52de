import Multiworld.Proofs.LogLine.Players
import Multiworld.Proofs.Outcome

/-!
# Which line a packet gives

Each type of lines has fields that it needs, and some types have one that they can do without. A
packet with all the fields that its type needs gives a line of that type, and any other packet gives
a plain line. Nothing but the fragments, the type and the fields of the type counts.

## Main definitions

* `PrintField`, `PrintBody.get?`: the fields that belong to some types only
* `PrintKind.required`, `PrintKind.additional`: the fields of a type
* `PrintBody.Completes`: a packet has what a type needs
* `LineKind.type?`, `LineKind.get?`: the type of a line, and the fields that it shows
* `LogLine.IsLineOf`: what a packet's line is

## Main results

* `LineKind.shows_of_ofPrint?`: a line is of its packet's type
* `LineKind.isSome_ofPrint?_iff`: when there is one that is not plain
* `LineKind.ofPrint?_congr`: only the fields of the type count
* `LogLine.ofPrint_isLineOf`: the line of a packet
-/

namespace Multiworld

/-! ## Fields -/

/-- A field of a packet that belongs to some types of lines only. -/
inductive PrintField where
  | receiving
  | item
  | found
  | team
  | slot
  | message
  | tags
  | countdown
deriving DecidableEq

/-- The values of a field. -/
def PrintField.Value : PrintField → Type
  | .receiving => Slot
  | .item => NetworkItem
  | .found => Bool
  | .team => Team
  | .slot => Slot
  | .message => String
  | .tags => List String
  | .countdown => Int64

/-- The value of a field in a packet. -/
def PrintBody.get? (p : PrintBody) : (f : PrintField) → Option f.Value
  | .receiving => p.receiving
  | .item => p.item
  | .found => p.found
  | .team => p.team
  | .slot => p.slot
  | .message => p.message
  | .tags => p.tags
  | .countdown => p.countdown

/-- What an absent field counts as, where a line can do without it. -/
def PrintField.default? : (f : PrintField) → Option f.Value
  | .tags => some ([] : List String)
  | .found => some false
  | _ => none

namespace PrintKind

/-- The fields that a line of a type needs. -/
def required : PrintKind → List PrintField
  | .chat => [.team, .slot, .message]
  | .serverChat => [.message]
  | .join => [.team, .slot]
  | .leave => [.team, .slot]
  | .tagsChanged => [.team, .slot]
  | .goal => [.team, .slot]
  | .release => [.team, .slot]
  | .collect => [.team, .slot]
  | .countdown => [.countdown]
  | .itemSend => [.receiving, .item]
  | .itemCheat => [.receiving, .item, .team]
  | .hint => [.receiving, .item]
  | .tutorial => []
  | .commandResult => []
  | .adminCommandResult => []
  | .unknown => []

/-- The fields that a line of a type can do without. -/
def additional : PrintKind → List PrintField
  | .join => [.tags]
  | .tagsChanged => [.tags]
  | .hint => [.found]
  | _ => []

end PrintKind

namespace PrintBody

/-- A packet has all that a line of a known type needs. -/
def Completes (p : PrintBody) (type : PrintKind) : Prop :=
  type ≠ .unknown ∧ ∀ f ∈ type.required, (p.get? f).isSome = true

/-- A value is that of a field, or what the field counts as where it is absent. -/
def Gives (p : PrintBody) (f : PrintField) (value : f.Value) : Prop :=
  p.get? f = some value ∨ p.get? f = none ∧ f.default? = some value

theorem gives_tags (p : PrintBody) : p.Gives .tags (p.tags.getD []) := by
  cases htags : p.tags with
  | none => exact .inr ⟨htags, rfl⟩
  | some tags => exact .inl htags

theorem gives_found (p : PrintBody) : p.Gives .found (p.found.getD false) := by
  cases hfound : p.found with
  | none => exact .inr ⟨hfound, rfl⟩
  | some found => exact .inl hfound

end PrintBody

/-! ## Lines -/

namespace LineKind

/-- The type of a line; a plain one has none. -/
def type? : LineKind → Option PrintKind
  | .plain => none
  | .chat .. => some .chat
  | .serverChat _ => some .serverChat
  | .join .. => some .join
  | .leave _ => some .leave
  | .tagsChanged .. => some .tagsChanged
  | .goal _ => some .goal
  | .release _ => some .release
  | .collect _ => some .collect
  | .countdown _ => some .countdown
  | .tutorial => some .tutorial
  | .commandResult => some .commandResult
  | .adminCommandResult => some .adminCommandResult
  | .itemSend .. => some .itemSend
  | .itemCheat .. => some .itemCheat
  | .hint .. => some .hint

/-- The value of a field that a line shows as it is given. -/
def get? : LineKind → (f : PrintField) → Option f.Value
  | .chat _ message, .message => some message
  | .serverChat message, .message => some message
  | .join _ tags, .tags => some tags
  | .tagsChanged _ tags, .tags => some tags
  | .countdown remaining, .countdown => some remaining
  | .itemCheat _ _ team, .team => some team
  | .hint _ _ _ found, .found => some found
  | _, _ => none

theorem type?_eq_none_iff {kind : LineKind} : kind.type? = none ↔ kind = .plain := by
  cases kind <;> simp [type?]

variable {w : World} {p q : PrintBody} {type : PrintKind} {kind : LineKind}

/-! ### The type -/

/-- A line that is not plain is of its packet's type, and shows what the packet gives. -/
theorem shows_of_ofPrint? (h : ofPrint? w p = some kind) :
    kind.type? = p.kind ∧ ∀ f value, kind.get? f = some value → p.Gives f value := by
  obtain ⟨type, htype, -⟩ := Option.bind_eq_some_iff.mp h
  simp only [ofPrint?, htype, Option.bind_eq_bind, Option.bind_some, Option.pure_def] at h
  rw [htype]
  -- In each case all that is left is the field that the line shows, where it shows one.
  cases type with
  | chat =>
    obtain ⟨view, -, h⟩ := Option.bind_eq_some_iff.mp h
    obtain ⟨message, hmessage, h⟩ := Option.bind_eq_some_iff.mp h
    obtain rfl := Option.some.inj h
    refine ⟨rfl, fun f value hvalue => ?_⟩
    cases f <;> cases hvalue
    exact .inl hmessage
  | serverChat =>
    obtain ⟨message, hmessage, h⟩ := Option.bind_eq_some_iff.mp h
    obtain rfl := Option.some.inj h
    refine ⟨rfl, fun f value hvalue => ?_⟩
    cases f <;> cases hvalue
    exact .inl hmessage
  | join | tagsChanged =>
    obtain ⟨view, -, h⟩ := Option.bind_eq_some_iff.mp h
    obtain rfl := Option.some.inj h
    refine ⟨rfl, fun f value hvalue => ?_⟩
    cases f <;> cases hvalue
    exact p.gives_tags
  | leave | goal | release | collect =>
    obtain ⟨view, -, h⟩ := Option.bind_eq_some_iff.mp h
    obtain rfl := Option.some.inj h
    refine ⟨rfl, fun f value hvalue => ?_⟩
    cases f <;> cases hvalue
  | countdown =>
    obtain ⟨remaining, hremaining, h⟩ := Option.bind_eq_some_iff.mp h
    obtain rfl := Option.some.inj h
    refine ⟨rfl, fun f value hvalue => ?_⟩
    cases f <;> cases hvalue
    exact .inl hremaining
  | itemSend =>
    obtain ⟨⟨receiver, item⟩, -, h⟩ := Option.bind_eq_some_iff.mp h
    obtain rfl := Option.some.inj h
    refine ⟨rfl, fun f value hvalue => ?_⟩
    cases f <;> cases hvalue
  | itemCheat =>
    obtain ⟨⟨receiver, item⟩, -, h⟩ := Option.bind_eq_some_iff.mp h
    obtain ⟨team, hteam, h⟩ := Option.bind_eq_some_iff.mp h
    obtain rfl := Option.some.inj h
    refine ⟨rfl, fun f value hvalue => ?_⟩
    cases f <;> cases hvalue
    exact .inl hteam
  | hint =>
    obtain ⟨⟨receiver, item⟩, -, h⟩ := Option.bind_eq_some_iff.mp h
    obtain rfl := Option.some.inj h
    refine ⟨rfl, fun f value hvalue => ?_⟩
    cases f <;> cases hvalue
    exact p.gives_found
  | tutorial | commandResult | adminCommandResult =>
    obtain rfl := Option.some.inj h
    refine ⟨rfl, fun f value hvalue => ?_⟩
    cases f <;> cases hvalue
  | unknown => cases h

theorem isSome_playerOf? : (playerOf? w p).isSome = (p.team.isSome && p.slot.isSome) := by
  unfold playerOf?
  cases p.team <;> cases p.slot <;> rfl

theorem isSome_itemOf? : (itemOf? w p).isSome = (p.receiving.isSome && p.item.isSome) := by
  unfold itemOf?
  cases p.receiving <;> cases p.item <;> rfl

/-- **There is a line that is not plain if and only if the packet has what its type needs.** -/
theorem isSome_ofPrint?_iff (htype : p.kind = some type) :
    (ofPrint? w p).isSome = true ↔ p.Completes type := by
  simp only [PrintBody.Completes, ofPrint?, htype, Option.bind_eq_bind, Option.bind_some,
    Option.pure_def]
  cases type with
  | chat | join | leave | tagsChanged | goal | release | collect =>
    simp [PrintKind.required, PrintBody.get?, PrintField.Value, Option.isSome_bind, any_const,
      isSome_playerOf?, and_assoc]
  | itemSend | itemCheat | hint =>
    simp [PrintKind.required, PrintBody.get?, PrintField.Value, Option.isSome_bind, any_const,
      isSome_itemOf?, and_assoc]
  | serverChat | countdown =>
    simp [PrintKind.required, PrintBody.get?, PrintField.Value, Option.isSome_bind]
  | tutorial | commandResult | adminCommandResult | unknown => simp [PrintKind.required]

/-! ### The fields that count -/

theorem playerOf?_congr (hteam : q.team = p.team) (hslot : q.slot = p.slot) :
    playerOf? w q = playerOf? w p := by
  rw [playerOf?, playerOf?, hteam, hslot]

theorem itemOf?_congr (hreceiving : q.receiving = p.receiving) (hitem : q.item = p.item) :
    itemOf? w q = itemOf? w p := by
  rw [itemOf?, itemOf?, hreceiving, hitem]

/-- **Packets of one type that agree on the fields of the type give the same line.** -/
theorem ofPrint?_congr (hkind : q.kind = p.kind)
    (h : ∀ type, p.kind = some type →
      ∀ f ∈ type.required ++ type.additional, q.get? f = p.get? f) :
    ofPrint? w q = ofPrint? w p := by
  cases htype : p.kind with
  | none => rw [ofPrint?, ofPrint?, hkind, htype]; rfl
  | some type =>
    have hfields := h type htype
    simp only [ofPrint?, hkind, htype, Option.bind_eq_bind, Option.bind_some]
    cases type with
    | chat =>
      have hmessage : q.message = p.message := hfields .message (by decide)
      rw [playerOf?_congr (hfields .team (by decide)) (hfields .slot (by decide)), hmessage]
    | join | tagsChanged =>
      have htags : q.tags = p.tags := hfields .tags (by decide)
      rw [playerOf?_congr (hfields .team (by decide)) (hfields .slot (by decide)), htags]
    | leave | goal | release | collect =>
      rw [playerOf?_congr (hfields .team (by decide)) (hfields .slot (by decide))]
    | serverChat =>
      have hmessage : q.message = p.message := hfields .message (by decide)
      rw [hmessage]
    | countdown =>
      have hcountdown : q.countdown = p.countdown := hfields .countdown (by decide)
      rw [hcountdown]
    | itemSend =>
      rw [itemOf?_congr (hfields .receiving (by decide)) (hfields .item (by decide))]
    | itemCheat =>
      have hteam : q.team = p.team := hfields .team (by decide)
      rw [itemOf?_congr (hfields .receiving (by decide)) (hfields .item (by decide)), hteam]
    | hint =>
      have hfound : q.found = p.found := hfields .found (by decide)
      rw [itemOf?_congr (hfields .receiving (by decide)) (hfields .item (by decide)), hfound]
    | tutorial | commandResult | adminCommandResult | unknown => rfl

end LineKind

namespace LogLine

/-- What the line of a packet is. -/
structure IsLineOf (line : LogLine) (w : World) (p : PrintBody) : Prop where
  /-- It is of a type if and only if the packet is and has what the type needs. -/
  type_iff : ∀ type, line.kind.type? = some type ↔ p.kind = some type ∧ p.Completes type
  /-- It is plain if the type is absent or not known, or the packet lacks something it needs. -/
  plain_iff : line.kind = .plain ↔ ∀ type, p.kind = some type → ¬p.Completes type
  /-- The fields that it shows are as the packet gives them. -/
  gives : ∀ f value, line.kind.get? f = some value → p.Gives f value
  segments_eq : line.segments = p.fragments.map (Segment.resolve w)
  text_eq : line.text.toList = line.segments.flatMap (·.text.toList)

variable {w : World} {p : PrintBody} {type : PrintKind}

/-- A line is plain for want of any other. -/
theorem ofPrint_cases (w : World) (p : PrintBody) :
    (LineKind.ofPrint? w p = none ∧ (ofPrint w p).kind = .plain) ∨
      LineKind.ofPrint? w p = some (ofPrint w p).kind := by
  rw [ofPrint]
  cases LineKind.ofPrint? w p with
  | none => exact .inl ⟨rfl, rfl⟩
  | some kind => exact .inr rfl

theorem type?_ofPrint_iff :
    (ofPrint w p).kind.type? = some type ↔ p.kind = some type ∧ p.Completes type := by
  rcases ofPrint_cases w p with ⟨hnone, hplain⟩ | hkind
  · -- Had the packet all that its type needs, there would be a line that is not plain.
    refine iff_of_false (by rw [hplain]; nofun) ?_
    rintro ⟨htype, hcomplete⟩
    rw [← LineKind.isSome_ofPrint?_iff (w := w) htype, hnone] at hcomplete
    cases hcomplete
  · rw [(LineKind.shows_of_ofPrint? hkind).1]
    refine ⟨fun htype => ⟨htype, ?_⟩, And.left⟩
    rw [← LineKind.isSome_ofPrint?_iff (w := w) htype, hkind, Option.isSome_some]

theorem plain_ofPrint_iff :
    (ofPrint w p).kind = .plain ↔ ∀ type, p.kind = some type → ¬p.Completes type := by
  rw [← LineKind.type?_eq_none_iff, Option.eq_none_iff_forall_ne_some]
  simp only [ne_eq, type?_ofPrint_iff, not_and]

/-- **The line of a packet.** It is of the packet's type exactly if the packet has the fields that
the type needs, and otherwise plain; its segments are the fragments resolved, whatever its type. A
packet that agrees with this one on the fragments, the type and the fields of the type has the same
line. -/
theorem ofPrint_isLineOf (w : World) (p : PrintBody) :
    (ofPrint w p).IsLineOf w p ∧
      ∀ q : PrintBody, q.fragments = p.fragments → q.kind = p.kind →
        (∀ type, p.kind = some type →
          ∀ f ∈ type.required ++ type.additional, q.get? f = p.get? f) →
        ofPrint w q = ofPrint w p := by
  refine ⟨⟨fun _ => type?_ofPrint_iff, plain_ofPrint_iff, ?_, rfl, ?_⟩, ?_⟩
  · intro f value hvalue
    rcases ofPrint_cases w p with ⟨-, hplain⟩ | hkind
    · rw [hplain] at hvalue
      cases hvalue
    · exact (LineKind.shows_of_ofPrint? hkind).2 f value hvalue
  · rw [text, String.toList_join, List.flatMap_map]
  · intro q hfragments hkind hfields
    rw [ofPrint, ofPrint, hfragments, LineKind.ofPrint?_congr hkind hfields]

/-- A player who joined. -/
def joined : PrintBody where
  kind := some .join
  team := some ⟨0⟩
  slot := some ⟨3⟩

/-- A message does not count where a player joins, and a team does. -/
theorem ofPrint_isLineOf_joined :
    ofPrint {} { joined with message := some "hello" } = ofPrint {} joined ∧
      (ofPrint {} { joined with team := none }).kind = .plain := by
  constructor
  · refine (ofPrint_isLineOf {} joined).2 _ rfl rfl ?_
    intro type htype f hf
    obtain rfl := Option.some.inj htype
    cases f with
    | message => exact absurd hf (by decide)
    | _ => rfl
  · refine (ofPrint_isLineOf {} { joined with team := none }).1.plain_iff.mpr ?_
    intro type htype hcomplete
    obtain rfl := Option.some.inj htype
    cases hcomplete.2 .team (by decide)

end LogLine

end Multiworld
