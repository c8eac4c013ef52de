import Multiworld.Packet.Batch
import Multiworld.Proofs.Json.Shape

/-!
# Packets, read back

Fragments, items and packets are read back from the values that they are written as. A
name that is not known reads as `unknown`, and so does the name of `unknown` itself; a
colour hint reads back by its name and a hint's state by its code.

## Main results

* `Fragment.inverts`, `NetworkItem.inverts`: fragments and items read back
* `Packet.ofElement_toJson`: packets read back
-/

namespace Multiworld

open Json

section Fields

variable {α : Type} {k : String} {encode : α → Json} {p : String × Json → Prop}

theorem Json.forall_mem_optionalField {a? : Option α} :
    (∀ f ∈ optionalField k encode a?, p f) ↔ ∀ a ∈ a?, p (k, encode a) := by
  cases a? <;> simp [optionalField]

theorem Json.forall_mem_listField {as : List α} (h : p (k, .arr (as.map encode))) :
    ∀ f ∈ listField k encode as, p f := by
  cases as with
  | nil => exact List.forall_mem_nil _
  | cons a as => exact fun f hf => List.mem_singleton.mp hf ▸ h

theorem Json.keys_optionalField (a? : Option α) :
    ((optionalField k encode a?).map (·.1)).Sublist [k] := by
  cases a? <;> simp [optionalField]

theorem Json.keys_listField (as : List α) :
    ((listField k encode as).map (·.1)).Sublist [k] := by
  cases as <;> simp [listField]

end Fields

/-! ## Names and codes -/

theorem FragmentKind.ofName_name (k : FragmentKind) : ofName k.name = k := by
  cases k <;> rfl

theorem PrintKind.ofName_name (k : PrintKind) : ofName k.name = k := by
  cases k <;> rfl

theorem Command.ofName?_name (c : Command) : ofName? c.name = some c := by
  cases c <;> rfl

/-- The names that are known are those on the wire. -/
theorem Command.known_eq : known = all.map name := rfl

/-- A packet is told of under the name that it has on the wire. -/
theorem Packet.commandName_eq (p : Packet) : p.commandName = p.command.name := by
  cases p <;> rfl

theorem Command.mem_all (c : Command) : c ∈ all := by
  cases c <;> decide

theorem Command.isKnown_name (c : Command) : isKnown c.name = true := by
  rw [isKnown, known_eq, List.contains_iff_mem]
  exact List.mem_map_of_mem c.mem_all

theorem Packet.ofNamed_name (c : Command) (fs : List (String × Json)) :
    ofNamed c.name fs = ofFields c fs := by
  rw [ofNamed, Command.ofName?_name]

theorem WireColor.ofJson?_name (c : WireColor) : ofJson? (.str c.name) = some c := by
  rcases c with (_ | _) | (_ | _) | _ | _ <;> rfl

theorem HintStatus.ofJson?_toJson (s : HintStatus) : ofJson? s.toJson = some s := by
  cases s <;> rfl

theorem HintStatus.sorted_toJson (s : HintStatus) : s.toJson.sorted = s.toJson :=
  sorted_num _

/-! ## Fragments -/

namespace Fragment

/-- The fields of a fragment. -/
def fields (f : Fragment) : List (String × Json) :=
  optionalField "type" (fun k => .str k.name) f.kind ++
    optionalField "text" .str f.text ++
    optionalField "color" (fun c => .str c.name) f.color ++
    optionalField "flags" (fun a => ofUInt32 a.bits) f.flags ++
    optionalField "player" (fun s => ofInt32 s.number) f.player ++
    optionalField "hint_status" HintStatus.toJson f.hintStatus

theorem nodup_keys (f : Fragment) : (f.fields.map (·.1)).Nodup := by
  -- Some fields may be left out; those that are there keep their order.
  have h : (f.fields.map (·.1)).Sublist ["type", "text", "color", "flags", "player", "hint_status"] := by
    simp only [fields, List.map_append]
    exact ((((keys_optionalField _).append (keys_optionalField _)).append
      (keys_optionalField _)).append (keys_optionalField _)).append (keys_optionalField _) |>.append
      (keys_optionalField _)
  exact h.nodup (by decide)

theorem check_fields (standing : Standing) (f : Fragment) :
    ∀ g ∈ f.fields, check standing g.1 g.2.sorted = .ok () := by
  simp only [fields, List.forall_mem_append, forall_mem_optionalField]
  -- A hint and a state pass whatever they are.
  exact ⟨⟨⟨⟨⟨fun k _ => (Inverts.variant standing).fits_optional k.name,
    fun s _ => Inverts.string.fits_optional s⟩, fun _ _ => rfl⟩,
    fun a _ => Inverts.uint32.fits_optional a.bits⟩,
    fun s _ => Inverts.int32.fits_optional s.number⟩, fun _ _ => rfl⟩

/-- A fragment reads back as itself. -/
theorem inverts (standing : Standing) : Inverts (ofJson standing) toJson where
  decode_encode f := by
    have hn := f.nodup_keys
    -- Each field is found by its key among those that were written.
    have hkind : (Record.written f.fields).get? "type" (Json.variant standing) =
        .ok (f.kind.map (·.name)) :=
      Record.get?_written (.variant standing) hn (by simp [fields, Function.comp_def])
    have htext : (Record.written f.fields).get? "text" Json.string = .ok f.text :=
      Record.get?_written .string hn (by simp [fields])
    have hflags : (Record.written f.fields).get? "flags" Json.uint32 =
        .ok (f.flags.map (·.bits)) :=
      Record.get?_written .uint32 hn (by simp [fields, Function.comp_def])
    have hplayer : (Record.written f.fields).get? "player" Json.int32 =
        .ok (f.player.map (·.number)) :=
      Record.get?_written .int32 hn (by simp [fields, Function.comp_def])
    -- A hint or a state that cannot be read counts as absent, so these two are looked up.
    have hcolor : (lookup "color" (Record.written f.fields).fields).bind WireColor.ofJson? =
        f.color := by
      rw [Record.lookup_written hn]
      simp [fields, Option.bind_map, Function.comp_def,
        WireColor.ofJson?_name]
    have hstatus : (lookup "hint_status" (Record.written f.fields).fields).bind
        HintStatus.ofJson? = f.hintStatus := by
      rw [Record.lookup_written hn]
      simp [fields, Option.bind_map, Function.comp_def,
        HintStatus.sorted_toJson, HintStatus.ofJson?_toJson]
    have hrecord : record standing "JsonMessagePart" keys (check standing) f.toJson.sorted =
        .ok (Record.written f.fields) := record_written (f.check_fields standing)
    rw [ofJson, hrecord, ok_bind, hkind, ok_bind, htext, ok_bind, hflags, ok_bind, hplayer, ok_bind,
      hcolor, hstatus]
    simp [Function.comp_def, FragmentKind.ofName_name]
  encode_ne_null f := by simp [toJson]

end Fragment

/-! ## Items -/

/-- A slot reads back as itself. -/
theorem Slot.inverts : Inverts ofJson toJson :=
  Inverts.int32.map fun _ => rfl

theorem Slot.fits_list (ss : List Slot) :
    fits (list Json.int32) (Json.arr (ss.map toJson)).sorted = .ok () := by
  have h := Inverts.int32.list.fits_encode (ss.map (·.number))
  rw [List.map_map] at h
  exact h

/-- A team reads back as itself. -/
theorem Team.inverts : Inverts ofJson toJson :=
  Inverts.int32.map fun _ => rfl

namespace NetworkItem

/-- The fields of an item. -/
def fields (i : NetworkItem) : List (String × Json) :=
  [("item", ofInt64 i.item), ("location", ofInt64 i.location), ("player", i.player.toJson),
    ("flags", ofUInt32 i.flags.bits)]

theorem nodup_keys (i : NetworkItem) : (i.fields.map (·.1)).Nodup := by
  simp [fields]

theorem check_fields (i : NetworkItem) : ∀ f ∈ i.fields, check f.1 f.2.sorted = .ok () := by
  simp only [fields, List.forall_mem_cons]
  exact ⟨Inverts.int64.fits_encode i.item, Inverts.int64.fits_encode i.location,
    Inverts.int32.fits_encode i.player.number, Inverts.uint32.fits_encode i.flags.bits,
    List.forall_mem_nil _⟩

/-- An item reads back as itself. -/
theorem inverts : Inverts ofJson toJson where
  decode_encode i := by
    have hn := i.nodup_keys
    have hitem : (Record.written i.fields).need "item" Json.int64 = .ok i.item :=
      Record.need_written .int64 hn (by simp [fields])
    have hlocation : (Record.written i.fields).need "location" Json.int64 = .ok i.location :=
      Record.need_written .int64 hn (by simp [fields])
    have hplayer : (Record.written i.fields).need "player" Slot.ofJson = .ok i.player :=
      Record.need_written Slot.inverts hn (by simp [fields])
    have hflags : (Record.written i.fields).get "flags" Json.uint32 0 = .ok i.flags.bits :=
      Record.get_written .uint32 hn (by simp [fields])
    have hrecord : record .inPacket "NetworkItem" keys check i.toJson.sorted =
        .ok (Record.written i.fields) := record_written i.check_fields
    rw [ofJson, hrecord, ok_bind, hitem, ok_bind, hlocation, ok_bind, hplayer, ok_bind, hflags,
      ok_bind, pure_eq_ok]
  encode_ne_null i := by simp [toJson]

end NetworkItem

/-! ## Bodies -/

section Bodies

variable (c : Json)

namespace BounceBody

theorem nodup_keys (b : BounceBody) : ((("cmd", c) :: b.fields).map (·.1)).Nodup := by
  have h : (b.fields.map (·.1)).Sublist ["games", "slots", "tags", "data"] := by
    simp only [fields, List.map_append]
    exact (((keys_listField _).append (keys_listField _)).append (keys_listField _)).append
      (List.Sublist.refl _)
  exact (h.cons_cons "cmd").nodup (by decide)

theorem check_fields (b : BounceBody) :
    ∀ f ∈ ("cmd", c) :: b.fields, check f.1 f.2.sorted = .ok () := by
  simp only [fields, List.forall_mem_cons, List.forall_mem_append]
  exact ⟨rfl, ⟨⟨forall_mem_listField (Inverts.string.list.fits_encode b.games),
    forall_mem_listField (Slot.fits_list b.slots)⟩,
    forall_mem_listField (Inverts.string.list.fits_encode b.tags)⟩,
    Inverts.payload.fits_encode b.data, List.forall_mem_nil _⟩

theorem ofRecord_written (b : BounceBody) :
    ofRecord (Record.written (("cmd", c) :: b.fields)) = .ok b := by
  have hn := b.nodup_keys c
  have hgames : (Record.written (("cmd", c) :: b.fields)).get "games" (list string) [] =
      .ok b.games :=
    Record.get_list_written .string hn (by simp [fields])
  have hslots : (Record.written (("cmd", c) :: b.fields)).get "slots" (list Slot.ofJson) [] =
      .ok b.slots :=
    Record.get_list_written Slot.inverts hn (by simp [fields])
  have htags : (Record.written (("cmd", c) :: b.fields)).get "tags" (list string) [] =
      .ok b.tags :=
    Record.get_list_written .string hn (by simp [fields])
  have hdata : (Record.written (("cmd", c) :: b.fields)).get "data" payload default = .ok b.data :=
    Record.get_written .payload hn (by simp [fields])
  rw [ofRecord, hgames, ok_bind, hslots, ok_bind, htags, ok_bind, hdata, ok_bind, pure_eq_ok]

end BounceBody

namespace PrintBody

theorem nodup_keys (b : PrintBody) : ((("cmd", c) :: b.fields).map (·.1)).Nodup := by
  have h : (b.fields.map (·.1)).Sublist ["data", "type", "receiving", "item", "found", "team",
      "slot", "message", "tags", "countdown"] := by
    simp only [fields, List.map_append, List.map_cons]
    exact ((((((((keys_optionalField _).append (keys_optionalField _)).append
      (keys_optionalField _)).append (keys_optionalField _)).append (keys_optionalField _)).append
      (keys_optionalField _)).append (keys_optionalField _)).append (keys_optionalField _)).append
      (keys_optionalField _) |>.cons_cons "data"
  exact (h.cons_cons "cmd").nodup (by decide)

theorem check_fields (b : PrintBody) :
    ∀ f ∈ ("cmd", c) :: b.fields, check f.1 f.2.sorted = .ok () := by
  simp only [fields, List.forall_mem_cons, List.forall_mem_append, forall_mem_optionalField]
  exact ⟨rfl, (Fragment.inverts .inPacket).list.fits_encode b.fragments,
    ⟨⟨⟨⟨⟨⟨⟨fun k _ => (Inverts.variant .inPacket).fits_optional k.name,
    fun s _ => Inverts.int32.fits_optional s.number⟩,
    fun i _ => NetworkItem.inverts.fits_optional i⟩,
    fun b _ => Inverts.boolean.fits_optional b⟩,
    fun t _ => Inverts.int32.fits_optional t.number⟩,
    fun s _ => Inverts.int32.fits_optional s.number⟩,
    fun m _ => Inverts.string.fits_optional m⟩,
    fun ts _ => Inverts.string.list.fits_optional ts⟩,
    fun n _ => Inverts.int64.fits_optional n⟩

theorem ofRecord_written (b : PrintBody) :
    ofRecord (Record.written (("cmd", c) :: b.fields)) = .ok b := by
  have hn := b.nodup_keys c
  have hdata : (Record.written (("cmd", c) :: b.fields)).need "data"
      (list (Fragment.ofJson .inPacket)) = .ok b.fragments :=
    Record.need_written (Fragment.inverts .inPacket).list hn (by simp [fields])
  -- A kind is read as a name first, whether or not it is known.
  have hkind : (Record.written (("cmd", c) :: b.fields)).get? "type" (variant .inPacket) =
      .ok (b.kind.map (·.name)) :=
    Record.get?_written (.variant .inPacket) hn (by simp [fields, Function.comp_def])
  have hreceiving : (Record.written (("cmd", c) :: b.fields)).get? "receiving" Slot.ofJson =
      .ok b.receiving :=
    Record.get?_written Slot.inverts hn (by simp [fields])
  have hitem : (Record.written (("cmd", c) :: b.fields)).get? "item" NetworkItem.ofJson =
      .ok b.item :=
    Record.get?_written NetworkItem.inverts hn (by simp [fields])
  have hfound : (Record.written (("cmd", c) :: b.fields)).get? "found" boolean = .ok b.found :=
    Record.get?_written .boolean hn (by simp [fields])
  have hteam : (Record.written (("cmd", c) :: b.fields)).get? "team" Team.ofJson = .ok b.team :=
    Record.get?_written Team.inverts hn (by simp [fields])
  have hslot : (Record.written (("cmd", c) :: b.fields)).get? "slot" Slot.ofJson = .ok b.slot :=
    Record.get?_written Slot.inverts hn (by simp [fields])
  have hmessage : (Record.written (("cmd", c) :: b.fields)).get? "message" string =
      .ok b.message :=
    Record.get?_written .string hn (by simp [fields])
  have htags : (Record.written (("cmd", c) :: b.fields)).get? "tags" (list string) = .ok b.tags :=
    Record.get?_written (Inverts.list .string) hn (by
      simp [fields]
      rfl)
  have hcountdown : (Record.written (("cmd", c) :: b.fields)).get? "countdown" int64 =
      .ok b.countdown :=
    Record.get?_written .int64 hn (by simp [fields])
  rw [ofRecord, hdata, ok_bind, hkind, ok_bind, hreceiving, ok_bind, hitem, ok_bind, hfound, ok_bind,
    hteam, ok_bind, hslot, ok_bind, hmessage, ok_bind, htags, ok_bind, hcountdown, ok_bind,
    pure_eq_ok]
  simp [Function.comp_def, PrintKind.ofName_name]

end PrintBody

namespace ConnectUpdateBody

theorem nodup_keys (b : ConnectUpdateBody) : ((("cmd", c) :: b.fields).map (·.1)).Nodup := by
  have h : (b.fields.map (·.1)).Sublist ["tags", "items_handling"] :=
    (keys_optionalField _).cons_cons "tags"
  exact (h.cons_cons "cmd").nodup (by decide)

theorem check_fields (b : ConnectUpdateBody) :
    ∀ f ∈ ("cmd", c) :: b.fields, check f.1 f.2.sorted = .ok () := by
  simp only [fields, List.forall_mem_cons, forall_mem_optionalField]
  exact ⟨rfl, Inverts.string.list.fits_encode b.tags, fun n _ => Inverts.uint8.fits_optional n⟩

theorem ofRecord_written (b : ConnectUpdateBody) :
    ofRecord (Record.written (("cmd", c) :: b.fields)) = .ok b := by
  have hn := b.nodup_keys c
  have htags : (Record.written (("cmd", c) :: b.fields)).need "tags" (list string) = .ok b.tags :=
    Record.need_written (Inverts.list .string) hn (by simp [fields, ofStrings])
  have hitems : (Record.written (("cmd", c) :: b.fields)).get? "items_handling" uint8 =
      .ok b.itemsHandling :=
    Record.get?_written .uint8 hn (by simp [fields])
  rw [ofRecord, htags, ok_bind, hitems, ok_bind, pure_eq_ok]

end ConnectUpdateBody

namespace InvalidPacketBody

theorem nodup_keys (b : InvalidPacketBody) : ((("cmd", c) :: b.fields).map (·.1)).Nodup := by
  have h : (b.fields.map (·.1)).Sublist ["type", "original_cmd", "text"] := by
    simp only [fields, List.map_cons, List.map_append]
    exact ((keys_optionalField _).append (List.Sublist.refl _)).cons_cons "type"
  exact (h.cons_cons "cmd").nodup (by decide)

theorem check_fields (b : InvalidPacketBody) :
    ∀ f ∈ ("cmd", c) :: b.fields, check f.1 f.2.sorted = .ok () := by
  simp only [fields, List.forall_mem_cons, List.forall_mem_append, forall_mem_optionalField]
  exact ⟨rfl, Inverts.string.fits_encode b.kind, fun s _ => Inverts.string.fits_optional s,
    Inverts.string.fits_encode b.text, List.forall_mem_nil _⟩

theorem ofRecord_written (b : InvalidPacketBody) :
    ofRecord (Record.written (("cmd", c) :: b.fields)) = .ok b := by
  have hn := b.nodup_keys c
  have hkind : (Record.written (("cmd", c) :: b.fields)).need "type" string = .ok b.kind :=
    Record.need_written .string hn (by simp [fields])
  have hcommand : (Record.written (("cmd", c) :: b.fields)).get? "original_cmd" string =
      .ok b.originalCommand :=
    Record.get?_written .string hn (by simp [fields])
  have htext : (Record.written (("cmd", c) :: b.fields)).need "text" string = .ok b.text :=
    Record.need_written .string hn (by simp [fields])
  rw [ofRecord, hkind, ok_bind, hcommand, ok_bind, htext, ok_bind, pure_eq_ok]

end InvalidPacketBody

end Bodies

/-! ## Packets -/

namespace Packet

/-- The fields of a packet, its command first. -/
def allFields (p : Packet) : List (String × Json) := ("cmd", .str p.command.name) :: p.fields

theorem nodup_keys (p : Packet) : (p.allFields.map (·.1)).Nodup := by
  cases p with
  | bounce body | bounced body | print body | connectUpdate body | invalidPacket body =>
    exact body.nodup_keys _
  | say text => simp [allFields, fields]

theorem check_fields (p : Packet) :
    ∀ f ∈ p.allFields, check p.command f.1 f.2.sorted = .ok () := by
  cases p with
  | bounce body | bounced body | print body | connectUpdate body | invalidPacket body =>
    exact body.check_fields _
  | say text =>
    simp only [allFields, fields, List.forall_mem_cons]
    exact ⟨rfl, Inverts.string.fits_encode text, List.forall_mem_nil _⟩

/-- The fields written for a packet make up a packet of its command, which is that packet. -/
theorem ofFields_written (p : Packet) :
    ofFields p.command (sortedFields p.allFields []) = .ok p := by
  have hn := p.nodup_keys
  -- Every field passes its check, so what is left is to read the body.
  rw [ofFields, checkFields_sortedFields p.check_fields, ok_bind]
  cases p with
  | bounce body | bounced body =>
    exact bind_eq_ok_iff.mpr ⟨body, body.ofRecord_written _, rfl⟩
  | print body => exact bind_eq_ok_iff.mpr ⟨body, body.ofRecord_written _, rfl⟩
  | connectUpdate body => exact bind_eq_ok_iff.mpr ⟨body, body.ofRecord_written _, rfl⟩
  | invalidPacket body => exact bind_eq_ok_iff.mpr ⟨body, body.ofRecord_written _, rfl⟩
  | say text =>
    have htext : (Record.written (Packet.say text).allFields).need "text" string = .ok text :=
      Record.need_written .string hn (by simp [allFields, fields])
    exact bind_eq_ok_iff.mpr ⟨text, htext, rfl⟩

/-- **A packet reads back as itself**, once its fields are in order. -/
theorem ofElement_toJson (p : Packet) : ofElement p.toJson.sorted = .ok p := by
  -- The command may have moved behind other fields, but it is still found by its key.
  have hcmd : lookup "cmd" (sortedFields p.allFields []) = some (.str p.command.name) := by
    rw [lookup_sortedFields p.nodup_keys]
    simp [allFields]
  have hjson : p.toJson.sorted = .obj (sortedFields p.allFields []) := sorted_obj _
  rw [hjson, ofElement]
  simp only [hcmd, Command.isKnown_name, ofNamed_name, ofFields_written]
  rfl

end Packet

end Multiworld
