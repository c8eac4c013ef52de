import Multiworld.Fragment.Wire
import Multiworld.Packet.Wire
import Multiworld.Proofs.Json
import Multiworld.Proofs.Outcome

/-!
# Shapes, read back

A value that was read from a text has its fields in order. So what a decoder gets is the
ordered form of what an encoder gave, and a field is found in it by its key alone.

## Main definitions

* `Json.Inverts`: a decoder takes back what an encoder gave
* `Json.Record.written`: the record that is read for fields that were written

## Main results

* `Json.Inverts.list`, `Json.Inverts.payload`, … : the decoders of composites
* `Json.Record.need_written`, `Json.Record.get?_written`, … : fields of records
-/

namespace Multiworld.Json

/-! ## Fields that may be left out -/

section Lookup

variable {α : Type} {key k : String}

@[simp] theorem lookup_optionalField (encode : α → Json) (a? : Option α) :
    lookup key (optionalField k encode a?) = if k = key then a?.map encode else none := by
  cases a? <;> simp [optionalField, lookup]

@[simp] theorem lookup_listField (encode : α → Json) (as : List α) :
    lookup key (listField k encode as) =
      if k = key ∧ as ≠ [] then some (.arr (as.map encode)) else none := by
  cases as <;> simp [listField, lookup]

end Lookup

/-! ## Decoders -/

/-- A decoder takes back what an encoder gave, once that is in order. Nothing is encoded
as `null`, which stands for an absent value. -/
structure Inverts {α : Type} (decode : Decoder α) (encode : α → Json) : Prop where
  decode_encode : ∀ a, decode (encode a).sorted = .ok a
  encode_ne_null : ∀ a, (encode a).sorted ≠ .null

namespace Inverts

variable {α β : Type} {decode : Decoder α} {encode : α → Json}

theorem fits_encode (h : Inverts decode encode) (a : α) : fits decode (encode a).sorted = .ok () := by
  rw [fits, h.decode_encode, map_ok]

theorem optional_encode (h : Inverts decode encode) (a : α) :
    optional decode (encode a).sorted = .ok (some a) := by
  have hd := h.decode_encode a
  have hne := h.encode_ne_null a
  -- What is encoded is not `null`, and so is not taken for an absent value.
  unfold optional
  split
  · next he => exact absurd he hne
  · rw [hd, map_ok]

theorem fits_optional (h : Inverts decode encode) (a : α) :
    fits (optional decode) (encode a).sorted = .ok () := by
  rw [fits, h.optional_encode, map_ok]

theorem map (h : Inverts decode encode) {f : α → β} {g : β → α} (hfg : ∀ b, f (g b) = b) :
    Inverts (fun j => (decode j).map f) (fun b => encode (g b)) where
  decode_encode b := by rw [h.decode_encode, map_ok, hfg]
  encode_ne_null b := h.encode_ne_null (g b)

theorem string : Inverts Json.string Json.str where
  decode_encode s := by rw [sorted_str]; rfl
  encode_ne_null s := by simp

theorem boolean : Inverts Json.boolean Json.bool where
  decode_encode b := by rw [sorted_bool]; rfl
  encode_ne_null b := by simp

/-- The name of a case is encoded as a string. -/
theorem variant (standing : Standing) : Inverts (Json.variant standing) Json.str where
  decode_encode s := by rw [sorted_str]; rfl
  encode_ne_null s := by simp

theorem int32 : Inverts Json.int32 ofInt32 where
  decode_encode n := by
    have hn : -2 ^ 31 ≤ n.toInt ∧ n.toInt < 2 ^ 31 := ⟨n.le_toInt, n.toInt_lt⟩
    rw [ofInt32, sorted_num, Json.int32, integer, if_pos hn, map_ok, Int32.ofInt_toInt]
  encode_ne_null n := by simp [ofInt32]

theorem int64 : Inverts Json.int64 ofInt64 where
  decode_encode n := by
    have hn : -2 ^ 63 ≤ n.toInt ∧ n.toInt < 2 ^ 63 := ⟨n.le_toInt, n.toInt_lt⟩
    rw [ofInt64, sorted_num, Json.int64, integer, if_pos hn, map_ok, Int64.ofInt_toInt]
  encode_ne_null n := by simp [ofInt64]

theorem uint8 : Inverts Json.uint8 ofUInt8 where
  decode_encode n := by
    have hn : (0 : Int) ≤ n.toNat ∧ (n.toNat : Int) < 2 ^ 8 := by have := n.toNat_lt; omega
    rw [ofUInt8, ofNat64, sorted_num, Json.uint8, integer, if_pos hn, map_ok, Int.toNat_natCast,
      UInt8.ofNat_toNat]
  encode_ne_null n := by simp [ofUInt8, ofNat64]

theorem uint32 : Inverts Json.uint32 ofUInt32 where
  decode_encode n := by
    have hn : (0 : Int) ≤ n.toNat ∧ (n.toNat : Int) < 2 ^ 32 := by have := n.toNat_lt; omega
    rw [ofUInt32, ofNat64, sorted_num, Json.uint32, integer, if_pos hn, map_ok, Int.toNat_natCast,
      UInt32.ofNat_toNat]
  encode_ne_null n := by simp [ofUInt32, ofNat64]

theorem list (h : Inverts decode encode) :
    Inverts (Json.list decode) fun as => .arr (as.map encode) where
  decode_encode as := by
    rw [sorted_arr, List.map_map, Json.list]
    induction as with
    | nil => rfl
    | cons a as ih =>
      rw [List.map_cons, List.mapM_cons, Function.comp_apply, h.decode_encode, ok_bind, ih, ok_bind,
        pure_eq_ok]
  encode_ne_null as := by simp

theorem payload : Inverts Json.payload Payload.toJson where
  decode_encode p := by
    rw [Payload.toJson, sorted_obj, sortedFields_of_ordered _ _ p.ordered (by simp), List.nil_append,
      Json.payload, Payload.ofFields_fields]
  encode_ne_null p := by simp [Payload.toJson]

end Inverts

/-! ## Records -/

theorem checkFields_eq_ok {check : String → Json → Except Mismatch Unit}
    {fs : List (String × Json)} (h : ∀ f ∈ fs, check f.1 f.2 = .ok ()) :
    checkFields check fs = .ok () := by
  induction fs with
  | nil => rfl
  | cons f fs ih =>
    rw [List.forall_mem_cons] at h
    rw [checkFields, h.1, ok_bind, ih h.2]

/-- The fields of an encoded record pass the checks if each of them does on its own. -/
theorem checkFields_sortedFields {check : String → Json → Except Mismatch Unit}
    {fs : List (String × Json)} (h : ∀ f ∈ fs, check f.1 f.2.sorted = .ok ()) :
    checkFields check (sortedFields fs []) = .ok () := by
  refine checkFields_eq_ok fun f hf => ?_
  -- Every field of the ordered form is one that was written, with its value in order.
  rcases mem_sortedFields hf with hf | ⟨g, hg, rfl⟩
  · exact absurd hf List.not_mem_nil
  · exact h g hg

/-- The record that is read for fields that were written. -/
def Record.written (fs : List (String × Json)) : Record := ⟨sortedFields fs [], .missingField⟩

namespace Record

section Written

variable {α : Type} {decode : Decoder α} {encode : α → Json} {fs : List (String × Json)}
  {key : String}

theorem lookup_written (hn : (fs.map (·.1)).Nodup) (key : String) :
    lookup key (written fs).fields = (lookup key fs).map sorted :=
  lookup_sortedFields hn key

theorem need_written (hi : Inverts decode encode) (hn : (fs.map (·.1)).Nodup) {a : α}
    (h : lookup key fs = some (encode a)) : (written fs).need key decode = .ok a := by
  rw [need, lookup_written hn, h, Option.map_some]
  exact hi.decode_encode a

theorem get_written (hi : Inverts decode encode) (hn : (fs.map (·.1)).Nodup) {a default : α}
    (h : lookup key fs = some (encode a)) : (written fs).get key decode default = .ok a := by
  rw [get, lookup_written hn, h, Option.map_some]
  exact hi.decode_encode a

theorem get?_written (hi : Inverts decode encode) (hn : (fs.map (·.1)).Nodup) {a? : Option α}
    (h : lookup key fs = a?.map encode) : (written fs).get? key decode = .ok a? := by
  rw [get?, get, lookup_written hn, h]
  cases a? with
  | none => rfl
  | some a => exact hi.optional_encode a

theorem get_list_written (hi : Inverts decode encode) (hn : (fs.map (·.1)).Nodup) {as : List α}
    (h : lookup key fs = if as ≠ [] then some (.arr (as.map encode)) else none) :
    (written fs).get key (list decode) [] = .ok as := by
  rw [get, lookup_written hn, h]
  cases as with
  | nil => rfl
  | cons a as => exact hi.list.decode_encode (a :: as)

end Written

end Record

/-- A record is read from the fields that were written for it. -/
theorem record_written {standing : Standing} {name : String} {keys : List String}
    {check : String → Json → Except Mismatch Unit} {fs : List (String × Json)}
    (h : ∀ f ∈ fs, check f.1 f.2.sorted = .ok ()) :
    record standing name keys check (Json.obj fs).sorted = .ok (Record.written fs) := by
  rw [sorted_obj, record, checkFields_sortedFields h]
  rfl

end Multiworld.Json
