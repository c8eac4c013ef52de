import Multiworld.Fragment
import Multiworld.Json.Shape

/-!
# Fragments on the wire

A fragment is an object whose absent fields are left out. A colour hint is written by its
name and read by name or index, a hint state is written and read by its code; any other
value of the two counts as none, so that it never costs the line.

## Main definitions

* `Fragment.toJson`, `Fragment.ofJson`: fragments as values
-/

namespace Multiworld

namespace Json

/-- A field that is left out when there is no value. -/
def optionalField {α : Type} (key : String) (encode : α → Json) (a? : Option α) :
    List (String × Json) :=
  match a? with
  | some a => [(key, encode a)]
  | none => []

end Json

namespace WireColor

/-- The hint that a value stands for, if any. -/
def ofJson? : Json → Option WireColor
  | .num (.int n) => if 0 ≤ n.val then ofIndex? n.val.toNat else none
  | .str s => ofName? s
  | _ => none

end WireColor

namespace HintStatus

/-- The state that a value stands for, if any. -/
def ofJson? : Json → Option HintStatus
  | .num (.int n) => ofCode? n.val
  | _ => none

/-- The code of a state as a value. -/
def toJson (s : HintStatus) : Json :=
  .num (.int ⟨s.code, by cases s <;> simp [code], by cases s <;> simp [code]⟩)

end HintStatus

namespace Fragment

/-- The keys of a fragment in order. -/
def keys : List String := ["type", "text", "color", "flags", "player", "hint_status"]

/-- A fragment as a value. -/
def toJson (f : Fragment) : Json :=
  .obj
    (Json.optionalField "type" (fun k => .str k.name) f.kind ++
      Json.optionalField "text" .str f.text ++
      Json.optionalField "color" (fun c => .str c.name) f.color ++
      Json.optionalField "flags" (fun a => Json.ofUInt32 a.bits) f.flags ++
      Json.optionalField "player" (fun s => Json.ofInt32 s.number) f.player ++
      Json.optionalField "hint_status" HintStatus.toJson f.hintStatus)

/-- Checks a field. -/
def check (standing : Json.Standing) : String → Json → Except Mismatch Unit
  | "type" => Json.fits (Json.optional (Json.variant standing))
  | "text" => Json.fits (Json.optional Json.string)
  | "flags" => Json.fits (Json.optional Json.uint32)
  | "player" => Json.fits (Json.optional Json.int32)
  | _ => fun _ => .ok ()

/-- A value as a fragment. -/
def ofJson (standing : Json.Standing) : Json.Decoder Fragment := fun j => do
  let r ← Json.record standing "JsonMessagePart" keys (check standing) j
  return {
    kind := (← r.get? "type" (Json.variant standing)).map FragmentKind.ofName
    text := ← r.get? "text" Json.string
    color := (Json.lookup "color" r.fields).bind WireColor.ofJson?
    flags := (← r.get? "flags" Json.uint32).map .mk
    player := (← r.get? "player" Json.int32).map .mk
    hintStatus := (Json.lookup "hint_status" r.fields).bind HintStatus.ofJson? }

end Fragment

end Multiworld
