import Mathlib.Data.List.Nodup
import Multiworld.Proofs.DeathScope
import Multiworld.Proofs.Text.Numeral

/-!
# Keys of death notices

Scopes may have any names, and their keys are built from these, yet no two of them share one: a
key says by its end what is logged under it, and what stands in front of the end is the name of
the scope. The scope of an identity spells out team and slot with a slash between, and there is
no slash in a number.

## Main definitions

* `DeathScope.LogKey`: what is logged under a key
* `DeathScope.LogKey.text`: the key

## Main results

* `DeathScope.LogKey.text_injective`: a key says what is logged under it
* `DeathScope.name_ofIdentity`: what the scope of an identity is called
* `DeathScope.keys_apart`: different scopes share no key, and different slots no scope
-/

namespace Multiworld.DeathScope

/-! ## What a key says -/

section Keys

/-- What is logged under a key. -/
inductive LogKey where
  /-- Payloads that came in. -/
  | received (scope : DeathScope)
  /-- Payloads that went out. -/
  | sent (scope : DeathScope)
  /-- Payloads of all scopes that could not be read. -/
  | failed

/-- The key that it is logged under. -/
def LogKey.text : LogKey → String
  | .received scope => scope.receivedKey
  | .sent scope => scope.sentKey
  | .failed => failedKey

theorem receivedKey_injective : Function.Injective receivedKey :=
  fun _ _ h => congrArg mk ((String.append_left_inj _).mp h)

theorem sentKey_injective : Function.Injective sentKey :=
  fun _ _ h => congrArg mk ((String.append_left_inj _).mp h)

/-- **A key says what is logged under it**, whatever the scopes are called. -/
theorem LogKey.text_injective : Function.Injective LogKey.text := by
  intro key key' h
  cases key with
  | received scope =>
    cases key' with
    | received scope' => exact congrArg LogKey.received (receivedKey_injective h)
    | sent scope' => exact absurd h.symm (scope'.sentKey_ne_receivedKey scope)
    | failed => exact absurd h scope.receivedKey_ne_failedKey
  | sent scope =>
    cases key' with
    | received scope' => exact absurd h (scope.sentKey_ne_receivedKey scope')
    | sent scope' => exact congrArg LogKey.sent (sentKey_injective h)
    | failed => exact absurd h scope.sentKey_ne_failedKey
  | failed =>
    cases key' with
    | received scope' => exact absurd h.symm scope'.receivedKey_ne_failedKey
    | sent scope' => exact absurd h.symm scope'.sentKey_ne_failedKey
    | failed => rfl

/-- The keys of two scopes and the shared one are all different, unless the scopes are the same. -/
theorem nodup_keys_iff (scope scope' : DeathScope) :
    [scope.receivedKey, scope.sentKey, scope'.receivedKey, scope'.sentKey, failedKey].Nodup ↔
      scope ≠ scope' := by
  have hkeys : [scope.receivedKey, scope.sentKey, scope'.receivedKey, scope'.sentKey, failedKey] =
      [.received scope, .sent scope, .received scope', .sent scope', .failed].map LogKey.text := rfl
  rw [hkeys, List.nodup_map_iff LogKey.text_injective]
  simp

end Keys

/-! ## Scopes of identities -/

section Identity

/-- The scope of an identity spells out team and slot. -/
theorem name_ofIdentity (i : Identity) :
    (ofIdentity i).name =
      "team-" ++ toString i.team.number ++ "/slot-" ++ toString i.slot.number := by
  rw [ofIdentity, Text.ofList_integer, Text.ofList_integer]
  rfl

example : (ofIdentity { team := ⟨-1⟩, slot := ⟨12⟩ }).name = "team--1/slot-12" := by decide

/-- There is no slash in a number, so none in a part of the name unless its label has one. -/
theorem slash_notMem_append_integer {label : List Char} (h : '/' ∉ label) (n : Int) :
    '/' ∉ label ++ Text.integer n := by
  rw [List.mem_append, not_or]
  refine ⟨h, fun hslash => ?_⟩
  rcases Text.eq_minus_or_isDigit_of_mem_integer hslash with hminus | hdigit
  · exact absurd hminus (by decide)
  · exact absurd hdigit (by decide)

/-- The name is two parts with a slash between. -/
theorem toList_name_ofIdentity (i : Identity) :
    (ofIdentity i).name.toList =
      ("team-".toList ++ Text.integer i.team.number.toInt) ++
        '/' :: ("slot-".toList ++ Text.integer i.slot.number.toInt) := by
  simp [ofIdentity]

/-- **Identities have the same scope exactly if they have the same team and slot.** -/
theorem ofIdentity_eq_iff (i j : Identity) :
    ofIdentity i = ofIdentity j ↔ i.team = j.team ∧ i.slot = j.slot := by
  constructor
  · intro h
    have hnames := congrArg (fun scope => scope.name.toList) h
    simp only [toList_name_ofIdentity] at hnames
    -- The slash is the only one in either name, so both names are cut at the same place.
    obtain ⟨hteam, -, hslot⟩ := (List.append_cons_inj_of_notMem
      (slash_notMem_append_integer (by decide) _)
      (slash_notMem_append_integer (by decide) _)).mp hnames
    have hnumber {m n : Int32} (h : Text.integer m.toInt = Text.integer n.toInt) : m = n :=
      Int32.toInt_inj.mp (Text.integer_injective h)
    exact ⟨congrArg Team.mk (hnumber (List.append_cancel_left hteam)),
      congrArg Slot.mk (hnumber (List.append_cancel_left hslot))⟩
  · rintro ⟨hteam, hslot⟩
    rw [ofIdentity, ofIdentity, hteam, hslot]

end Identity

/-- **Different scopes share no key**, whatever they are called, and the key of payloads that could
not be read is none of theirs. The scopes of identities are different unless team and slot are the
same. -/
theorem keys_apart :
    (∀ scope scope' : DeathScope,
      [scope.receivedKey, scope.sentKey, scope'.receivedKey, scope'.sentKey, failedKey].Nodup ↔
        scope ≠ scope') ∧
    (∀ i : Identity, (ofIdentity i).name =
      "team-" ++ toString i.team.number ++ "/slot-" ++ toString i.slot.number) ∧
    ∀ i j : Identity, ofIdentity i = ofIdentity j ↔ i.team = j.team ∧ i.slot = j.slot :=
  ⟨nodup_keys_iff, name_ofIdentity, ofIdentity_eq_iff⟩

end Multiworld.DeathScope
