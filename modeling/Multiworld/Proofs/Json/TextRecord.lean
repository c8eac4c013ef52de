import Multiworld.Json.TextRecord
import Multiworld.Proofs.Json.Skim

/-!
# Records, read from the texts of objects

However the members of an object are spelled and in whatever order they come, a record takes
from each known key what its value says and passes the others over. What remains to be read
is an invariant on the members that are still to come.

## Main definitions

* `Json.Takes`: a reader takes a text for a value, wherever the text stands
* `Json.IsRecordOf`: members in which no known key comes twice
* `Json.Given`, `Json.Pending`: what members say of a field, and what is still to be read of it

## Main results

* `Json.takes_readRecord`: an object is taken for the record that its members lead to
-/

namespace Multiworld.Json

/-! ## Values of fields -/

section Values

variable {α β : Type}

/-- A reader takes a text for a value wherever it stands, with blanks in front and nothing
behind that would go on with a number. -/
def Takes (read : Reader α) (cs : List Char) (a : α) : Prop :=
  ∀ ⦃ws more : List Char⦄, Blanks ws → EndsNumber more →
    read (ws ++ (cs ++ more)) = .ok (a, more)

theorem Takes.map {read : Reader α} {cs : List Char} {a : α} (h : Takes read cs a) (f : α → β) :
    Takes (fun cs => read cs >>= fun p => pure (f p.1, p.2)) cs (f a) :=
  fun _ _ hws hmore => bind_eq_ok_iff.mpr ⟨_, h hws hmore, rfl⟩

theorem takes_readText {s : String} {cs : List Char} (h : SpellsString s cs) :
    Takes readText cs s := by
  intro ws more hws _
  obtain ⟨rest, hrest, hread⟩ := readString_spelled h more
  rw [readText, skipBlanks_append hws, hrest, skipBlanks_cons rfl]
  exact hread

/-- The ways to spell a string that may be left out. -/
inductive SpellsOptional : Option String → List Char → Prop
  | null : SpellsOptional none ['n', 'u', 'l', 'l']
  | string {s : String} {cs : List Char} : SpellsString s cs → SpellsOptional (some s) cs

theorem takes_readOptionalText {s? : Option String} {cs : List Char} (h : SpellsOptional s? cs) :
    Takes readOptionalText cs s? := by
  intro ws more hws hmore
  cases h with
  | null =>
    rw [readOptionalText, skipBlanks_append hws]
    rfl
  | string h =>
    obtain ⟨rest, hrest, -⟩ := readString_spelled h more
    have hread := takes_readText h blanks_nil hmore
    rw [List.nil_append, hrest] at hread
    rw [readOptionalText, skipBlanks_append hws, hrest, skipBlanks_cons rfl]
    simp [hread]

/-- The way to spell an unsigned integer of 64 bits. -/
def SpellsUInt64 (n : UInt64) (cs : List Char) : Prop := cs = Nat.toDigits 10 n.toNat

theorem integer_natCast (n : Nat) : Text.integer n = Nat.toDigits 10 n := by
  rw [Text.integer, if_neg (by omega), Int.natAbs_natCast]

theorem takes_readUInt64 {n : UInt64} {cs : List Char} (h : SpellsUInt64 n cs) :
    Takes readUInt64 cs n := by
  intro ws more hws hmore
  obtain ⟨c, rest, hcs, hc⟩ := integer_eq_cons n.toNat
  have hlt := n.toNat_lt
  have hread := readNum_integer ⟨n.toNat, by omega, by omega⟩ hmore
  rw [h, ← integer_natCast, hcs, List.cons_append]
  rw [hcs, List.cons_append] at hread
  rw [readUInt64, skipBlanks_append hws, skipBlanks_cons (isBlank_of_startsNumber hc),
    readUInt64.readScalarNum, if_pos hc, hread]
  simp

end Values

/-! ## Members -/

section Members

variable {σ : Type} {fields : List (TextField σ)} {fuel : Nat} {comma : Bool} {k : String}
  {seen : List String} {s s' : σ} {sep key more rest : List Char}

theorem readKey_string (hsep : Separates comma sep) {cs : List Char}
    (hcs : skipBlanks cs = '"' :: rest) (hread : readString rest = .ok (k, more)) :
    readKey (!comma) (sep ++ cs) = .ok (some k, more) := by
  cases hsep with
  | first =>
    rw [List.nil_append, readKey, hcs]
    simp [hread]
  | next hblanks =>
    rw [readKey, skipBlanks_concat hblanks rfl]
    simp [hcs, hread]

theorem spellsKey_renderString (k : String) : SpellsKey k (renderString k ++ [':']) :=
  ⟨[], renderString k, [], blanks_nil, spellsString_renderString k, blanks_nil, rfl⟩

/-- The key of a member in front of a text. -/
theorem readKey_spelled (hsep : Separates comma sep) (hkey : SpellsKey k key) (more : List Char) :
    ∃ rest, readKey (!comma) (sep ++ (key ++ more)) = .ok (some k, rest) ∧
      readColon rest = .ok more := by
  obtain ⟨ws, str, ws', hws, hstr, hws', rfl⟩ := hkey
  obtain ⟨rest, hrest, hread⟩ := readString_spelled hstr (ws' ++ ':' :: more)
  refine ⟨ws' ++ ':' :: more, readKey_string hsep ?_ hread, readColon_blanks hws' more⟩
  simp only [List.append_assoc, List.singleton_append]
  rw [skipBlanks_append hws, hrest, skipBlanks_cons rfl]

/-- A member with an unknown key is passed over. -/
theorem readKeyed_unknown (hsep : Separates comma sep) (hkey : SpellsKey k key)
    (hk : fields.find? (·.key = k) = none) (hskim : skim more = .ok rest) :
    readKeyed fields (fuel + 1) (!comma) seen s (sep ++ (key ++ more)) =
      readKeyed fields fuel false seen s rest := by
  obtain ⟨mid, hread, hcolon⟩ := readKey_spelled hsep hkey more
  rw [readKeyed, hread, ok_bind]
  simp only [hk, hcolon, hskim, ok_bind]

/-- A member with a known key is read by its field. -/
theorem readKeyed_known (hsep : Separates comma sep) (hkey : SpellsKey k key) {f : TextField σ}
    (hk : fields.find? (·.key = k) = some f) (hseen : k ∉ seen)
    (hread : f.read s more = .ok (s', rest)) :
    readKeyed fields (fuel + 1) (!comma) seen s (sep ++ (key ++ more)) =
      readKeyed fields fuel false (k :: seen) s' rest := by
  obtain ⟨mid, hreadKey, hcolon⟩ := readKey_spelled hsep hkey more
  rw [readKeyed, hreadKey, ok_bind]
  simp only [hk, if_neg hseen, hcolon, hread, ok_bind]

theorem readKeyed_close {ws : List Char} (hws : Blanks ws) (first : Bool) (more : List Char) :
    readKeyed fields (fuel + 1) first seen s (ws ++ ['\x7d'] ++ more) = .ok (s, more) := by
  rw [readKeyed, readKey, skipBlanks_concat hws rfl]
  rfl

theorem IsMembers.length_lt {ms : List (String × List Char)} {cs : List Char}
    (h : IsMembers comma ms cs) : ms.length < cs.length := by
  induction h with
  | close _ => simp
  | @member comma k sep key ws v rest ms _ hkey _ _ ih =>
    obtain ⟨ws', str, ws'', -, -, -, rfl⟩ := hkey
    simp only [List.length_cons, List.length_append] at ih ⊢
    omega

theorem IsMembers.endsNumber {ms : List (String × List Char)} {cs : List Char}
    (h : IsMembers true ms cs) (more : List Char) : EndsNumber (cs ++ more) := by
  cases h with
  | close hws => exact Blanks.endsNumber_concat hws (by decide) more
  | member hsep _ _ _ =>
    rw [List.append_assoc]
    exact hsep.endsNumber _

theorem isMembers_renderFields (fs : List (String × Json)) :
    IsMembers true (fs.map fun f => (f.1, f.2.render)) (renderFields fs) := by
  induction fs with
  | nil => exact .close blanks_nil
  | cons f fs ih =>
    have hmember := IsMembers.member (v := f.2.render) (.next blanks_nil)
      (spellsKey_renderString f.1) blanks_nil ih
    simpa [renderFields] using hmember

/-- What is written for an object is a text of it. -/
theorem isObject_render (fs : List (String × Json)) :
    IsObject (fs.map fun f => (f.1, f.2.render)) (Json.obj fs).render := by
  match fs with
  | [] => exact ⟨['\x7d'], .close blanks_nil, rfl⟩
  | f :: fs =>
    refine ⟨renderString f.1 ++ ':' :: (f.2.render ++ renderFields fs), ?_, by simp [render]⟩
    have hmember := IsMembers.member (v := f.2.render) .first (spellsKey_renderString f.1)
      blanks_nil (isMembers_renderFields fs)
    simpa using hmember

end Members

/-! ## Records -/

section Records

variable {σ α : Type} {ms : List (String × List Char)} {k key : String} {v : List Char}
  {keys : List String}

/-- Members that an object may hold for a record: no known key comes twice, and what comes
with another key is some value. -/
structure IsRecordOf (keys : List String) (ms : List (String × List Char)) : Prop where
  once : ∀ k ∈ keys, (ms.map (·.1)).count k ≤ 1
  others : ∀ m ∈ ms, m.1 ∉ keys → IsValue m.2

theorem IsRecordOf.tail (h : IsRecordOf keys ((k, v) :: ms)) : IsRecordOf keys ms where
  once l hl := Nat.le_trans List.count_le_count_cons (h.once l hl)
  others m hm := h.others m (List.mem_cons_of_mem _ hm)

theorem IsRecordOf.notMem (h : IsRecordOf keys ((k, v) :: ms)) (hk : k ∈ keys) :
    ∀ m ∈ ms, m.1 ≠ k := by
  have hcount := h.once k hk
  rw [List.map_cons, List.count_cons_self, Nat.succ_le_succ_iff, Nat.le_zero] at hcount
  rintro m hm rfl
  exact List.count_eq_zero.mp hcount (List.mem_map_of_mem hm)

theorem IsRecordOf.unique (h : IsRecordOf keys ms) (hk : k ∈ keys) {w : List Char}
    (hv : (k, v) ∈ ms) (hw : (k, w) ∈ ms) : v = w := by
  induction ms with
  | nil => cases hv
  | cons m ms ih =>
    rcases List.mem_cons.mp hv with rfl | hv'
    · rcases List.mem_cons.mp hw with he | hw'
      · exact (Prod.mk.inj he).2.symm
      · exact absurd rfl (h.notMem hk (k, w) hw')
    · rcases List.mem_cons.mp hw with rfl | hw'
      · exact absurd rfl (h.notMem hk (k, v) hv')
      · exact ih h.tail hv' hw'

/-- Members with all known keys and no others. -/
theorem isRecordOf_of_map_eq (h : ms.map (·.1) = keys) (hkeys : keys.Nodup) :
    IsRecordOf keys ms where
  once k _ := by
    rw [h]
    exact List.nodup_iff_count.mp hkeys k
  others m hm hne := absurd (h ▸ List.mem_map_of_mem hm) hne

/-- What members give a field: none has its key, or the one that has spells the value. -/
def Given (ms : List (String × List Char)) (key : String) (Spells : α → List Char → Prop) :
    Option α → Prop
  | none => ∀ m ∈ ms, m.1 ≠ key
  | some a => ∃ v, (key, v) ∈ ms ∧ Spells a v

theorem Given.imp {β : Type} {Spells : α → List Char → Prop} {Spells' : β → List Char → Prop}
    {f : α → β} {a? : Option α} (h : Given ms key Spells a?)
    (hf : ∀ a cs, Spells a cs → Spells' (f a) cs) : Given ms key Spells' (a?.map f) := by
  cases a? with
  | none => exact h
  | some a =>
    obtain ⟨v, hv, ha⟩ := h
    exact ⟨v, hv, hf a v ha⟩

/-- What is still to be read of a field that ends up with `target`: members with its key
spell that, and without one it has come. -/
structure Pending (ms : List (String × List Char)) (key : String)
    (Spells : α → List Char → Prop) (target current : α) : Prop where
  spelled : ∀ v, (key, v) ∈ ms → Spells target v
  settled : (∀ m ∈ ms, m.1 ≠ key) → current = target

section Pending

variable {Spells : α → List Char → Prop} {target current : α}

/-- At first, what is given is to be read, and what is not given stays. -/
theorem Given.pending (hrecord : IsRecordOf keys ms) (hkey : key ∈ keys) {a? : Option α}
    (h : Given ms key Spells a?) : Pending ms key Spells (a?.getD current) current := by
  cases a? with
  | none => exact ⟨fun v hv => (h _ hv rfl).elim, fun _ => rfl⟩
  | some a =>
    obtain ⟨v, hv, ha⟩ := h
    exact ⟨fun w hw => hrecord.unique hkey hv hw ▸ ha, fun hms => (hms _ hv rfl).elim⟩

theorem Pending.other (h : Pending ((k, v) :: ms) key Spells target current) (hk : k ≠ key) :
    Pending ms key Spells target current where
  spelled w hw := h.spelled w (List.mem_cons_of_mem _ hw)
  settled hms := h.settled (List.forall_mem_cons.mpr ⟨hk, hms⟩)

theorem Pending.read (h : Pending ((k, v) :: ms) key Spells target current) :
    Pending ms key Spells target target where
  spelled w hw := h.spelled w (List.mem_cons_of_mem _ hw)
  settled _ := rfl

theorem Pending.done (h : Pending [] key Spells target current) : current = target :=
  h.settled (by simp)

end Pending

/-- What holds of the members to come and the record so far, and is kept by every member,
holds at the end of the object. -/
theorem readKeyed_members {fields : List (TextField σ)}
    {P : List (String × List Char) → σ → Prop}
    (hknown : ∀ f ∈ fields, ∀ v ms s, P ((f.key, v) :: ms) s →
      ∃ s', Takes (f.read s) v s' ∧ P ms s')
    (hother : ∀ k v ms s, k ∉ fields.map (·.key) → P ((k, v) :: ms) s → P ms s)
    {comma : Bool} {cs : List Char} (h : IsMembers comma ms cs)
    (hrecord : IsRecordOf (fields.map (·.key)) ms) {fuel : Nat} {seen : List String} {s : σ}
    (hfuel : ms.length < fuel) (hseen : ∀ m ∈ ms, m.1 ∉ seen) (hP : P ms s) (more : List Char) :
    ∃ s', readKeyed fields fuel (!comma) seen s (cs ++ more) = .ok (s', more) ∧ P [] s' := by
  induction h generalizing fuel seen s with
  | close hws =>
    obtain ⟨fuel, rfl⟩ := Nat.exists_eq_succ_of_ne_zero (Nat.ne_zero_of_lt hfuel)
    exact ⟨s, readKeyed_close hws _ more, hP⟩
  | @member comma k sep key ws v rest ms hsep hkey hws hrest ih =>
    obtain ⟨fuel, rfl⟩ := Nat.exists_eq_succ_of_ne_zero (Nat.ne_zero_of_lt hfuel)
    obtain ⟨hk, hseen'⟩ := List.forall_mem_cons.mp hseen
    have hends := hrest.endsNumber more
    simp only [List.append_assoc]
    cases hfind : fields.find? (·.key = k) with
    | none =>
      have hk' : k ∉ fields.map (·.key) := by
        simpa using hfind
      have hskim := skim_value hws (hrecord.others _ List.mem_cons_self hk') hends
      rw [readKeyed_unknown hsep hkey hfind hskim]
      exact ih hrecord.tail (Nat.lt_of_succ_lt_succ hfuel) hseen' (hother _ _ _ _ hk' hP)
    | some f =>
      obtain rfl : f.key = k := by simpa using List.find?_some hfind
      have hf := List.mem_of_find?_eq_some hfind
      obtain ⟨s', htakes, hP'⟩ := hknown f hf _ _ _ hP
      rw [readKeyed_known hsep hkey hfind hk (htakes hws hends)]
      refine ih hrecord.tail (Nat.lt_of_succ_lt_succ hfuel) (fun m hm => ?_) hP'
      -- The key that has come does not come again.
      have hne := hrecord.notMem (List.mem_map_of_mem hf) m hm
      simp [hne, hseen' m hm]

/-- **An object is taken for the record that its members lead to.** What `P` says of the
members to come and the record so far is kept by every member, and settles the record once
no member is left. -/
theorem takes_readRecord (name : String) {fields : List (TextField σ)}
    {P : List (String × List Char) → σ → Prop} {start target : σ}
    (hknown : ∀ f ∈ fields, ∀ v ms s, P ((f.key, v) :: ms) s →
      ∃ s', Takes (f.read s) v s' ∧ P ms s')
    (hother : ∀ k v ms s, k ∉ fields.map (·.key) → P ((k, v) :: ms) s → P ms s)
    (hdone : ∀ s, P [] s → s = target) {cs : List Char} (h : IsObject ms cs)
    (hrecord : IsRecordOf (fields.map (·.key)) ms) (hP : P ms start) :
    Takes (readRecord name fields start) cs target := by
  intro ws more hws _
  obtain ⟨rest, hmembers, rfl⟩ := h
  have hfuel : ms.length < (rest ++ more).length + 1 := by
    have hlen := hmembers.length_lt
    rw [List.length_append]
    omega
  obtain ⟨s, hread, hs⟩ := readKeyed_members hknown hother hmembers hrecord hfuel
    (fun _ _ => List.not_mem_nil) hP more
  rw [readRecord, skipBlanks_append hws, List.cons_append, skipBlanks_cons rfl]
  rw [hdone s hs] at hread
  exact hread

/-- A text that is taken is read whole, with blanks around it. -/
theorem Takes.readWhole? {read : Reader σ} {cs ws ws' : List Char} {a : σ} (h : Takes read cs a)
    (hws : Blanks ws) (hws' : Blanks ws') {text : String} (ht : text.toList = ws ++ (cs ++ ws')) :
    Json.readWhole? read text = .ok a := by
  have hends : EndsNumber ws' := by
    simpa using hws'.endsNumber endsNumber_nil
  have hend : readEnd ws' = .ok () := by
    have hblanks : skipBlanks ws' = [] := List.dropWhile_eq_nil_iff.mpr hws'.isBlank
    rw [readEnd, hblanks]
  rw [Json.readWhole?, ht, h hws hends, ok_bind]
  simp only [hend, ok_bind, pure_eq_ok]

end Records

end Multiworld.Json
