import Multiworld.Proofs.Packet.Batch

/-!
# Hints that cannot be read

The colour hint of a fragment and the state of a hint may be any values. One that is not known
here counts as none: it never costs the log line that it travels in, and changes nothing else
there.

## Main definitions

* `Json.setField`: fields with the value of one key replaced
* `Fragment.strictFields`: the fields of a fragment's object that have to be right
* `Fragment.colorIn`, `Fragment.statusIn`: the hints that the fields of an object give
* `Fragment.withHints`, `PrintBody.withHints`, `Packet.withHints`: other hints, all else kept

## Main results

* `Json.checkFields_filter`, `Json.lookup_filter`: fields that pass any check can be left out
* `Json.mapM_set`: one item of a list replaced by another that reads nearly the same
* `Fragment.ofJson_withHints`: a fragment's hints apart, only its strict fields matter
* `Packet.ofElement_withHints`: other hints in a fragment give the packet with these hints
-/

namespace Multiworld

open Json

/-! ## Fields left out, and fields replaced -/

namespace Json

section Fields

variable {key k : String} {v w : Json} {fs : List (String × Json)} {p : String → Bool}
  {check : String → Json → Except Mismatch Unit}

theorem lookup_filter (h : p key = true) : lookup key (fs.filter (p ·.1)) = lookup key fs := by
  induction fs with
  | nil => rfl
  | cons f fs ih =>
    rw [List.filter_cons, lookup_cons]
    by_cases hf : p f.1 = true
    · rw [if_pos hf, lookup_cons, ih]
    · -- What is left out has another key.
      have hne : f.1 ≠ key := fun he => hf (he ▸ h)
      rw [if_neg hf, if_neg hne, ih]

theorem checkFields_filter (h : ∀ k, p k = false → ∀ v, check k v = .ok ()) :
    checkFields check (fs.filter (p ·.1)) = checkFields check fs := by
  induction fs with
  | nil => rfl
  | cons f fs ih =>
    rw [List.filter_cons, checkFields]
    by_cases hf : p f.1 = true
    · rw [if_pos hf, checkFields, ih]
    · rw [if_neg hf, ih, h _ (Bool.eq_false_iff.mpr hf), ok_bind]

/-- Fields with the value of the first one of a key replaced. -/
def setField (key : String) (value : Json) : List (String × Json) → List (String × Json)
  | [] => []
  | (k, v) :: rest => if k = key then (k, value) :: rest else (k, v) :: setField key value rest

theorem lookup_setField (h : lookup key fs = some w) : lookup key (setField key v fs) = some v := by
  induction fs with
  | nil => cases h
  | cons f fs ih =>
    rw [lookup_cons] at h
    rw [setField]
    split
    · next hk => rw [lookup_cons, if_pos hk]
    · next hk =>
      rw [if_neg hk] at h
      rw [lookup_cons, if_neg hk, ih h]

theorem lookup_setField_of_ne (h : k ≠ key) : lookup k (setField key v fs) = lookup k fs := by
  induction fs with
  | nil => rfl
  | cons f fs ih =>
    rw [setField]
    split
    · next hk => rw [lookup_cons, lookup_cons, if_neg (hk ▸ h.symm), if_neg (hk ▸ h.symm)]
    · rw [lookup_cons, lookup_cons, ih]

theorem checkFields_setField (h : lookup key fs = some w) (hcheck : check key v = check key w) :
    checkFields check (setField key v fs) = checkFields check fs := by
  induction fs with
  | nil => cases h
  | cons f fs ih =>
    rw [lookup_cons] at h
    rw [setField]
    split
    · next hk =>
      rw [if_pos hk] at h
      obtain rfl := Option.some.inj h
      rw [checkFields, checkFields, hk, hcheck]
    · next hk =>
      rw [if_neg hk] at h
      rw [checkFields, checkFields, ih h]

end Fields

/-! ## Lists with one item replaced -/

section Items

variable {α : Type} {decode : Decoder α} {items : List Json} {as : List α} {i : Nat} {j k : Json}

/-- The item at an index is read on its own. -/
theorem getElem?_of_mapM (h : items.mapM decode = .ok as) (hi : items[i]? = some j) :
    ∃ a, as[i]? = some a ∧ decode j = .ok a := by
  induction items generalizing i as with
  | nil => cases hi
  | cons item items ih =>
    rw [List.mapM_cons] at h
    obtain ⟨a, ha, h⟩ := bind_eq_ok_iff.mp h
    obtain ⟨rest, hrest, h⟩ := bind_eq_ok_iff.mp h
    obtain rfl := Except.ok.inj h
    cases i with
    | zero =>
      obtain rfl := Option.some.inj hi
      exact ⟨a, rfl, ha⟩
    | succ i =>
      rw [List.getElem?_cons_succ]
      exact ih hrest hi

/-- Where an item is replaced by one that reads as before but for `f`, so does the list. -/
theorem mapM_set {f : α → α} (hi : items[i]? = some j) (hk : decode k = (decode j).map f) :
    (items.set i k).mapM decode = (items.mapM decode).map (·.modify i f) := by
  induction items generalizing i with
  | nil => cases hi
  | cons item items ih =>
    cases i with
    | zero =>
      obtain rfl := Option.some.inj hi
      rw [List.set_cons_zero, List.mapM_cons, List.mapM_cons, hk]
      cases decode item with
      | error e => rfl
      | ok a => cases items.mapM decode <;> rfl
    | succ i =>
      rw [List.set_cons_succ, List.mapM_cons, List.mapM_cons, ih hi]
      cases decode item with
      | error e => rfl
      | ok a => cases items.mapM decode <;> rfl

end Items

end Json

/-! ## Hints and states -/

namespace WireColor

/-- A hint is given by its index in the palette, or by its name. -/
theorem ofJson?_eq_some_iff {j : Json} {c : WireColor} :
    ofJson? j = some c ↔
      (∃ n, j = .num (.int n) ∧ 0 ≤ n.val ∧ palette[n.val.toNat]? = some c) ∨ j = .str c.name := by
  constructor
  · intro h
    unfold ofJson? at h
    split at h
    · next n =>
      obtain ⟨hn, h⟩ := Option.ite_none_right_eq_some.mp h
      exact .inl ⟨n, rfl, hn, h⟩
    · next s =>
      have hname := List.find?_some h
      exact .inr (congrArg Json.str (of_decide_eq_true hname).symm)
    · cases h
  · rintro (⟨n, rfl, hn, h⟩ | rfl)
    · exact (if_pos hn).trans h
    · exact ofJson?_name c

end WireColor

namespace HintStatus

/-- A state is given by its code. -/
theorem ofJson?_eq_some_iff {j : Json} {s : HintStatus} :
    ofJson? j = some s ↔ ∃ n : WireInt, j = .num (.int n) ∧ n.val = s.code := by
  constructor
  · intro h
    unfold ofJson? at h
    split at h
    · next n =>
      have hcode := List.find?_some h
      exact ⟨n, rfl, (of_decide_eq_true hcode).symm⟩
    · cases h
  · rintro ⟨n, rfl, hn⟩
    rw [ofJson?, hn]
    cases s <;> rfl

end HintStatus

/-! ## Records with the same fields -/

namespace Json

theorem record_obj (standing : Standing) (name : String) (keys : List String)
    (check : String → Json → Except Mismatch Unit) (fs : List (String × Json)) :
    record standing name keys check (.obj fs) =
      (checkFields check fs).map fun _ => ⟨fs, .missingField⟩ := by
  rw [record]
  cases checkFields check fs <;> rfl

namespace Record

variable {α : Type} {r r' : Record} {key : String} {decode : Decoder α}

theorem get?_congr (h : lookup key r.fields = lookup key r'.fields) :
    r.get? key decode = r'.get? key decode := by
  rw [get?, get?, get, get, h]

end Record

end Json

/-! ## Fragments -/

namespace Fragment

/-- Whether a field of a fragment's object has to be right: only those of its hints need not. -/
def isStrict (key : String) : Bool := key ≠ "color" ∧ key ≠ "hint_status"

/-- The fields of a fragment's object that have to be right. -/
def strictFields (fs : List (String × Json)) : List (String × Json) := fs.filter (isStrict ·.1)

/-- The colour hint that the fields of a fragment's object give. -/
def colorIn (fs : List (String × Json)) : Option WireColor :=
  (lookup "color" fs).bind WireColor.ofJson?

/-- The state of a hint that the fields of a fragment's object give. -/
def statusIn (fs : List (String × Json)) : Option HintStatus :=
  (lookup "hint_status" fs).bind HintStatus.ofJson?

/-- A fragment with other hints. -/
def withHints (f : Fragment) (color : Option WireColor) (status : Option HintStatus) : Fragment :=
  { f with color, hintStatus := status }

section Reading

variable {standing : Standing} {f : Fragment} {fs gs : List (String × Json)}

theorem colorIn_eq_some_iff {c : WireColor} :
    colorIn fs = some c ↔
      (∃ n, lookup "color" fs = some (.num (.int n)) ∧ 0 ≤ n.val ∧
        WireColor.palette[n.val.toNat]? = some c) ∨ lookup "color" fs = some (.str c.name) := by
  simp only [colorIn, Option.bind_eq_some_iff, WireColor.ofJson?_eq_some_iff]
  constructor
  · rintro ⟨j, hj, ⟨n, rfl, hn, hc⟩ | rfl⟩
    · exact .inl ⟨n, hj, hn, hc⟩
    · exact .inr hj
  · rintro (⟨n, hj, hn, hc⟩ | hj)
    · exact ⟨_, hj, .inl ⟨n, rfl, hn, hc⟩⟩
    · exact ⟨_, hj, .inr rfl⟩

theorem statusIn_eq_some_iff {s : HintStatus} :
    statusIn fs = some s ↔
      ∃ n, lookup "hint_status" fs = some (.num (.int n)) ∧ n.val = s.code := by
  simp only [statusIn, Option.bind_eq_some_iff, HintStatus.ofJson?_eq_some_iff]
  constructor
  · rintro ⟨j, hj, n, rfl, hn⟩
    exact ⟨n, hj, hn⟩
  · rintro ⟨n, hj, hn⟩
    exact ⟨_, hj, n, rfl, hn⟩

theorem checkFields_strictFields :
    checkFields (check standing) (strictFields fs) = checkFields (check standing) fs := by
  -- A field is left out only if it belongs to a hint, and these pass whatever they are.
  refine checkFields_filter fun key hkey v => ?_
  have hlenient : key = "color" ∨ key = "hint_status" := by
    by_contra hstrict
    exact of_decide_eq_false hkey (not_or.mp hstrict)
  rcases hlenient with rfl | rfl <;> rfl

/-- The hints are looked up last, and whatever stands there, the fragment is read. -/
theorem ofJson_strictFields (standing : Standing) (fs : List (String × Json)) :
    ofJson standing (.obj fs) =
      (ofJson standing (.obj (strictFields fs))).map (·.withHints (colorIn fs) (statusIn fs)) := by
  have hget : ∀ {α : Type} (decode : Decoder α) (key : String), isStrict key = true →
      Record.get? ⟨strictFields fs, .missingField⟩ key decode =
        Record.get? ⟨fs, .missingField⟩ key decode :=
    fun decode key hkey => Record.get?_congr (lookup_filter hkey)
  rw [ofJson, ofJson, record_obj, record_obj, checkFields_strictFields]
  cases checkFields (check standing) fs with
  | error e => rfl
  | ok _ =>
    -- The fields that are left are read the same way, and the hints are put in at the end.
    simp only [map_ok, ok_bind, hget _ "type" rfl, hget _ "text" rfl, hget _ "flags" rfl,
      hget _ "player" rfl, bind_map_eq]
    rfl

/-- A fragment's hints apart, only the strict fields of its object matter. -/
theorem ofJson_withHints (standing : Standing) (h : strictFields gs = strictFields fs) :
    ofJson standing (.obj gs) =
      (ofJson standing (.obj fs)).map (·.withHints (colorIn gs) (statusIn gs)) := by
  rw [ofJson_strictFields, ofJson_strictFields standing fs, h, map_map_eq]
  rfl

/-- A fragment has the hints that the fields of its object give. -/
theorem hints_of_ofJson (h : ofJson standing (.obj fs) = .ok f) :
    f.color = colorIn fs ∧ f.hintStatus = statusIn fs := by
  rw [ofJson_strictFields] at h
  obtain ⟨g, -, rfl⟩ := map_eq_ok_iff.mp h
  exact ⟨rfl, rfl⟩

end Reading

end Fragment

/-! ## Log lines -/

namespace PrintBody

/-- A log line with other hints in the fragment at an index. -/
def withHints (b : PrintBody) (i : Nat) (color : Option WireColor) (status : Option HintStatus) :
    PrintBody :=
  { b with fragments := b.fragments.modify i (·.withHints color status) }

section Reading

variable {r s : Record} {b : PrintBody}

theorem need_of_ofRecord (h : ofRecord r = .ok b) :
    r.need "data" (list (Fragment.ofJson .inPacket)) = .ok b.fragments := by
  simp only [ofRecord, bind_eq_ok_iff] at h
  obtain ⟨fragments, hfragments, _, -, _, -, _, -, _, -, _, -, _, -, _, -, _, -, _, -, h⟩ := h
  obtain rfl := Except.ok.inj h
  exact hfragments

/-- Only the fragments of a log line are read from the field `data`. -/
theorem ofRecord_map {f : List Fragment → List Fragment}
    (hdata : s.need "data" (list (Fragment.ofJson .inPacket)) =
      (r.need "data" (list (Fragment.ofJson .inPacket))).map f)
    (hrest : ∀ key, key ≠ "data" → lookup key s.fields = lookup key r.fields) :
    ofRecord s = (ofRecord r).map fun b => { b with fragments := f b.fragments } := by
  have hget : ∀ {α : Type} (decode : Decoder α) (key : String), key ≠ "data" →
      s.get? key decode = r.get? key decode :=
    fun decode key hkey => Record.get?_congr (hrest key hkey)
  rw [ofRecord, ofRecord, hdata]
  cases r.need "data" (list (Fragment.ofJson .inPacket)) with
  | error e => rfl
  | ok fragments =>
    -- Past the fragments the same values are read from both records.
    simp only [map_ok, ok_bind, bind_map_eq, ne_eq, String.reduceEq, not_false_eq_true, hget]
    rfl

end Reading

end PrintBody

namespace Packet

/-- A packet with other hints in the fragment at an index, if it is a log line. -/
def withHints (p : Packet) (i : Nat) (color : Option WireColor) (status : Option HintStatus) :
    Packet :=
  match p with
  | .print body => .print (body.withHints i color status)
  | p => p

section Reading

variable {fields fs gs : List (String × Json)} {items : List Json} {i : Nat}

/-- Other hints in a fragment give the log line with these hints. -/
theorem ofFields_withHints (hdata : lookup "data" fields = some (.arr items))
    (hitem : items[i]? = some (.obj fs))
    (hsame : Fragment.strictFields gs = Fragment.strictFields fs) :
    ofFields .print (setField "data" (.arr (items.set i (.obj gs))) fields) =
      (ofFields .print fields).map
        (·.withHints i (Fragment.colorIn gs) (Fragment.statusIn gs)) := by
  have hlist := mapM_set hitem (Fragment.ofJson_withHints .inPacket hsame)
  have hcheck : PrintBody.check "data" (.arr (items.set i (.obj gs))) =
      PrintBody.check "data" (.arr items) := by
    simp only [PrintBody.check, fits, list, hlist, map_map_eq]
  have hbody : PrintBody.ofRecord
      ⟨setField "data" (.arr (items.set i (.obj gs))) fields, .missingField⟩ =
        (PrintBody.ofRecord ⟨fields, .missingField⟩).map
          (·.withHints i (Fragment.colorIn gs) (Fragment.statusIn gs)) := by
    refine PrintBody.ofRecord_map
      (f := (·.modify i (·.withHints (Fragment.colorIn gs) (Fragment.statusIn gs)))) ?_
      fun key hkey => lookup_setField_of_ne hkey
    simp only [Record.need, lookup_setField hdata, hdata, list, hlist]
  rw [ofFields, ofFields, check, checkFields_setField hdata hcheck]
  cases checkFields PrintBody.check fields with
  | error e => rfl
  | ok _ =>
    simp only [ok_bind, hbody]
    cases PrintBody.ofRecord ⟨fields, .missingField⟩ <;> rfl

/-- A log line has the hints of each fragment that is an object. -/
theorem hints_of_ofFields {p : Packet} (hdata : lookup "data" fields = some (.arr items))
    (hitem : items[i]? = some (.obj fs)) (h : ofFields .print fields = .ok p) :
    ∃ body f, p = .print body ∧ body.fragments[i]? = some f ∧
      f.color = Fragment.colorIn fs ∧ f.hintStatus = Fragment.statusIn fs := by
  obtain ⟨-, -, h⟩ := bind_eq_ok_iff.mp h
  obtain ⟨body, hbody, h⟩ := bind_eq_ok_iff.mp h
  obtain rfl := Except.ok.inj h
  have hlist := PrintBody.need_of_ofRecord hbody
  simp only [Record.need, hdata, list] at hlist
  obtain ⟨f, hf, hread⟩ := getElem?_of_mapM hlist hitem
  exact ⟨body, f, rfl, hf, Fragment.hints_of_ofJson hread⟩

/-- **A hint never costs a packet.** If the hints in the object of one fragment are replaced, added
or removed, the packet is read or refused as before, and all that changes in it are these hints:
those that the object now gives, whatever values stand there. -/
theorem ofElement_withHints (fields gs : List (String × Json)) (i : Nat)
    (hcmd : lookup "cmd" fields = some (.str "PrintJSON"))
    (hdata : lookup "data" fields = some (.arr items)) (hitem : items[i]? = some (.obj fs))
    (hsame : Fragment.strictFields gs = Fragment.strictFields fs) :
    ∃ color status,
      ofElement (.obj (setField "data" (.arr (items.set i (.obj gs))) fields)) =
        (ofElement (.obj fields)).map (·.withHints i color status) ∧
      (∀ p, ofElement (.obj (setField "data" (.arr (items.set i (.obj gs))) fields)) = .ok p →
        ∃ body f, p = .print body ∧ body.fragments[i]? = some f ∧
          f.color = color ∧ f.hintStatus = status) ∧
      (∀ c, color = some c ↔
        (∃ n, lookup "color" gs = some (.num (.int n)) ∧ 0 ≤ n.val ∧
          WireColor.palette[n.val.toNat]? = some c) ∨
        lookup "color" gs = some (.str c.name)) ∧
      ∀ s, status = some s ↔
        ∃ n, lookup "hint_status" gs = some (.num (.int n)) ∧ n.val = HintStatus.code s := by
  -- Another list of fragments leaves the command as it is.
  have hne : "cmd" ≠ "data" := by decide
  have hcmd' : lookup "cmd" (setField "data" (.arr (items.set i (.obj gs))) fields) =
      some (.str Command.print.name) := (lookup_setField_of_ne hne).trans hcmd
  refine ⟨Fragment.colorIn gs, Fragment.statusIn gs, ?_, fun p hp => ?_,
    fun c => Fragment.colorIn_eq_some_iff, fun s => Fragment.statusIn_eq_some_iff⟩
  · rw [ofElement_of_lookup hcmd', ofElement_of_lookup (c := .print) hcmd,
      ofFields_withHints hdata hitem hsame, mapError_map_eq]
  · rw [ofElement_of_lookup hcmd'] at hp
    have hlt : i < items.length := (List.getElem?_eq_some_iff.mp hitem).1
    exact hints_of_ofFields (lookup_setField hdata) (List.getElem?_set_self hlt)
      (mapError_eq_ok_iff.mp hp)

/-- An index that is not in the palette, and a state that is no code: the line has neither. -/
theorem ofElement_withHints_unknown :
    ofElement (.obj [("cmd", .str "PrintJSON"), ("data", .arr [.obj [("color", .num (.int
        ⟨99, by decide, by decide⟩)), ("hint_status", .str "found"), ("text", .str "a")]])]) =
      (ofElement (.obj [("cmd", .str "PrintJSON"),
        ("data", .arr [.obj [("color", .str "red"), ("text", .str "a")]])])).map
        (·.withHints 0 none none) := by
  obtain ⟨color, status, h, -, hcolor, hstatus⟩ := ofElement_withHints
    [("cmd", .str "PrintJSON"), ("data", .arr [.obj [("color", .str "red"), ("text", .str "a")]])]
    [("color", .num (.int ⟨99, by decide, by decide⟩)), ("hint_status", .str "found"),
      ("text", .str "a")] 0 rfl rfl rfl rfl
  have hnoColor : color = none := Option.eq_none_iff_forall_ne_some.mpr fun c hc => by
    rcases (hcolor c).mp hc with ⟨n, hn, -, hn'⟩ | hn
    · cases hn
      cases hn'
    · cases hn
  have hnoStatus : status = none := Option.eq_none_iff_forall_ne_some.mpr fun s hs => by
    obtain ⟨n, hn, -⟩ := (hstatus s).mp hs
    cases hn
  rw [← hnoColor, ← hnoStatus]
  exact h

end Reading

end Packet

end Multiworld
