import Multiworld.Json

/-!
# Values in order

What becomes of a value when its fields are put in order: scalars stay as they are, and each
key keeps its value if no key comes twice.

## Main results

* `Json.lookup_sortedFields`: ordering keeps the value of each key
* `Json.mem_sortedFields`: ordering brings in no fields
-/

namespace Multiworld.Json

/-! ## Ordered forms -/

@[simp] theorem sorted_null : Json.null.sorted = .null := by
  rw [sorted] <;> simp

@[simp] theorem sorted_bool (b : Bool) : (Json.bool b).sorted = .bool b := by
  rw [sorted] <;> simp

@[simp] theorem sorted_num (n : Num) : (Json.num n).sorted = .num n := by
  rw [sorted] <;> simp

@[simp] theorem sorted_str (s : String) : (Json.str s).sorted = .str s := by
  rw [sorted] <;> simp

theorem sortedItems_eq_map (js : List Json) : sortedItems js = js.map sorted := by
  induction js with
  | nil => rw [sortedItems, List.map_nil]
  | cons j js ih => rw [sortedItems, ih, List.map_cons]

@[simp] theorem sorted_arr (js : List Json) : (Json.arr js).sorted = .arr (js.map sorted) := by
  rw [sorted, sortedItems_eq_map]

@[simp] theorem sorted_obj (fs : List (String × Json)) :
    (Json.obj fs).sorted = .obj (sortedFields fs []) := by
  rw [sorted]

/-! ## Fields by their keys -/

section Lookup

variable {key k : String} {v : Json} {fs gs acc : List (String × Json)}

@[simp] theorem lookup_nil : lookup key [] = none := rfl

@[simp] theorem lookup_cons : lookup key ((k, v) :: fs) = if k = key then some v else lookup key fs := rfl

@[simp] theorem lookup_append : lookup key (fs ++ gs) = (lookup key fs).or (lookup key gs) := by
  induction fs with
  | nil => rfl
  | cons f fs ih =>
    rw [List.cons_append, lookup_cons, lookup_cons, ih]
    split <;> rfl

theorem lookup_eq_none (h : key ∉ fs.map (·.1)) : lookup key fs = none := by
  induction fs with
  | nil => rfl
  | cons f fs ih =>
    rw [List.map_cons, List.mem_cons, not_or] at h
    rw [lookup_cons, if_neg (Ne.symm h.1), ih h.2]

theorem lookup_insert : lookup key (insert k v fs) = if k = key then some v else lookup key fs := by
  induction fs with
  | nil => rfl
  | cons f fs ih =>
    obtain ⟨k', v'⟩ := f
    rw [insert]
    split
    · next h =>
      subst h
      rw [lookup_cons, lookup_cons]
      split <;> rfl
    · next hne =>
      split
      · rfl
      · rw [lookup_cons, lookup_cons, ih]
        split
        · next h => rw [if_neg fun h' => hne (h'.trans h.symm)]
        · rfl

/-- Ordering keeps the value of each key, where no key comes twice. -/
theorem lookup_sortedFields_or (h : (fs.map (·.1)).Nodup) :
    lookup key (sortedFields fs acc) = ((lookup key fs).map sorted).or (lookup key acc) := by
  induction fs generalizing acc with
  | nil => rw [sortedFields, lookup, Option.map_none, Option.none_or]
  | cons f fs ih =>
    obtain ⟨k', v'⟩ := f
    rw [List.map_cons, List.nodup_cons] at h
    -- The first field joins the ordered ones, and no later one replaces it.
    rw [sortedFields, ih h.2, lookup_cons, lookup_insert]
    split
    · next hk =>
      rw [lookup_eq_none (hk ▸ h.1), Option.map_none, Option.none_or, Option.map_some, Option.some_or]
    · rfl

theorem lookup_sortedFields (h : (fs.map (·.1)).Nodup) (key : String) :
    lookup key (sortedFields fs []) = (lookup key fs).map sorted := by
  rw [lookup_sortedFields_or h, lookup, Option.or_none]

theorem mem_sortedFields {f : String × Json} (h : f ∈ sortedFields fs acc) :
    f ∈ acc ∨ ∃ g ∈ fs, f = (g.1, g.2.sorted) := by
  induction fs generalizing acc with
  | nil => exact .inl (by rwa [sortedFields] at h)
  | cons g fs ih =>
    rw [sortedFields] at h
    rcases ih h with h | ⟨g', hg', rfl⟩
    · rcases mem_insert h with rfl | h
      · exact .inr ⟨g, List.mem_cons_self, rfl⟩
      · exact .inl h
    · exact .inr ⟨g', List.mem_cons_of_mem _ hg', rfl⟩

end Lookup

end Multiworld.Json
