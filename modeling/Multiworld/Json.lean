import Multiworld.Binary64.Layout

/-!
# JSON values

Values of the wire format. A number is an integer or a binary64 number, told apart by
how it is written; an object is a list of fields in the order in which they are written.
A *payload* is a free-form object that travels inside a packet: at every depth its keys
are distinct and in increasing order.

## Main definitions

* `Json`, `Num`, `WireInt`: values
* `Json.lookup`: the field of a key
* `Json.insert`: a field put into its place, replacing the one with the same key
* `Json.Ordered`: keys increase at every depth
* `Json.sorted`: the ordered form of a value
* `Payload`: an ordered object

## Main results

* `Json.ordered_sorted`: sorting gives an ordered value
* `Json.sorted_of_ordered`: sorting leaves an ordered value alone
-/

namespace Multiworld

/-- An integer that a literal without point and exponent denotes: one that fits into 64
bits, signed or unsigned. -/
structure WireInt where
  val : Int
  ge : -2 ^ 63 ≤ val
  lt : val < 2 ^ 64
deriving DecidableEq

/-- A number: an integer, or a binary64 number. `1` and `1.0` are different numbers. -/
inductive Num where
  | int (n : WireInt)
  | float (x : Binary64)
deriving DecidableEq

namespace Num

/-- The binary64 number nearest to a number. -/
def toBinary64 : Num → Binary64
  | .int n => Binary64.ofInt n.val (by have := n.ge; have := n.lt; omega)
  | .float x => x

end Num

/-- A JSON value. -/
inductive Json where
  | null
  | bool (b : Bool)
  | num (n : Num)
  | str (s : String)
  | arr (items : List Json)
  | obj (fields : List (String × Json))

instance : Inhabited Json := ⟨.null⟩

namespace Json

/-! ## Fields -/

/-- The first field of a key. -/
def lookup (key : String) : List (String × Json) → Option Json
  | [] => none
  | (k, v) :: rest => if k = key then some v else lookup key rest

/-- The field of a key in an object; other values have none. -/
def field? (key : String) : Json → Option Json
  | .obj fields => lookup key fields
  | _ => none

/-- Puts a field before the first greater key, in place of one with the same key. -/
def insert (key : String) (value : Json) : List (String × Json) → List (String × Json)
  | [] => [(key, value)]
  | (k, v) :: rest =>
    if key = k then (key, value) :: rest
    else if key < k then (key, value) :: (k, v) :: rest
    else (k, v) :: insert key value rest

/-! ## Order -/

mutual

/-- The keys of every object inside a value are distinct and increase. -/
def Ordered : Json → Prop
  | .arr items => OrderedItems items
  | .obj fields => OrderedFields fields
  | _ => True

/-- `Ordered` for the items of a list. -/
def OrderedItems : List Json → Prop
  | [] => True
  | j :: js => j.Ordered ∧ OrderedItems js

/-- `Ordered` for the fields of an object. -/
def OrderedFields : List (String × Json) → Prop
  | [] => True
  | (k, v) :: rest => (∀ f ∈ rest, k < f.1) ∧ v.Ordered ∧ OrderedFields rest

end

mutual

/-- The ordered form of a value: in every object a later field replaces an earlier one
with the same key. -/
def sorted : Json → Json
  | .arr items => .arr (sortedItems items)
  | .obj fields => .obj (sortedFields fields [])
  | j => j

/-- `sorted` for the items of a list. -/
def sortedItems : List Json → List Json
  | [] => []
  | j :: js => j.sorted :: sortedItems js

/-- Puts fields one by one, each in its ordered form, into fields already in order. -/
def sortedFields : List (String × Json) → List (String × Json) → List (String × Json)
  | [], acc => acc
  | (k, v) :: rest, acc => sortedFields rest (insert k v.sorted acc)

end

theorem mem_insert {key : String} {value : Json} {f : String × Json} :
    ∀ {fields : List (String × Json)}, f ∈ insert key value fields →
      f = (key, value) ∨ f ∈ fields
  | [], h => by simpa [insert] using h
  | (k, v) :: rest, h => by
    unfold insert at h
    split at h
    · rcases List.mem_cons.mp h with h | h
      · exact .inl h
      · exact .inr (List.mem_cons_of_mem _ h)
    · split at h
      · rcases List.mem_cons.mp h with h | h
        · exact .inl h
        · exact .inr h
      · rcases List.mem_cons.mp h with h | h
        · exact .inr (h ▸ List.mem_cons_self)
        · exact (mem_insert h).imp_right (List.mem_cons_of_mem _)

theorem orderedFields_insert {key : String} {value : Json} (hv : value.Ordered) :
    ∀ {fields : List (String × Json)}, OrderedFields fields →
      OrderedFields (insert key value fields)
  | [], _ => ⟨fun _ h => absurd h List.not_mem_nil, hv, trivial⟩
  | (k, v) :: rest, ⟨hk, hvk, hrest⟩ => by
    unfold insert
    split
    · next h => exact ⟨h ▸ hk, hv, hrest⟩
    · split
      · next hlt =>
        refine ⟨fun f hf => ?_, hv, hk, hvk, hrest⟩
        rcases List.mem_cons.mp hf with hf | hf
        · exact hf ▸ hlt
        · exact String.lt_trans hlt (hk f hf)
      · next hne hge =>
        have hlt : k < key := Decidable.byContradiction fun h =>
          hne (String.le_antisymm (String.not_lt.mp h) (String.not_lt.mp hge))
        refine ⟨fun f hf => ?_, hvk, orderedFields_insert hv hrest⟩
        rcases mem_insert hf with hf | hf
        · exact hf ▸ hlt
        · exact hk f hf

theorem insert_of_forall_lt {key : String} {value : Json} :
    ∀ {fields : List (String × Json)}, (∀ f ∈ fields, f.1 < key) →
      insert key value fields = fields ++ [(key, value)]
  | [], _ => rfl
  | (k, v) :: rest, h => by
    have hk : k < key := h (k, v) List.mem_cons_self
    have hne : key ≠ k := fun e => String.lt_irrefl k (e ▸ hk)
    have hlt : ¬ key < k := fun h' => String.lt_irrefl k (String.lt_trans hk h')
    unfold insert
    rw [if_neg hne, if_neg hlt,
      insert_of_forall_lt fun f hf => h f (List.mem_cons_of_mem _ hf), List.cons_append]

mutual

theorem ordered_sorted : ∀ j : Json, j.sorted.Ordered
  | .null | .bool _ | .num _ | .str _ => by simp [sorted, Ordered]
  | .arr items => by simpa [sorted, Ordered] using orderedItems_sortedItems items
  | .obj fields => by
    simpa [sorted, Ordered] using orderedFields_sortedFields fields [] trivial

theorem orderedItems_sortedItems : ∀ js : List Json, OrderedItems (sortedItems js)
  | [] => trivial
  | j :: js => ⟨ordered_sorted j, orderedItems_sortedItems js⟩

theorem orderedFields_sortedFields : ∀ fields acc : List (String × Json),
    OrderedFields acc → OrderedFields (sortedFields fields acc)
  | [], _, h => h
  | (_, v) :: rest, _, h =>
    orderedFields_sortedFields rest _ (orderedFields_insert (ordered_sorted v) h)

end

mutual

theorem sorted_of_ordered : ∀ j : Json, j.Ordered → j.sorted = j
  | .null, _ | .bool _, _ | .num _, _ | .str _, _ => by simp [sorted]
  | .arr items, h => by
    rw [Ordered] at h
    rw [sorted, sortedItems_of_ordered items h]
  | .obj fields, h => by
    rw [Ordered] at h
    rw [sorted, sortedFields_of_ordered fields [] h (by simp), List.nil_append]

theorem sortedItems_of_ordered : ∀ js : List Json, OrderedItems js → sortedItems js = js
  | [], _ => by rw [sortedItems]
  | j :: js, h => by
    rw [OrderedItems] at h
    rw [sortedItems, sorted_of_ordered j h.1, sortedItems_of_ordered js h.2]

theorem sortedFields_of_ordered : ∀ fields acc : List (String × Json),
    OrderedFields fields → (∀ f ∈ acc, ∀ g ∈ fields, f.1 < g.1) →
      sortedFields fields acc = acc ++ fields
  | [], acc, _, _ => by rw [sortedFields, List.append_nil]
  | (k, v) :: rest, acc, h, hacc => by
    rw [OrderedFields] at h
    rw [sortedFields, sorted_of_ordered v h.2.1,
      insert_of_forall_lt fun f hf => hacc f hf (k, v) List.mem_cons_self,
      sortedFields_of_ordered rest _ h.2.2, List.append_assoc]
    · rfl
    · intro f hf g hg
      rcases List.mem_append.mp hf with hf | hf
      · exact hacc f hf g (List.mem_cons_of_mem _ hg)
      · rw [List.mem_singleton.mp hf]
        exact h.1 g hg

end

end Json

/-! ## Payloads -/

/-- A free-form object: its keys are distinct and in order, at every depth. -/
@[ext]
structure Payload where
  fields : List (String × Json)
  ordered : Json.OrderedFields fields

namespace Payload

/-- The payload of fields in any order; of two with one key the later stays. -/
def ofFields (fields : List (String × Json)) : Payload :=
  ⟨Json.sortedFields fields [], Json.orderedFields_sortedFields fields [] trivial⟩

instance : Inhabited Payload := ⟨⟨[], trivial⟩⟩

/-- The field of a key. -/
def get? (p : Payload) (key : String) : Option Json := Json.lookup key p.fields

/-- A payload as a value. -/
def toJson (p : Payload) : Json := .obj p.fields

theorem ofFields_fields (p : Payload) : ofFields p.fields = p :=
  Payload.ext ((Json.sortedFields_of_ordered p.fields [] p.ordered (by simp)).trans
    (List.nil_append _))

end Payload

end Multiworld
