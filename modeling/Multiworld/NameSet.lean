/-!
# Sets of names

A set of names is the list of its members in increasing order, which is the order of their
UTF-8 octets. So equal sets are equal values, however they came about.

## Main definitions

* `NameSet`: an increasing list of names
* `NameSet.insert`, `NameSet.ofList`: building sets
* `NameSet.meets`: whether two sets have a common member

## Main results

* `NameSet.mem_ofList`: the members are those of the list
* `NameSet.meets_iff`: sets meet if some name is in both
-/

namespace Multiworld

/-- A set of names. -/
@[ext]
structure NameSet where
  names : List String
  increasing : names.Pairwise (· < ·)
deriving DecidableEq

namespace NameSet

/-- Puts a name into its place in an increasing list that may hold it already. -/
def insertName (name : String) : List String → List String
  | [] => [name]
  | n :: ns =>
    if name = n then n :: ns
    else if name < n then name :: n :: ns
    else n :: insertName name ns

theorem mem_insertName {a name : String} :
    ∀ {ns : List String}, a ∈ insertName name ns ↔ a = name ∨ a ∈ ns
  | [] => by simp [insertName]
  | n :: ns => by
    unfold insertName
    split
    · next h => subst h; simp
    · split
      · simp
      · simp [mem_insertName, or_left_comm]

theorem pairwise_insertName {name : String} :
    ∀ {ns : List String}, ns.Pairwise (· < ·) → (insertName name ns).Pairwise (· < ·)
  | [], _ => List.pairwise_singleton _ _
  | n :: ns, h => by
    obtain ⟨hn, hns⟩ := List.pairwise_cons.mp h
    unfold insertName
    split
    · exact h
    · split
      · next hlt =>
        refine List.pairwise_cons.mpr ⟨fun a ha => ?_, h⟩
        rcases List.mem_cons.mp ha with ha | ha
        · exact ha ▸ hlt
        · exact String.lt_trans hlt (hn a ha)
      · next hne hge =>
        have hlt : n < name := Decidable.byContradiction fun h =>
          hne (String.le_antisymm (String.not_lt.mp h) (String.not_lt.mp hge))
        refine List.pairwise_cons.mpr ⟨fun a ha => ?_, pairwise_insertName hns⟩
        rcases mem_insertName.mp ha with ha | ha
        · exact ha ▸ hlt
        · exact hn a ha

/-- The set with one more name. -/
def insert (name : String) (s : NameSet) : NameSet :=
  ⟨insertName name s.names, pairwise_insertName s.increasing⟩

/-- The set without names. -/
def empty : NameSet := ⟨[], List.Pairwise.nil⟩

/-- The set of the names in a list. -/
def ofList (names : List String) : NameSet := names.foldr insert empty

instance : Membership String NameSet := ⟨fun s name => name ∈ s.names⟩

instance (name : String) (s : NameSet) : Decidable (name ∈ s) :=
  inferInstanceAs (Decidable (name ∈ s.names))

theorem mem_insert {a name : String} {s : NameSet} : a ∈ s.insert name ↔ a = name ∨ a ∈ s :=
  mem_insertName

theorem mem_ofList {a : String} {names : List String} : a ∈ ofList names ↔ a ∈ names := by
  induction names with
  | nil => exact Iff.rfl
  | cons n ns ih => rw [List.mem_cons, ← ih]; exact mem_insert

/-- Whether two sets have a common member. -/
def meets (s t : NameSet) : Bool := s.names.any fun name => name ∈ t

theorem meets_iff {s t : NameSet} : s.meets t = true ↔ ∃ name, name ∈ s ∧ name ∈ t := by
  rw [meets, List.any_eq_true]
  exact exists_congr fun name => and_congr Iff.rfl decide_eq_true_iff

end NameSet

end Multiworld
