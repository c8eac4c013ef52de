import Multiworld.NameSet

/-!
# Audit logs

An append-only log of entries under keys. Appending nothing leaves no trace of a key.

## Main definitions

* `AuditLog`: keys with their entries
* `AuditLog.append`, `AuditLog.entries`, `AuditLog.keys`

## Main results

* `AuditLog.entries_append`: entries go to the end of those under their key
* `AuditLog.append_append`: entries may be appended in two parts
* `AuditLog.mem_keys`: the keys are those with entries
-/

namespace Multiworld

/-- Keys with their entries. -/
@[ext]
structure AuditLog where
  /-- Each key and its entries, oldest first. -/
  records : List (String × List String) := []
  distinct : (records.map (·.1)).Nodup := by
    exact List.nodup_nil
  /-- A key is there only with entries. -/
  ne_nil : ∀ r ∈ records, r.2 ≠ [] := by
    exact fun _ h => absurd h List.not_mem_nil

namespace AuditLog

/-- Puts entries behind those of a key. A key that has none comes last. -/
def extend (key : String) (es : List String) :
    List (String × List String) → List (String × List String)
  | [] => [(key, es)]
  | (k, old) :: rest => if k = key then (k, old ++ es) :: rest else (k, old) :: extend key es rest

/-- The entries of a key. -/
def entriesIn (key : String) : List (String × List String) → List String
  | [] => []
  | (k, es) :: rest => if k = key then es else entriesIn key rest

section

variable {key : String} {es : List String}

theorem mem_extend {r : String × List String} :
    ∀ {records : List (String × List String)}, r ∈ extend key es records →
      r ∈ records ∨ r.1 = key ∧ ∃ old, r.2 = old ++ es
  | [], h => by
    rw [List.mem_singleton.mp h]
    exact .inr ⟨rfl, [], rfl⟩
  | (k, old) :: rest, h => by
    unfold extend at h
    split at h
    · next hk =>
      rcases List.mem_cons.mp h with rfl | h
      · exact .inr ⟨hk, old, rfl⟩
      · exact .inl (List.mem_cons_of_mem _ h)
    · rcases List.mem_cons.mp h with rfl | h
      · exact .inl List.mem_cons_self
      · exact (mem_extend h).imp_left (List.mem_cons_of_mem _)

theorem nodup_extend : ∀ {records : List (String × List String)}, (records.map (·.1)).Nodup →
    ((extend key es records).map (·.1)).Nodup
  | [], _ => List.pairwise_singleton _ _
  | (k, old) :: rest, h => by
    unfold extend
    split
    · exact h
    · next hk =>
      obtain ⟨hk', hrest⟩ := List.pairwise_cons.mp h
      refine List.pairwise_cons.mpr ⟨fun k' h' => ?_, nodup_extend hrest⟩
      obtain ⟨r, hr, rfl⟩ := List.mem_map.mp h'
      rcases mem_extend hr with hr | ⟨hr, -⟩
      · exact hk' _ (List.mem_map_of_mem hr)
      · exact hr ▸ hk

theorem extend_extend (es' : List String) : ∀ records : List (String × List String),
    extend key es' (extend key es records) = extend key (es ++ es') records
  | [] => if_pos rfl
  | (k, old) :: rest => by
    rw [extend, extend]
    split
    · next hk => rw [extend, if_pos hk, List.append_assoc]
    · next hk => rw [extend, if_neg hk, extend_extend]

theorem entriesIn_extend (k : String) : ∀ records : List (String × List String),
    entriesIn k (extend key es records) = entriesIn k records ++ if key = k then es else []
  | [] => rfl
  | (k', old) :: rest => by
    unfold extend
    split
    · next hk' =>
      subst hk'
      by_cases hk : k' = k <;> simp [entriesIn, hk]
    · next hk' =>
      by_cases hk : k' = k
      · have hne : key ≠ k := fun h => hk' (hk.trans h.symm)
        simp [entriesIn, hk, hne]
      · simpa [entriesIn, hk] using entriesIn_extend k rest

/-- A key has entries if it is there. -/
theorem entriesIn_eq_nil_iff {records : List (String × List String)}
    (h : ∀ r ∈ records, r.2 ≠ []) : entriesIn key records = [] ↔ key ∉ records.map (·.1) := by
  induction records with
  | nil => exact iff_of_true rfl List.not_mem_nil
  | cons r rest ih =>
    obtain ⟨hr, hrest⟩ := List.forall_mem_cons.mp h
    by_cases hk : r.1 = key
    · simp [entriesIn, hk, hr]
    · rw [entriesIn, if_neg hk, ih hrest, List.map_cons, List.mem_cons, not_or]
      exact (and_iff_right (Ne.symm hk)).symm

end

/-- Adds entries under a key. -/
def append (log : AuditLog) (key : String) (entries : List String) : AuditLog :=
  if h : entries = [] then log
  else
    { records := extend key entries log.records
      distinct := nodup_extend log.distinct
      ne_nil := fun r hr => by
        rcases mem_extend hr with hr | ⟨-, old, hr⟩
        · exact log.ne_nil r hr
        · rw [hr]
          exact List.append_ne_nil_of_right_ne_nil old h }

/-- The entries under a key, oldest first. -/
def entries (log : AuditLog) (key : String) : List String := entriesIn key log.records

/-- Entries go to the end of those under their key, and to no others. -/
theorem entries_append (log : AuditLog) (key : String) (es : List String) (k : String) :
    (log.append key es).entries k = log.entries k ++ if key = k then es else [] := by
  unfold append
  split
  · next h => simp [h]
  · exact entriesIn_extend k log.records

@[simp] theorem append_nil (log : AuditLog) (key : String) : log.append key [] = log :=
  dif_pos rfl

theorem append_append (log : AuditLog) (key : String) (first more : List String) :
    (log.append key first).append key more = log.append key (first ++ more) := by
  by_cases hmore : more = []
  · rw [hmore, append_nil, List.append_nil]
  · by_cases hfirst : first = []
    · rw [hfirst, append_nil, List.nil_append]
    · rw [append, append, append, dif_neg hmore, dif_neg hfirst, dif_neg (by simp [hfirst])]
      exact AuditLog.ext (extend_extend more log.records)

/-- The keys with entries, in increasing order. -/
def keys (log : AuditLog) : NameSet where
  names := (log.records.map (·.1)).mergeSort (· ≤ ·)
  increasing := by
    have hsorted : ((log.records.map (·.1)).mergeSort (· ≤ ·)).Pairwise fun a b =>
        decide (a ≤ b) = true := by
      refine List.pairwise_mergeSort (fun a b c hab hbc => ?_) (fun a b => ?_) _
      · rw [decide_eq_true_eq] at hab hbc ⊢
        exact String.le_trans hab hbc
      · simpa using String.le_total a b
    have hperm := List.mergeSort_perm (log.records.map (·.1)) (· ≤ ·)
    refine (hsorted.and (hperm.nodup_iff.mpr log.distinct)).imp fun h => ?_
    exact String.not_le.mp fun hge => h.2 (String.le_antisymm (of_decide_eq_true h.1) hge)

theorem mem_keys {log : AuditLog} {key : String} : key ∈ log.keys ↔ log.entries key ≠ [] := by
  have hperm := List.mergeSort_perm (log.records.map (·.1)) (· ≤ ·)
  rw [entries, Ne, entriesIn_eq_nil_iff log.ne_nil, Decidable.not_not]
  exact hperm.mem_iff

end AuditLog

end Multiworld
