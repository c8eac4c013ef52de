import Multiworld.AuditLog
import Multiworld.Proofs.Text.Utf8

/-!
# What a log holds

Entries are appended one lot after another, under whatever keys. Each key has the lots that
were appended under it, in order, and the keys that have any are listed once each.

## Main definitions

* `AuditLog.appendAll`: lots of entries appended in a row
* `AuditLog.IsLogOf`: what a log holds of some lots

## Main results

* `AuditLog.entries_appendAll`: the entries under one key
* `AuditLog.isLogOf_appendAll`: lots appended to an empty log
-/

namespace Multiworld.AuditLog

/-- Appends lots of entries in a row, each under its key. -/
def appendAll (log : AuditLog) (lots : List (String × List String)) : AuditLog :=
  lots.foldl (fun log lot => log.append lot.1 lot.2) log

/-- **What a log holds of lots that were appended in a row.** -/
structure IsLogOf (log : AuditLog) (lots : List (String × List String)) : Prop where
  /-- A key has the lots appended under it, in order, and nothing of those of other keys. -/
  entries_eq : ∀ key, log.entries key = (lots.filter (·.1 = key)).flatMap (·.2)
  entries_eq_nil : ∀ key, (∀ lot ∈ lots, lot.1 ≠ key) → log.entries key = []
  /-- The keys are those with an entry. -/
  mem_keys_iff : ∀ key, key ∈ log.keys.names ↔ ∃ entry, entry ∈ log.entries key
  /-- They are listed in the order of their octets, and so each is listed once. -/
  increasing : log.keys.names.Pairwise fun a b => Text.encode a < Text.encode b

/-- A lot goes to the end of those under its key; then come the lots appended after it. -/
theorem entries_appendAll (log : AuditLog) (lots : List (String × List String)) (key : String) :
    (log.appendAll lots).entries key =
      log.entries key ++ (lots.filter (·.1 = key)).flatMap (·.2) := by
  induction lots generalizing log with
  | nil => exact (List.append_nil _).symm
  | cons lot lots ih =>
    rw [appendAll, List.foldl_cons, ← appendAll, ih, entries_append, List.append_assoc]
    by_cases hkey : lot.1 = key
    · rw [List.filter_cons, if_pos hkey, if_pos (decide_eq_true hkey), List.flatMap_cons]
    · rw [List.filter_cons, if_neg hkey, if_neg (by simpa using hkey), List.nil_append]

/-- **A log holds what was appended to it.** -/
theorem isLogOf_appendAll (lots : List (String × List String)) :
    IsLogOf (appendAll {} lots) lots := by
  have hentries (key : String) : (appendAll {} lots).entries key =
      (lots.filter (·.1 = key)).flatMap (·.2) :=
    entries_appendAll {} lots key
  refine ⟨hentries, ?_, ?_, ?_⟩
  · intro key hother
    have hnone : lots.filter (·.1 = key) = [] :=
      List.filter_eq_nil_iff.mpr fun lot hlot h => hother lot hlot (of_decide_eq_true h)
    rw [hentries, hnone, List.flatMap_nil]
  · intro key
    refine mem_keys.trans ⟨List.exists_mem_of_ne_nil _, ?_⟩
    rintro ⟨entry, hentry⟩
    exact List.ne_nil_of_mem hentry
  · exact (appendAll {} lots).keys.increasing.imp Text.encode_lt_encode

end Multiworld.AuditLog
