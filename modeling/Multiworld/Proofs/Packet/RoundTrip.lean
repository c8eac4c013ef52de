import Multiworld.Proofs.Json.Reader
import Multiworld.Proofs.Packet.Wire

/-!
# Messages, read back

The message of some packets is read as a batch of these packets in which nothing is set
aside. The reader bounds how deep brackets nest, and it reads floats in steps that round;
so a message reads back if it does not nest too deep and if the floats in its payloads do.

## Main results

* `Batch.ofElements_toJson`: the elements of a message are its packets
* `Batch.read_write`: a message reads back as its packets
-/

namespace Multiworld.Batch

open Json

/-- Whatever index is counted from, the values of packets make up a batch of these packets. -/
theorem ofElements_toJson (ps : List Packet) (index : Nat) :
    ofElements index (ps.map fun p => p.toJson.sorted) = ⟨ps, []⟩ := by
  induction ps generalizing index with
  | nil => rfl
  | cons p ps ih =>
    rw [List.map_cons, ofElements, ih (index + 1)]
    simp only [Packet.ofElement_toJson]

/-- **The message of some packets reads back as these packets**, in order, and nothing is
set aside. That a float reads back is asked only of floats that occur in the message. -/
theorem read_write (ps : List Packet)
    (hdepth : (Json.arr (ps.map Packet.toJson)).depth ≤ maxDepth)
    (hfloats : ∀ x ∈ (Json.arr (ps.map Packet.toJson)).floats, ReadsBack x) :
    read (write ps) = .ok ⟨ps, []⟩ := by
  -- The elements that are read are the values written, each with its fields in order.
  rw [read, write, readSequence_text _ hdepth hfloats, map_ok, sortedItems_eq_map, List.map_map]
  exact congrArg Except.ok (ofElements_toJson ps 0)

/-- One packet of each command. -/
def oneOfEach : List Packet :=
  [.bounce {
      slots := [⟨2⟩]
      tags := ["DeathLink"]
      data := .ofFields [("time", .num (.float (Binary64.ofFraction 3 2 (by decide)))),
        ("nested", .arr [.obj [("key", .null)], .num (.int ⟨-7, by decide, by decide⟩)])]
    },
    .bounced { games := ["Clique \"1\"\n"] },
    .print {
      fragments :=
        [{ kind := some .unknown, text := some "?", color := some (.background .red) },
          { kind := some .itemId, text := some "7", flags := some ⟨5⟩, player := some ⟨-1⟩ },
          { hintStatus := some .avoid }]
      kind := some .unknown
      item := some { item := 7, location := -3, player := ⟨1⟩ }
      tags := some []
    },
    .say "", .connectUpdate { tags := ["AP"], itemsHandling := some 7 },
    .invalidPacket { kind := "cmd", text := "no" }]

theorem read_write_oneOfEach :
    (Json.arr (oneOfEach.map Packet.toJson)).depth ≤ maxDepth ∧
      (∀ x ∈ (Json.arr (oneOfEach.map Packet.toJson)).floats, ReadsBack x) ∧
      read (write oneOfEach) = .ok ⟨oneOfEach, []⟩ := by
  have hdepth : (Json.arr (oneOfEach.map Packet.toJson)).depth ≤ maxDepth := by decide +kernel
  have hfloats : ∀ x ∈ (Json.arr (oneOfEach.map Packet.toJson)).floats, ReadsBack x := by
    decide +kernel
  exact ⟨hdepth, hfloats, read_write oneOfEach hdepth hfloats⟩

end Multiworld.Batch
