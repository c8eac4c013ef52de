import Multiworld.Frame
import Multiworld.Link.Error

/-!
# Reassembly

Pieces of an incoming message are kept until the last one has come. A message that grows
beyond the limit is reported at once, by the piece that takes it there, and what is left of
it is passed over; the next message starts afresh.

## Main definitions

* `Assembler`: a message in progress and the limit
* `Assembler.push`: one more piece
* `Assembler.pushAll`: several of them
-/

namespace Multiworld

/-- What has come of the message in progress. -/
inductive Progress where
  | collecting (octets : List UInt8)
  /-- The message is too long, and the rest of it is passed over. -/
  | skipping
deriving DecidableEq

/-- A message in progress, and how long it may grow. -/
structure Assembler where
  max : Nat
  progress : Progress := .collecting []
deriving DecidableEq

namespace Assembler

/-- How many octets are kept. -/
def pending (a : Assembler) : Nat :=
  match a.progress with
  | .collecting octets => octets.length
  | .skipping => 0

/-- Takes one more piece, and gives the message if it was the last one. -/
def push (a : Assembler) (piece : Slice) : Except LinkError (Option String) × Assembler :=
  match a.progress with
  | .skipping => (.ok none, if piece.isFinal then { a with progress := .collecting [] } else a)
  | .collecting octets =>
    let size := octets.length + piece.octets.length
    if a.max < size then
      (.error (.messageTooLarge size a.max),
        { a with progress := if piece.isFinal then .collecting [] else .skipping })
    else if piece.isFinal then
      (((Text.decode (octets ++ piece.octets)).mapError .invalidUtf8).map some,
        { a with progress := .collecting [] })
    else (.ok none, { a with progress := .collecting (octets ++ piece.octets) })

/-- Takes pieces one by one, and gives what each of them gave. -/
def pushAll (a : Assembler) : List Slice → List (Except LinkError (Option String)) × Assembler
  | [] => ([], a)
  | piece :: rest =>
    let (result, a) := a.push piece
    let (results, a) := a.pushAll rest
    (result :: results, a)

end Assembler

end Multiworld
