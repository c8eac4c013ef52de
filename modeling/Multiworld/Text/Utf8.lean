/-!
# UTF-8

Octets read as characters. A failure says where the first bad sequence starts and how
many of its octets are the start of some character's encoding; if the octets end inside
such a start, the sequence is incomplete.

## Main definitions

* `Text.encode`: the octets of a text
* `Utf8Fault`: what is wrong with octets that are no text
* `Utf8.next`: the first character of some octets
* `Text.decode`: octets read as a text
-/

namespace Multiworld

/-- The first bad sequence of some octets: its index, and its length unless the octets
end inside it. -/
structure Utf8Fault where
  index : Nat
  length : Option Nat
deriving DecidableEq

namespace Utf8Fault

/-- The wording of a fault. -/
def message (e : Utf8Fault) : String :=
  match e.length with
  | some n => s!"invalid utf-8 sequence of {n} bytes from index {e.index}"
  | none => s!"incomplete utf-8 byte sequence from index {e.index}"

end Utf8Fault

namespace Utf8

/-- The first character of some octets and its size, or the length of a bad sequence. -/
inductive Next where
  | done
  | char (c : Char) (size : Nat)
  | bad (length : Option Nat)

/-- Whether an octet continues a character. -/
def isContinuation (b : UInt8) : Bool := 0x80 ≤ b && b ≤ 0xBF

/-- The six low bits of a continuing octet. -/
def low (b : UInt8) : Nat := b.toNat % 64

/-- The second octets that may follow a leading octet of a three-octet character. They
leave out longer forms and surrogates. -/
def second3 (a b : UInt8) : Bool :=
  if a = 0xE0 then 0xA0 ≤ b && b ≤ 0xBF
  else if a = 0xED then 0x80 ≤ b && b ≤ 0x9F
  else isContinuation b

/-- The second octets that may follow a leading octet of a four-octet character. They
leave out longer forms and what lies beyond the last code point. -/
def second4 (a b : UInt8) : Bool :=
  if a = 0xF0 then 0x90 ≤ b && b ≤ 0xBF
  else if a = 0xF4 then 0x80 ≤ b && b ≤ 0x8F
  else isContinuation b

/-- The first character of some octets. -/
def next : List UInt8 → Next
  | [] => .done
  | a :: rest =>
    if a < 0x80 then .char (Char.ofNat a.toNat) 1
    else if 0xC2 ≤ a && a ≤ 0xDF then
      match rest with
      | [] => .bad none
      | b :: _ =>
        if isContinuation b then .char (Char.ofNat (a.toNat % 32 * 64 + low b)) 2
        else .bad (some 1)
    else if 0xE0 ≤ a && a ≤ 0xEF then
      match rest with
      | [] => .bad none
      | [b] => if second3 a b then .bad none else .bad (some 1)
      | b :: c :: _ =>
        if !second3 a b then .bad (some 1)
        else if isContinuation c then
          .char (Char.ofNat (a.toNat % 16 * 4096 + low b * 64 + low c)) 3
        else .bad (some 2)
    else if 0xF0 ≤ a && a ≤ 0xF4 then
      match rest with
      | [] => .bad none
      | [b] => if second4 a b then .bad none else .bad (some 1)
      | [b, c] =>
        if !second4 a b then .bad (some 1)
        else if isContinuation c then .bad none else .bad (some 2)
      | b :: c :: d :: _ =>
        if !second4 a b then .bad (some 1)
        else if !isContinuation c then .bad (some 2)
        else if isContinuation d then
          .char (Char.ofNat (a.toNat % 8 * 262144 + low b * 4096 + low c * 64 + low d)) 4
        else .bad (some 3)
    else .bad (some 1)

/-- Reads octets from `index` on, with at most `fuel` characters to come. -/
def decodeFrom : (fuel index : Nat) → (acc : List Char) → List UInt8 → Except Utf8Fault (List Char)
  | 0, _, acc, _ => .ok acc.reverse
  | fuel + 1, index, acc, bytes =>
    match next bytes with
    | .done => .ok acc.reverse
    | .char c size => decodeFrom fuel (index + size) (c :: acc) (bytes.drop size)
    | .bad length => .error ⟨index, length⟩

end Utf8

namespace Text

/-- The octets of a text. -/
def encode (s : String) : List UInt8 := s.toList.flatMap String.utf8EncodeChar

/-- Octets read as a text. -/
def decode (bytes : List UInt8) : Except Utf8Fault String :=
  (Utf8.decodeFrom bytes.length 0 [] bytes).map String.ofList

end Text

end Multiworld
