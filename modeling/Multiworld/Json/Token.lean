import Multiworld.Json.Fault
import Multiworld.Binary64.Literal

/-!
# Tokens of JSON text

The parts of a text that hold no value inside: blanks, the three words, strings and
numbers. A string is read by an automaton over its characters, so that every character is
looked at once and the end of the text is one case.

## Main definitions

* `Json.skipBlanks`: the text after blanks
* `Json.readWord`: the rest of a word
* `Json.readString`: a string after its opening quote
* `Json.Literal`, `Json.readLiteral`: a number as written
* `Json.Literal.significand`: the digits of a literal that count
* `Json.Literal.num?`: the number that a literal denotes
-/

namespace Multiworld.Json

/-- The four blank characters of JSON. -/
def isBlank (c : Char) : Bool := c = ' ' || c = '\t' || c = '\n' || c = '\r'

/-- The text after blanks. -/
def skipBlanks (cs : List Char) : List Char := cs.dropWhile isBlank

/-- The text after the letters that must come next. -/
def readWord : (letters : List Char) → List Char → Except Fault (List Char)
  | [], cs => .ok cs
  | _ :: _, [] => .error .cutShort
  | l :: ls, c :: cs => if c = l then readWord ls cs else .error .malformed

/-! ## Strings -/

/-- The character for a letter after a backslash. -/
def unescape? : Char → Option Char
  | '"' => some '"'
  | '\\' => some '\\'
  | '/' => some '/'
  | 'b' => some '\x08'
  | 'f' => some '\x0c'
  | 'n' => some '\n'
  | 'r' => some '\r'
  | 't' => some '\t'
  | _ => none

/-- The value of a hexadecimal digit. -/
def hexValue? (c : Char) : Option Nat :=
  if '0' ≤ c ∧ c ≤ '9' then some (c.toNat - 48)
  else if 'a' ≤ c ∧ c ≤ 'f' then some (c.toNat - 87)
  else if 'A' ≤ c ∧ c ≤ 'F' then some (c.toNat - 55)
  else none

/-- The 16-bit unit written by exactly four hexadecimal digits. -/
def unit? (ds : List Char) : Option Nat :=
  if ds.length = 4 then
    ds.foldl (fun n c => n.bind fun n => (hexValue? c).map (16 * n + ·)) (some 0)
  else none

/-- The octets that characters take. A code escape is judged once four octets of it are
there, whether they are digits or not. -/
def octets (cs : List Char) : Nat := cs.foldl (fun n c => n + c.utf8Size) 0

/-- Where a string is read: between characters, after a backslash, inside a code escape
with its digits so far (last first), or between the two halves of a surrogate pair. A
first half is kept until the second one has come. -/
inductive StringState where
  | plain
  | escaped
  | code (lead : Option Nat) (digits : List Char)
  | paired (lead : Nat)
  | pairedEscaped (lead : Nat)

/-- The first half of a surrogate pair. -/
def isLead (n : Nat) : Bool := 0xD800 ≤ n && n ≤ 0xDBFF

/-- The second half of a surrogate pair. -/
def isTrail (n : Nat) : Bool := 0xDC00 ≤ n && n ≤ 0xDFFF

/-- The character of a surrogate pair. -/
def pairChar (lead trail : Nat) : Char :=
  Char.ofNat (0x10000 + (lead - 0xD800) * 0x400 + (trail - 0xDC00))

/-- What one character does to a string being read. -/
inductive StringStep where
  | done
  | push (c : Char)
  | goto (s : StringState)
  | bad

/-- One step of the string automaton. -/
def stepString : StringState → Char → StringStep
  | .plain, c =>
    if c = '"' then .done
    else if c = '\\' then .goto .escaped
    else if c.toNat < 0x20 then .bad
    else .push c
  | .escaped, c =>
    if c = 'u' then .goto (.code none [])
    else match unescape? c with
      | some d => .push d
      | none => .bad
  | .code lead ds, c =>
    if octets (c :: ds) < 4 then .goto (.code lead (c :: ds))
    else match unit? (c :: ds).reverse, lead with
      | none, _ => .bad
      | some n, none =>
        if isTrail n then .bad else if isLead n then .goto (.paired n) else .push (Char.ofNat n)
      | some n, some lead => if isTrail n then .push (pairChar lead n) else .bad
  | .paired lead, c => if c = '\\' then .goto (.pairedEscaped lead) else .bad
  | .pairedEscaped lead, c => if c = 'u' then .goto (.code (some lead) []) else .bad

/-- Reads a string up to its closing quote; `acc` holds its characters so far, last
first. -/
def readStringFrom (acc : List Char) : StringState → Reader String
  | _, [] => .error .cutShort
  | s, c :: cs =>
    match stepString s c with
    | .done => .ok (String.ofList acc.reverse, cs)
    | .push d => readStringFrom (d :: acc) .plain cs
    | .goto s => readStringFrom acc s cs
    | .bad => .error .malformed

/-- Reads a string after its opening quote. -/
def readString : Reader String := readStringFrom [] .plain

/-! ## Numbers -/

/-- A number as written: its sign, the digits before the point, those after it, and the
exponent with its sign. -/
structure Literal where
  negative : Bool
  whole : List Char
  fraction : Option (List Char)
  exponent : Option (Bool × List Char)

/-- The digits in front of a text, at least one. -/
def readDigits (cs : List Char) : Except Fault (List Char × List Char) :=
  match cs with
  | [] => .error .cutShort
  | c :: _ =>
    if c.isDigit then .ok (cs.takeWhile Char.isDigit, cs.dropWhile Char.isDigit)
    else .error .malformed

/-- The digits before the point: a zero stands alone. -/
def readWhole (cs : List Char) : Except Fault (List Char × List Char) :=
  match cs with
  | '0' :: rest =>
    match rest with
    | c :: _ => if c.isDigit then .error .malformed else .ok (['0'], rest)
    | [] => .ok (['0'], [])
  | cs => readDigits cs

/-- The point and the digits after it, if there is a point. -/
def readFraction (cs : List Char) : Except Fault (Option (List Char) × List Char) :=
  match cs with
  | '.' :: rest => (readDigits rest).map fun (ds, rest) => (some ds, rest)
  | cs => .ok (none, cs)

/-- The exponent, if there is one. -/
def readExponent (cs : List Char) : Except Fault (Option (Bool × List Char) × List Char) :=
  match cs with
  | c :: rest =>
    if c = 'e' ∨ c = 'E' then
      match rest with
      | '-' :: rest => (readDigits rest).map fun (ds, rest) => (some (true, ds), rest)
      | '+' :: rest => (readDigits rest).map fun (ds, rest) => (some (false, ds), rest)
      | rest => (readDigits rest).map fun (ds, rest) => (some (false, ds), rest)
    else .ok (none, cs)
  | [] => .ok (none, [])

/-- A number as written, in front of a text. -/
def readLiteral (cs : List Char) : Except Fault (Literal × List Char) := do
  let (negative, cs) :=
    match cs with
    | '-' :: rest => (true, rest)
    | cs => (false, cs)
  let (whole, cs) ← readWhole cs
  let (fraction, cs) ← readFraction cs
  let (exponent, cs) ← readExponent cs
  return (⟨negative, whole, fraction, exponent⟩, cs)

/-- The integer of 64 bits, signed or unsigned. -/
def wireInt? (n : Int) : Option WireInt :=
  if h : -2 ^ 63 ≤ n ∧ n < 2 ^ 64 then some ⟨n, h.1, h.2⟩ else none

namespace Literal

/-- The value of the exponent. -/
def scale (l : Literal) : Int :=
  match l.exponent with
  | none => 0
  | some (true, ds) => -(Text.value ds : Int)
  | some (false, ds) => Text.value ds

/-- The digits that count, as a whole number of at most 64 bits, and its exponent. The digits
before the point count until one does not fit, and each of the others there adds a place;
then those behind the point count until one does not fit, each taking a place away, and the
others there are dropped. -/
def significand (l : Literal) : Nat × Int :=
  let fraction := l.fraction.getD []
  let (whole, more) := Text.appendDigits (2 ^ 64) 0 l.whole
  let (digits, dropped) := Text.appendDigits (2 ^ 64) whole fraction
  (digits, l.scale + more.length - (fraction.length - dropped.length : Nat))

/-- The float that a literal denotes; none if it is too large. -/
def float? (l : Literal) : Option Binary64 :=
  Binary64.ofDecimal? l.negative l.significand.1 l.significand.2

/-- The number that a literal denotes; none if it is too large. Without point and exponent
it is an integer if it fits into 64 bits, except for `-0`. -/
def num? (l : Literal) : Option Num :=
  let n : Int := Text.value l.whole
  if l.fraction.isNone ∧ l.exponent.isNone ∧ ¬ (l.negative ∧ n = 0) then
    match wireInt? (if l.negative then -n else n) with
    | some n => some (.int n)
    | none => l.float?.map .float
  else l.float?.map .float

end Literal

/-- Reads a number. -/
def readNum (cs : List Char) : Except Fault (Num × List Char) := do
  let (l, cs) ← readLiteral cs
  match l.num? with
  | some n => return (n, cs)
  | none => throw .malformed

end Multiworld.Json
