import Multiworld.Json.Skim
import Multiworld.Proofs.Json.Float

/-!
# JSON texts

Which texts are strings, numbers and values, and how the members of an object may be spelled.
A text is put together here from its parts, blanks included, and without a word on how it is
read.

A value may be any that the notation has: its numbers have no range, its code escapes need
no partner and its brackets nest to any depth. The keys of an object that is read, in
contrast, are strings with characters of their own, so half of a surrogate pair is in none
of them.

## Main definitions

* `Json.Blanks`: what may stand between two tokens
* `Json.IsString`, `Json.IsNumber`, `Json.IsValue`: strings, numbers and values as texts
* `Json.IsObject`: the texts of an object, with its keys and the texts of its values
-/

namespace Multiworld.Json

/-- What may stand between two tokens. -/
def Blanks (cs : List Char) : Prop := ∀ c ∈ cs, c ∈ [' ', '\t', '\n', '\r']

/-! ## Strings -/

/-- The texts inside a string. Any unit may stand as a code. -/
inductive IsStringBody : List Char → Prop
  | nil : IsStringBody []
  | plain {c : Char} {cs : List Char} : c ≠ '"' → c ≠ '\\' → ¬ c.toNat < 0x20 →
      IsStringBody cs → IsStringBody (c :: cs)
  | letter {l c : Char} {cs : List Char} : (l, c) ∈ letters → IsStringBody cs →
      IsStringBody ('\\' :: l :: cs)
  | code {n : Nat} {ds cs : List Char} : SpellsUnit n ds → IsStringBody cs →
      IsStringBody ('\\' :: 'u' :: (ds ++ cs))

/-- The texts that are strings. -/
def IsString (cs : List Char) : Prop := ∃ body, IsStringBody body ∧ cs = '"' :: (body ++ ['"'])

/-! ## Numbers -/

/-- Digits, at least one. -/
def IsDigits (ds : List Char) : Prop := ds ≠ [] ∧ ∀ c ∈ ds, c.isDigit = true

/-- A point with digits behind it, or nothing. -/
inductive IsFraction : List Char → Prop
  | none : IsFraction []
  | point {ds : List Char} : IsDigits ds → IsFraction ('.' :: ds)

/-- An exponent with a sign or without, or nothing. -/
inductive IsExponent : List Char → Prop
  | none : IsExponent []
  | unsigned {e : Char} {ds : List Char} : e = 'e' ∨ e = 'E' → IsDigits ds → IsExponent (e :: ds)
  | signed {e s : Char} {ds : List Char} : e = 'e' ∨ e = 'E' → s = '+' ∨ s = '-' →
      IsDigits ds → IsExponent (e :: s :: ds)

/-- The texts that are numbers without a sign. -/
inductive IsUnsigned : List Char → Prop
  | mk {whole fraction exponent : List Char} : Decimal.NoLeadingZero whole →
      (∀ c ∈ whole, c.isDigit = true) → IsFraction fraction → IsExponent exponent →
        IsUnsigned (whole ++ (fraction ++ exponent))

/-- The texts that are numbers. -/
inductive IsNumber : List Char → Prop
  | unsigned {cs : List Char} : IsUnsigned cs → IsNumber cs
  | negative {cs : List Char} : IsUnsigned cs → IsNumber ('-' :: cs)

/-! ## Values -/

/-- The texts of the values without brackets. -/
inductive IsScalar : List Char → Prop
  | isNull : IsScalar ['n', 'u', 'l', 'l']
  | isTrue : IsScalar ['t', 'r', 'u', 'e']
  | isFalse : IsScalar ['f', 'a', 'l', 's', 'e']
  | string {cs : List Char} : IsString cs → IsScalar cs
  | number {cs : List Char} : IsNumber cs → IsScalar cs

/-- The character that opens a bracket. -/
def Bracket.opening : Bracket → Char
  | .list => '['
  | .object => '\x7b'

/-- The character that closes a bracket. -/
def Bracket.closing : Bracket → Char
  | .list => ']'
  | .object => '\x7d'

/-- What stands in front of an entry of a bracket: a comma, unless it is the first. -/
inductive Separates : (comma : Bool) → List Char → Prop
  | first : Separates false []
  | next {ws : List Char} : Blanks ws → Separates true (ws ++ [','])

/-- What an entry of a bracket has in front of its value: in an object, a key and a colon. -/
inductive IsLabel : Bracket → List Char → Prop
  | item : IsLabel .list []
  | key {ws key ws' : List Char} : Blanks ws → IsString key → Blanks ws' →
      IsLabel .object (ws ++ (key ++ (ws' ++ [':'])))

mutual

/-- The texts that are values. -/
inductive IsValue : List Char → Prop
  | scalar {cs : List Char} : IsScalar cs → IsValue cs
  | bracket {cs : List Char} (b : Bracket) : IsInside b false cs → IsValue (b.opening :: cs)

/-- What is left of a bracket, its closing included; `comma` says that entries stand in
front of it. -/
inductive IsInside : Bracket → (comma : Bool) → List Char → Prop
  | close {b : Bracket} {comma : Bool} {ws : List Char} : Blanks ws →
      IsInside b comma (ws ++ [b.closing])
  | entry {b : Bracket} {comma : Bool} {sep label ws v rest : List Char} : Separates comma sep →
      IsLabel b label → Blanks ws → IsValue v → IsInside b true rest →
        IsInside b comma (sep ++ (label ++ (ws ++ (v ++ rest))))

end

/-! ## Objects -/

/-- The ways to spell a key, with its colon. -/
def SpellsKey (k : String) (cs : List Char) : Prop :=
  ∃ ws key ws', Blanks ws ∧ SpellsString k key ∧ Blanks ws' ∧ cs = ws ++ (key ++ (ws' ++ [':']))

/-- What is left of an object with the members that come in it, each a key and the text of
its value; `comma` says that others stand in front. -/
inductive IsMembers : (comma : Bool) → List (String × List Char) → List Char → Prop
  | close {comma : Bool} {ws : List Char} : Blanks ws → IsMembers comma [] (ws ++ ['\x7d'])
  | member {comma : Bool} {k : String} {sep key ws v rest : List Char}
      {ms : List (String × List Char)} : Separates comma sep → SpellsKey k key → Blanks ws →
        IsMembers true ms rest →
          IsMembers comma ((k, v) :: ms) (sep ++ (key ++ (ws ++ (v ++ rest))))

/-- The texts of an object with these members. -/
def IsObject (ms : List (String × List Char)) (cs : List Char) : Prop :=
  ∃ rest, IsMembers false ms rest ∧ cs = '\x7b' :: rest

end Multiworld.Json
