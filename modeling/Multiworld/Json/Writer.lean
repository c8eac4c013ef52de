import Multiworld.Json
import Multiworld.Text.Integer

/-!
# JSON text, written

Values are written without spaces. Strings escape the quote, the backslash and the
controls below the space; a float keeps its point, and has an exponent below `10^-5` and
from `10^16` on.

## Main definitions

* `Json.render`: the characters of a value
* `Json.text`: the text of a value
-/

namespace Multiworld

/-- The notation of floats: the exponents -5 to 15 are spelled out, and an integral float
keeps a point, which tells it from an integer. -/
def Json.layout : Layout where
  positional := fun e => -5 ≤ e && e < 16
  pointZero := true
  tie := .toEven

/-- The characters of a number. -/
def Num.render : Num → List Char
  | .int n => Text.integer n.val
  | .float x => Json.layout.write x

namespace Json

/-- One character inside a string. -/
def escape (c : Char) : List Char :=
  match c with
  | '"' => ['\\', '"']
  | '\\' => ['\\', '\\']
  | '\x08' => ['\\', 'b']
  | '\x0c' => ['\\', 'f']
  | '\n' => ['\\', 'n']
  | '\r' => ['\\', 'r']
  | '\t' => ['\\', 't']
  | c =>
    if c.toNat < 0x20 then
      ['\\', 'u', '0', '0', Nat.digitChar (c.toNat / 16), Nat.digitChar (c.toNat % 16)]
    else [c]

/-- A string in quotes. -/
def renderString (s : String) : List Char :=
  '"' :: (s.toList.flatMap escape ++ ['"'])

mutual

/-- The characters of a value. -/
def render : Json → List Char
  | .null => ['n', 'u', 'l', 'l']
  | .bool true => ['t', 'r', 'u', 'e']
  | .bool false => ['f', 'a', 'l', 's', 'e']
  | .num n => n.render
  | .str s => renderString s
  | .arr [] => ['[', ']']
  | .arr (j :: js) => '[' :: (j.render ++ renderItems js)
  | .obj [] => ['\x7b', '\x7d']
  | .obj ((k, v) :: rest) => '\x7b' :: (renderString k ++ ':' :: (v.render ++ renderFields rest))

/-- The items after the first, and the closing bracket. -/
def renderItems : List Json → List Char
  | [] => [']']
  | j :: js => ',' :: (j.render ++ renderItems js)

/-- The fields after the first, and the closing brace. -/
def renderFields : List (String × Json) → List Char
  | [] => ['\x7d']
  | (k, v) :: rest => ',' :: (renderString k ++ ':' :: (v.render ++ renderFields rest))

end

/-- The text of a value. -/
def text (j : Json) : String := String.ofList j.render

end Json

end Multiworld
