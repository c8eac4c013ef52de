import Multiworld.Text.Unprintable

/-!
# Quoted text

A text in double quotes, as a diagnostic shows it: the quote, the backslash and the usual
controls are escaped by a letter, every other unprintable character by its code point.

## Main definitions

* `Text.quoted`: the quoted text
-/

namespace Multiworld.Text

/-- A code point in lower-case hexadecimal. -/
def hexDigits (n : Nat) : List Char := Nat.toDigits 16 n

/-- One character inside quotes. -/
def quotedChar (c : Char) : List Char :=
  match c with
  | '"' => ['\\', '"']
  | '\\' => ['\\', '\\']
  | '\n' => ['\\', 'n']
  | '\r' => ['\\', 'r']
  | '\t' => ['\\', 't']
  | '\x00' => ['\\', '0']
  | c => if isUnprintable c then ['\\', 'u', '\x7b'] ++ hexDigits c.toNat ++ ['\x7d'] else [c]

/-- A text in double quotes. -/
def quoted (s : String) : String :=
  String.ofList ('"' :: (s.toList.flatMap quotedChar ++ ['"']))

end Multiworld.Text
