import Offside.Text.Printable

/-!
# Quoted texts

Listings and comparisons show a text between double quotes on one line. The
quote, the backslash and the common control characters are written with a
backslash, and every other character without a shape of its own is written as
its code point in hexadecimal digits between braces.
-/

namespace Offside.Text

/-- The written form of a character between double quotes. -/
def quotedForm (character : Char) : List Char :=
  match character with
  | '\x00' => ['\\', '0']
  | '\t' => ['\\', 't']
  | '\n' => ['\\', 'n']
  | '\r' => ['\\', 'r']
  | '"' => ['\\', '"']
  | '\\' => ['\\', '\\']
  | _ =>
      if isPrintable character then [character]
      else ['\\', 'u', '\x7b'] ++ Nat.toDigits 16 character.toNat ++ ['\x7d']

/-- A text between double quotes. -/
def quoted (text : String) : String :=
  String.ofList ('"' :: text.toList.flatMap quotedForm ++ ['"'])

end Offside.Text
