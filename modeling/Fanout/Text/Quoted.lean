import Fanout.Text.Invisible

/-!
# Quoted texts

A text inside a summary stands between double quotes.  Quotes, backslashes and
characters that show nothing are escaped, so a summary stays on one line.
-/

namespace Fanout.Text

/-- The digits of a code point in hexadecimal, in lower case. -/
def hexDigits (c : Char) : List Char := Nat.toDigits 16 c.toNat

/-- A character inside quotes. -/
def quotedChar (c : Char) : List Char :=
  match c with
  | '\x00' => ['\\', '0']
  | '\t' => ['\\', 't']
  | '\n' => ['\\', 'n']
  | '\r' => ['\\', 'r']
  | '"' => ['\\', '"']
  | '\\' => ['\\', '\\']
  | _ => if isInvisible c then ['\\', 'u', '\x7b'] ++ hexDigits c ++ ['\x7d'] else [c]

/-- **A text between quotes.** -/
def quoted (s : String) : String :=
  "\"" ++ String.ofList (s.toList.flatMap quotedChar) ++ "\""

/-- Quoted texts between square brackets. -/
def quotedList (texts : List String) : String := "[" ++ ", ".intercalate (texts.map quoted) ++ "]"

end Fanout.Text
