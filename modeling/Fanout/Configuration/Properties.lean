import Fanout.SortedMap

/-!
# Properties files

A properties file has one line `key=value` per entry.  Characters that the
format gives a meaning to stand behind a backslash, and all characters outside
printable ASCII are written as their UTF-16 units in hexadecimal.

## Main definitions

* `Properties.escape` — one character, in a key or in a value.
* `Properties.escapeKey`, `Properties.escapeValue` — whole texts.
* `Properties.render` — the file of a table, its lines in ascending order.

## Design notes

A space has a meaning everywhere in a key but only at the start of a value,
since a reader skips blanks there and nowhere else in the value.
-/

namespace Fanout.Properties

/-! ## UTF-16 -/

/-- The UTF-16 units of a character: its code point, or a surrogate pair. -/
def units (c : Char) : List Nat :=
  if c.toNat < 0x10000 then [c.toNat]
  else [0xD800 + (c.toNat - 0x10000) / 0x400, 0xDC00 + (c.toNat - 0x10000) % 0x400]

/-- A digit of base sixteen, in upper case. -/
def hexDigit (n : Nat) : Char := if n < 10 then Char.ofNat (0x30 + n) else Char.ofNat (0x37 + n)

/-- A unit in four hexadecimal digits. -/
def hex4 (n : Nat) : List Char :=
  [hexDigit (n / 0x1000 % 16), hexDigit (n / 0x100 % 16), hexDigit (n / 0x10 % 16),
    hexDigit (n % 16)]

/-! ## Escaping -/

/-- Whether a character is printable ASCII. -/
def isPrintable (c : Char) : Bool := 0x20 ≤ c.toNat && c.toNat ≤ 0x7E

/-- **Written form of a character.**  `spaceMeans` says whether a space has a
meaning where the character stands. -/
def escape (spaceMeans : Bool) (c : Char) : List Char :=
  match c with
  | ' ' => if spaceMeans then ['\\', ' '] else [' ']
  | '\\' => ['\\', '\\']
  | '\t' => ['\\', 't']
  | '\n' => ['\\', 'n']
  | '\r' => ['\\', 'r']
  | '\x0c' => ['\\', 'f']
  | '=' | ':' | '#' | '!' => ['\\', c]
  | _ => if isPrintable c then [c] else (units c).flatMap fun unit => '\\' :: 'u' :: hex4 unit

/-- A key, in which every space has a meaning. -/
def escapeKey (key : List Char) : List Char := key.flatMap (escape true)

/-- A value, in which a space has a meaning at the start. -/
def escapeValue : List Char → List Char
  | [] => []
  | c :: rest => escape true c ++ rest.flatMap (escape false)

/-- The line of an entry. -/
def line (key value : String) : String :=
  String.ofList (escapeKey key.toList ++ '=' :: escapeValue value.toList)

/-- Whether a line may stand before another. -/
def precedes (a b : String) : Bool := (compare a b).isLE

/-- **Text of a properties file.**  The lines of all entries in ascending
order. -/
def render (entries : SortedMap String String) : String :=
  "\n".intercalate ((entries.toList.map fun e => line e.1 e.2).mergeSort precedes)

end Fanout.Properties
