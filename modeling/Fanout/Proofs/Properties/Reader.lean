import Fanout.Configuration.Properties
import Fanout.Text

/-!
# Reading properties files

The rules by which the programs that are configured read their properties
files.  They are stated for *every* text and know nothing of the form that
`Properties.render` chooses: a reader meets comments, blank lines, lines that go
on on the next one, and three ways of ending a key.

## Main definitions

* `Properties.logicalLines` — the lines that carry an entry, continuations
  joined.
* `Properties.binding?` — key and value of such a line.
* `Properties.read` — the table of a text; none if an escape in it is broken.

## Design notes

Escapes stand for UTF-16 units and not for characters, so a text is first
spelled out in units (`unescape`) and put together afterwards (`chars?`).  A
surrogate without its partner is no text.
-/

namespace Fanout.Properties

/-! ## Lines -/

/-- Blanks of the format: space, tab and form feed. -/
def isGap (c : Char) : Bool := c = ' ' || c = '\t' || c = '\x0c'

/-- The text without the blanks it begins with. -/
def dropGap (l : List Char) : List Char := l.dropWhile isGap

/-- Whether a line, its leading blanks dropped, is blank or a comment. -/
def isIdle : List Char → Bool
  | [] => true
  | c :: _ => c = '#' || c = '!'

/-- **A line that goes on on the next one**, without the backslash at its end.
A backslash that another one escapes does not count. -/
def unfinished? : List Char → Option (List Char)
  | [] => none
  | c :: rest =>
    if c = '\\' then
      match rest with
      | [] => some []
      | d :: rest => (unfinished? rest).map fun l => c :: d :: l
    else (unfinished? rest).map fun l => c :: l

/-- **Lines with an entry**, each with its continuations; `pending` is what has
been read of a line that goes on. -/
def logicalLines : Option (List Char) → List (List Char) → List (List Char)
  | pending, [] => pending.toList
  | pending, line :: rest =>
    if pending.isNone && isIdle (dropGap line) then logicalLines none rest
    else
      let whole := pending.getD [] ++ dropGap line
      match unfinished? whole with
      | none => whole :: logicalLines none rest
      | some start => logicalLines (some start) rest

/-! ## Keys and values -/

/-- Whether the character ends a key. -/
def endsKey (c : Char) : Bool := c = '=' || c = ':' || isGap c

/-- The key of a line as it is written, and what stands behind it, from the
separator on. -/
def cutKey : List Char → List Char × List Char
  | [] => ([], [])
  | c :: rest =>
    if c = '\\' then
      match rest with
      | [] => ([c], [])
      | d :: rest => (c :: d :: (cutKey rest).1, (cutKey rest).2)
    else if endsKey c then ([], c :: rest)
    else (c :: (cutKey rest).1, (cutKey rest).2)

/-- What stands behind a separator: blanks, an equals sign or a colon if there
is one, and blanks again. -/
def afterSeparator (l : List Char) : List Char :=
  match dropGap l with
  | [] => []
  | c :: rest => if c = '=' || c = ':' then dropGap rest else c :: rest

/-! ## Escapes -/

/-- The value of a digit of base sixteen, in either case. -/
def hexValue? (c : Char) : Option Nat :=
  if 0x30 ≤ c.toNat ∧ c.toNat ≤ 0x39 then some (c.toNat - 0x30)
  else if 0x41 ≤ c.toNat ∧ c.toNat ≤ 0x46 then some (c.toNat - 0x37)
  else if 0x61 ≤ c.toNat ∧ c.toNat ≤ 0x66 then some (c.toNat - 0x57)
  else none

/-- The unit of four digits. -/
def unit? (a b c d : Char) : Option Nat := do
  let a ← hexValue? a
  let b ← hexValue? b
  let c ← hexValue? c
  let d ← hexValue? d
  return 0x1000 * a + 0x100 * b + 0x10 * c + d

/-- The character that stands for itself or for a control behind a backslash. -/
def meaning (c : Char) : Char :=
  match c with
  | 't' => '\t'
  | 'n' => '\n'
  | 'r' => '\r'
  | 'f' => '\x0c'
  | _ => c

/-- **The UTF-16 units that a text spells out**, unless a backslash and `u` are
not followed by four digits. -/
def unescape : List Char → Option (List Nat)
  | [] => some []
  | c :: rest =>
    if c = '\\' then
      match rest with
      | [] => some []
      | d :: rest =>
        if d = 'u' then
          match rest with
          | h₁ :: h₂ :: h₃ :: h₄ :: rest =>
            (unit? h₁ h₂ h₃ h₄).bind fun unit => (unescape rest).map fun l => unit :: l
          | _ => none
        else (unescape rest).map fun l => units (meaning d) ++ l
    else (unescape rest).map fun l => units c ++ l

/-- **The characters of a list of UTF-16 units**, unless a surrogate has no
partner. -/
def chars? : List Nat → Option (List Char)
  | [] => some []
  | u :: rest =>
    if u < 0xD800 ∨ 0xDFFF < u then (chars? rest).map fun l => Char.ofNat u :: l
    else
      match rest with
      | [] => none
      | v :: rest =>
        if u < 0xDC00 ∧ 0xDC00 ≤ v ∧ v ≤ 0xDFFF then
          (chars? rest).map fun l =>
            Char.ofNat (0x10000 + (u - 0xD800) * 0x400 + (v - 0xDC00)) :: l
        else none

/-- The text that is meant by an escaped one. -/
def decode? (l : List Char) : Option String := ((unescape l).bind chars?).map String.ofList

/-! ## Files -/

/-- Key and value of a line. -/
def binding? (line : List Char) : Option (String × String) := do
  let key ← decode? (cutKey line).1
  let value ← decode? (afterSeparator (cutKey line).2)
  return (key, value)

/-- **The table of a properties file.**  Of two entries with one key the later
counts. -/
def read (text : String) : Option (SortedMap String String) :=
  ((logicalLines none (Text.pieces (· = '\n') text.toList)).mapM binding?).map SortedMap.ofList

end Fanout.Properties
