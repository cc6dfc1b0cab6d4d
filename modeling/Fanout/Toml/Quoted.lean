import Fanout.Toml.Mark
import Fanout.Toml.Scalar

/-!
# Quoted texts of a document

A text stands between double quotes, with escapes, or between single quotes, as
it is; three quotes let it go over several lines.

## Main definitions

* `basic`, `literal` — the rest of a text of one line, behind its first quote.
* `basicLines`, `literalLines` — the rest of a text that may have several lines.
* `quoted` — a text in any of the four forms.

## Design notes

A backslash before a character that is no escape stops reading *behind* that
character, which may be a line feed and so on the next line; everything else
stops in front of what cannot be read.
-/

namespace Fanout.Toml

/-- Whether a character may stand in a text as it is. -/
def isTextChar (c : Char) : Bool := c = '\t' || (0x20 ≤ c.toNat && c.toNat ≠ 0x7F)

/-- What a letter behind a backslash stands for. -/
def escaped? (c : Char) : Option Char :=
  match c with
  | 'b' => some '\x08'
  | 'f' => some '\x0c'
  | 'n' => some '\n'
  | 'r' => some '\r'
  | 't' => some '\t'
  | '"' => some '"'
  | '\\' => some '\\'
  | _ => none

/-- The number of digits that a letter behind a backslash asks for. -/
def escapeWidth? (c : Char) : Option Nat :=
  match c with
  | 'u' => some 4
  | 'U' => some 8
  | _ => none

/-- The character whose code point some hexadecimal digits give. -/
def scalarOf? (width : Nat) (digits : List Char) : Option Char :=
  if digits.length = width && digits.all (fun c => digitValue c < 16) then
    let n := valueIn 16 digits
    if n.isValidChar then some (Char.ofNat n) else none
  else none

/-- Puts a character in front of what is read from a rest. -/
def prepend (c : Char) (r : Reading (List Char)) : Reading (List Char) :=
  match r with
  | .ok (cs, rest) => .ok (c :: cs, rest)
  | .error place => .error place

/-- Reads a text between double quotes, after passing over `skip` digits of an
escape that has been read. -/
def basicAfter : Nat → List Mark → Reading (List Char)
  | _, [] => .error []
  | skip + 1, _ :: rest => basicAfter skip rest
  | 0, m :: rest =>
    if m.char = '"' then .ok ([], rest)
    else if m.char = '\\' then
      match rest with
      | [] => .error []
      | e :: rest =>
        match escaped? e.char, escapeWidth? e.char with
        | some c, _ => prepend c (basicAfter 0 rest)
        | none, some width =>
          match scalarOf? width ((rest.take width).map Mark.char) with
          | some c => prepend c (basicAfter width rest)
          | none => .error rest
        | none, none => .error rest
    else if isTextChar m.char then prepend m.char (basicAfter 0 rest)
    else .error (m :: rest)

/-- Reads a text between double quotes, behind the first of them. -/
def basic (ms : List Mark) : Reading (List Char) := basicAfter 0 ms

/-- Reads a text between single quotes, behind the first of them. -/
def literal : List Mark → Reading (List Char)
  | [] => .error []
  | m :: rest =>
    if m.char = '\'' then .ok ([], rest)
    else if isTextChar m.char then prepend m.char (literal rest)
    else .error (m :: rest)

/-! ## Texts of several lines -/

/-- Passes over three quotes that end a text; up to two more in front of them
belong to it. -/
def closing? (quote : Char) (ms : List Mark) : Option (List Char × List Mark) :=
  let run := (ms.takeWhile fun m => m.char == quote).length
  if run < 3 then none
  else
    let kept := min (run - 3) 2
    some (List.replicate kept quote, ms.drop (kept + 3))

/-- Whether only blanks are left on the line. -/
def isLineOver (ms : List Mark) : Bool := (lineEnd? (skipSpace ms)).isSome

/-- Reads a text between triple double quotes.  After passing over `skip` digits
of an escape, and, if `joining`, over blanks and line ends. -/
def basicLinesAfter : Nat → Bool → List Mark → Reading (List Char)
  | _, _, [] => .error []
  | skip + 1, joining, _ :: rest => basicLinesAfter skip joining rest
  | 0, joining, m :: rest =>
    if joining && (isSpace m.char || m.char = '\n') then basicLinesAfter 0 true rest
    else if m.char = '\r' && (rest.head?.map Mark.char) = some '\n' then
      basicLinesAfter 0 joining rest
    else
      match closing? '"' (m :: rest) with
      | some closed => .ok closed
      | none =>
        if m.char = '\\' then
          if isLineOver rest then basicLinesAfter 0 true rest
          else
            match rest with
            | [] => .error []
            | e :: rest =>
              match escaped? e.char, escapeWidth? e.char with
              | some c, _ => prepend c (basicLinesAfter 0 false rest)
              | none, some width =>
                match scalarOf? width ((rest.take width).map Mark.char) with
                | some c => prepend c (basicLinesAfter width false rest)
                | none => .error rest
              | none, none => .error rest
        else if m.char = '\n' || isTextChar m.char then
          prepend m.char (basicLinesAfter 0 false rest)
        else .error (m :: rest)

/-- Reads a text between triple single quotes. -/
def literalLines : List Mark → Reading (List Char)
  | [] => .error []
  | m :: rest =>
    if m.char = '\r' && (rest.head?.map Mark.char) = some '\n' then literalLines rest
    else
      match closing? '\'' (m :: rest) with
      | some closed => .ok closed
      | none =>
        if m.char = '\n' || isTextChar m.char then prepend m.char (literalLines rest)
        else .error (m :: rest)

/-- Passes over a line end. -/
def skipLineEnd (ms : List Mark) : List Mark := (lineEnd? ms).getD ms

/-- **Reads a text in any of the four forms**, in front of its first quote. -/
def quoted (ms : List Mark) : Reading (List Char) :=
  match ms with
  | ⟨'"', _⟩ :: ⟨'"', _⟩ :: ⟨'"', _⟩ :: rest => basicLinesAfter 0 false (skipLineEnd rest)
  | ⟨'"', _⟩ :: rest => basic rest
  | ⟨'\'', _⟩ :: ⟨'\'', _⟩ :: ⟨'\'', _⟩ :: rest => literalLines (skipLineEnd rest)
  | ⟨'\'', _⟩ :: rest => literal rest
  | _ => .error ms

end Fanout.Toml
