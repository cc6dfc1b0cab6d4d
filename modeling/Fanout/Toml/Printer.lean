import Fanout.Toml.Reader

/-!
# Writing documents

A text is written in the first form that holds it without escapes: between double
quotes, between single quotes, between triple double quotes, between triple single
quotes.  If none does, it is written between double quotes with escapes.  A list
of several items has one item on a line.

## Main definitions

* `Traits` — what decides on the form of a text.
* `textForm` — a text.
* `keyForm` — a name, without quotes if it needs none.
* `listForm` — a list of texts.

## Design notes

A text of several lines stands between triple quotes, and begins on a line of its
own.  One or two double quotes in a row need no escape there, a third does.  A tab
counts for nothing when the form is chosen, and is escaped between double quotes
all the same.
-/

namespace Fanout.Toml

/-! ## Traits -/

/-- The length of the longest run of a character, when `current` more of them
stand in front, and a run of `longest` has been seen. -/
def longestRunFrom (quote : Char) (current longest : Nat) : List Char → Nat
  | [] => max current longest
  | c :: rest =>
    if c = quote then longestRunFrom quote (current + 1) longest rest
    else longestRunFrom quote 0 (max current longest) rest

/-- The length of the longest run of a character. -/
def longestRun (quote : Char) (cs : List Char) : Nat := longestRunFrom quote 0 0 cs

/-- Whether a character has to be escaped wherever it stands. -/
def isControl (c : Char) : Bool :=
  (c.toNat ≤ 0x1F && c ≠ '\t' && c ≠ '\n') || c.toNat = 0x7F

/-- **What decides on the form of a text.** -/
structure Traits where
  hasControl : Bool
  hasBackslash : Bool
  hasLineFeed : Bool
  /-- The longest run of single quotes. -/
  singles : Nat
  /-- The longest run of double quotes. -/
  doubles : Nat
deriving DecidableEq, Repr

/-- The traits of a text. -/
def Traits.of (cs : List Char) : Traits where
  hasControl := cs.any isControl
  hasBackslash := cs.contains '\\'
  hasLineFeed := cs.contains '\n'
  singles := longestRun '\'' cs
  doubles := longestRun '"' cs

/-! ## Escapes -/

/-- A digit of base sixteen, in upper case. -/
def upperDigit (n : Nat) : Char := if n < 10 then Char.ofNat (0x30 + n) else Char.ofNat (0x37 + n)

/-- A character between double quotes, quotes and line feeds aside. -/
def escapeChar (c : Char) : List Char :=
  match c with
  | '\x08' => ['\\', 'b']
  | '\t' => ['\\', 't']
  | '\x0c' => ['\\', 'f']
  | '\r' => ['\\', 'r']
  | '\\' => ['\\', '\\']
  | _ =>
    if isControl c then
      ['\\', 'u', '0', '0', upperDigit (c.toNat / 16), upperDigit (c.toNat % 16)]
    else [c]

/-- A text between double quotes, on one line. -/
def escapeLine (cs : List Char) : List Char :=
  cs.flatMap fun c =>
    if c = '"' then ['\\', '"'] else if c = '\n' then ['\\', 'n'] else escapeChar c

/-- A text between triple double quotes, when `run` double quotes stand in front
that are not escaped. -/
def escapeLines (run : Nat) : List Char → List Char
  | [] => []
  | c :: rest =>
    if c = '"' then
      if run < 2 then '"' :: escapeLines (run + 1) rest else '\\' :: '"' :: escapeLines 0 rest
    else if c = '\n' then '\n' :: escapeLines 0 rest
    else escapeChar c ++ escapeLines 0 rest

/-! ## Texts and names -/

/-- A text on one line between double quotes. -/
def basicForm (cs : List Char) : String := "\"" ++ String.ofList (escapeLine cs) ++ "\""

/-- A text as it is between single quotes. -/
def literalForm (cs : List Char) : String := "'" ++ String.ofList cs ++ "'"

/-- What stands between triple quotes in front of a text. -/
def opening (cs : List Char) : String := if cs.contains '\n' then "\n" else ""

/-- A text between triple double quotes. -/
def basicLinesForm (cs : List Char) : String :=
  "\"\"\"" ++ opening cs ++ String.ofList (escapeLines 0 cs) ++ "\"\"\""

/-- A text as it is between triple single quotes. -/
def literalLinesForm (cs : List Char) : String :=
  "'''" ++ opening cs ++ String.ofList cs ++ "'''"

/-- **Written form of a text.** -/
def textForm (s : String) : String :=
  let cs := s.toList
  let traits := Traits.of cs
  if traits.hasControl then
    if traits.hasLineFeed then basicLinesForm cs else basicForm cs
  else if !traits.hasBackslash && traits.doubles = 0 && !traits.hasLineFeed then basicForm cs
  else if traits.singles = 0 && !traits.hasLineFeed then literalForm cs
  else if !traits.hasBackslash && traits.doubles ≤ 2 then basicLinesForm cs
  else if traits.singles ≤ 2 then literalLinesForm cs
  else if traits.hasLineFeed then basicLinesForm cs
  else basicForm cs

/-- **Written form of a name.** -/
def keyForm (name : String) : String :=
  let cs := name.toList
  let traits := Traits.of cs
  if !cs.isEmpty && cs.all isBareChar then name
  else if traits.hasControl || traits.hasLineFeed then basicForm cs
  else if !traits.hasBackslash && traits.doubles = 0 then basicForm cs
  else if traits.singles = 0 then literalForm cs
  else basicForm cs

/-! ## Lists and tables -/

/-- **Written form of a list of texts.** -/
def listForm (texts : List String) : String :=
  match texts with
  | [] => "[]"
  | [text] => "[" ++ textForm text ++ "]"
  | _ => "[" ++ String.join (texts.map fun text => "\n    " ++ textForm text ++ ",") ++ "\n]"

/-- The line of an entry. -/
def entryForm (name form : String) : String := keyForm name ++ " = " ++ form ++ "\n"

/-- A table under its header. -/
def tableForm (header : String) (entries : List (String × String)) : String :=
  "[" ++ header ++ "]\n" ++ String.join (entries.map fun e => entryForm e.1 e.2)

end Fanout.Toml
