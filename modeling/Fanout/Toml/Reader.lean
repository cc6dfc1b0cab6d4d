import Fanout.Toml.Item
import Fanout.Toml.Quoted

/-!
# Reading documents

A document is a list of statements: headers, which name a table, and entries,
which put an item under a key of the current table.

## Main definitions

* `key` — a dotted key.
* `value` — an item, nested no deeper than some bound.
* `statements` — the statements of a document, up to where reading stops.

## Design notes

Items nest through arrays and braces; `value` recurses on how much deeper they
may nest, and the readers of arrays and of braces take the reader of the items
inside as an argument.  Their loops are bounded by the length of the rest, which
shrinks with each round.
-/

namespace Fanout.Toml

/-! ## Keys -/

/-- The number of parts a dotted key may not reach, and of levels items may not
reach. -/
def nestingBound : Nat := 80

/-- Whether a character may stand in a key without quotes. -/
def isBareChar (c : Char) : Bool :=
  c.isAlphanum || c = '_' || c = '-'

/-- Failure of a reader that others may follow up.  One that is `committed`
decides; after another one, reading may go on elsewhere. -/
structure Failure where
  committed : Bool
  place : List Mark

/-- Reads a part of a dotted key. -/
def keyPart (ms : List Mark) : Except Failure (KeyPart × List Mark) :=
  match ms with
  | [] => .error ⟨false, []⟩
  | m :: _ =>
    if m.char = '"' || m.char = '\'' then
      let name := if m.char = '"' then basic ms.tail else literal ms.tail
      match name with
      | .ok (name, rest) => .ok (⟨String.ofList name, m.line⟩, rest)
      | .error place => .error ⟨true, place⟩
    else
      match ms.takeWhile fun m => isBareChar m.char with
      | [] => .error ⟨false, ms⟩
      | bare => .ok (⟨String.ofList (bare.map Mark.char), m.line⟩, ms.drop bare.length)

/-- Reads the parts of a dotted key, `bound` of them at most. -/
def keyParts : Nat → List Mark → Except Failure (List KeyPart × List Mark)
  | 0, ms => .error ⟨true, ms⟩
  | bound + 1, ms => do
    let (part, rest) ← keyPart (skipSpace ms)
    let rest := skipSpace rest
    match rest with
    | ⟨'.', _⟩ :: further =>
      match keyParts bound further with
      | .ok (parts, rest) => return (part :: parts, rest)
      | .error failure => if failure.committed then throw failure else return ([part], rest)
    | _ => return ([part], rest)

/-- **Reads a dotted key.** -/
def key (ms : List Mark) : Except Failure (List KeyPart × List Mark) :=
  keyParts (nestingBound - 1) ms

/-! ## Items -/

/-- Whether a character may stand in a word. -/
def isWordChar (c : Char) : Bool :=
  c.isAlphanum || c = '_' || c = '+' || c = '-' || c = '.' || c = ':'

/-- The characters that an item without quotes may take up: a word, and the one
behind a blank, since a time of day may stand behind its date. -/
def wordMarks (ms : List Mark) : List Mark :=
  let word := ms.takeWhile fun m => isWordChar m.char
  match ms.drop word.length with
  | ⟨' ', line⟩ :: rest => word ++ ⟨' ', line⟩ :: rest.takeWhile fun m => isWordChar m.char
  | _ => word

/-- Reads a number or a moment. -/
def numberOrMoment (line : Nat) : Scan Item :=
  firstOf (.moment line <$> String.ofList <$> moment)
    (firstOf ((fun _ => .float line) <$> float) (.integer line <$> integer))

/-- The item that some characters begin with, and what stands behind it. -/
def bareItem (line : Nat) : Scan Item := fun cs =>
  match cs with
  | 't' :: 'r' :: 'u' :: 'e' :: rest => .ok (.boolean line true, rest)
  | 'f' :: 'a' :: 'l' :: 's' :: 'e' :: rest => .ok (.boolean line false, rest)
  | _ => numberOrMoment line cs

/-- Reads an item without quotes.  It may end inside a word. -/
def word (ms : List Mark) : Reading Item :=
  match ms with
  | [] => .error []
  | m :: _ =>
    let cs := (wordMarks ms).map Mark.char
    match bareItem m.line cs with
    | .ok (item, rest) => .ok (item, ms.drop (cs.length - rest.length))
    | .error _ => .error ms

/-- Reads the items of an array, `bound` of them at most, behind the bracket.  If a
line behind an item cannot be read, reading stops in front of the item. -/
def arrayItems (element : List Mark → Reading Item) :
    Nat → List Mark → Except (List Mark) (List Item × List Mark)
  | 0, ms => .error ms
  | bound + 1, ms => do
    let ms ← passLines ms
    match ms with
    | ⟨']', _⟩ :: rest => return ([], rest)
    | _ =>
      let (item, rest) ← element ms
      match passLines rest with
      | .error _ => throw ms
      | .ok (⟨',', _⟩ :: rest) =>
        let (items, rest) ← arrayItems element bound rest
        return (item :: items, rest)
      | .ok (⟨']', _⟩ :: rest) => return ([item], rest)
      | .ok rest => throw rest

/-- Entry of a table in braces, before it finds its place. -/
structure InlineEntry where
  path : List KeyPart
  item : Item

/-- Reads one entry of a table in braces. -/
def inlineEntry (element : List Mark → Reading Item) (ms : List Mark) :
    Except Failure (InlineEntry × List Mark) := do
  let (path, rest) ← key ms
  match rest with
  | ⟨'=', _⟩ :: rest =>
    match element (skipSpace rest) with
    | .ok (item, rest) => return (⟨path, item⟩, skipSpace rest)
    | .error place => throw ⟨true, place⟩
  | _ => throw ⟨true, rest⟩

/-- Reads the entries of a table in braces, `bound` of them at most, up to where
no further entry follows. -/
def inlineEntries (element : List Mark → Reading Item) :
    Nat → List Mark → Except Failure (List InlineEntry × List Mark)
  | 0, ms => .error ⟨true, ms⟩
  | bound + 1, ms => do
    let (entry, rest) ← inlineEntry element ms
    match rest with
    | ⟨',', _⟩ :: further =>
      match inlineEntries element bound further with
      | .ok (entries, rest) => return (entry :: entries, rest)
      | .error failure => if failure.committed then throw failure else return ([entry], rest)
    | _ => return ([entry], rest)

/-- The items of a table in braces. -/
def inlineMembers (entries : List InlineEntry) : Option Members :=
  entries.foldlM (fun members entry =>
    match entry.path.getLast? with
    | some part => addEntry entry.path.dropLast part.name entry.item members
    | none => none) []

/-- Reads a table in braces, behind the opening brace. -/
def inlineTable (element : List Mark → Reading Item) (ms : List Mark) : Reading Members :=
  let entries :=
    match inlineEntries element ms.length ms with
    | .ok result => Except.ok result
    | .error failure => if failure.committed then .error failure.place else .ok ([], ms)
  match entries with
  | .error place => .error place
  | .ok (entries, rest) =>
    match inlineMembers entries with
    | none => .error ms
    | some members =>
      match skipSpace rest with
      | ⟨'}', _⟩ :: rest => .ok (members, rest)
      | rest => .error rest

/-- **Reads an item** that nests no deeper than `depth`. -/
def value : Nat → List Mark → Reading Item
  | depth, ms =>
    match ms with
    | [] => .error []
    | m :: rest =>
      if m.char = '"' || m.char = '\'' then
        match quoted ms with
        | .ok (s, rest) => .ok (.string m.line (String.ofList s), rest)
        | .error place => .error place
      else if m.char = '[' then
        match depth with
        | 0 => .error rest
        | depth + 1 =>
          match arrayItems (value depth) (rest.length + 1) rest with
          | .ok (items, rest) => .ok (.array m.line items, rest)
          | .error place => .error place
      else if m.char = '{' then
        match depth with
        | 0 => .error rest
        | depth + 1 =>
          match inlineTable (value depth) rest with
          | .ok (members, rest) => .ok (.table m.line .inline members, rest)
          | .error place => .error place
      else word ms

/-! ## Statements -/

/-- **Statement of a document.** -/
inductive Statement where
  /-- An item under a key of the current table. -/
  | entry (line : Nat) (path : List KeyPart) (item : Item)
  /-- The table of the following entries. -/
  | header (line : Nat) (path : List KeyPart)
  /-- A new table of an array, for the following entries. -/
  | arrayHeader (line : Nat) (path : List KeyPart)

/-- The line on which a statement begins. -/
def Statement.line : Statement → Nat
  | entry line _ _ | header line _ | arrayHeader line _ => line

/-- Reads a header whose opening brackets have been read. -/
def headerAfter (double : Bool) (line : Nat) (ms : List Mark) :
    Except (List Mark) (Statement × List Mark) :=
  match key ms with
  | .error failure => .error failure.place
  | .ok (path, rest) =>
    match double, rest with
    | false, ⟨']', _⟩ :: rest => do
      let (_, rest) ← finishLine rest
      return (.header line path, rest)
    | true, ⟨']', _⟩ :: ⟨']', _⟩ :: rest => do
      let (_, rest) ← finishLine rest
      return (.arrayHeader line path, rest)
    | _, rest => .error rest

/-- Reads an entry. -/
def entry (line : Nat) (ms : List Mark) : Except (List Mark) (Statement × List Mark) :=
  match key ms with
  | .error failure => .error failure.place
  | .ok (path, ⟨'=', _⟩ :: rest) => do
    let (item, rest) ← value (nestingBound - 1) (skipSpace rest)
    let (_, rest) ← finishLine rest
    return (.entry line path item, rest)
  | .ok (_, rest) => .error rest

/-- Reads a statement. -/
def statement (ms : List Mark) : Reading Statement :=
  match ms with
  | [] => .error []
  | ⟨'[', line⟩ :: ⟨'[', _⟩ :: rest => headerAfter true line rest
  | ⟨'[', line⟩ :: rest => headerAfter false line rest
  | m :: _ => entry m.line ms

/-- Reads statements, `bound` of them at most, and says where reading stopped if
not at the end. -/
def statementsUpTo : Nat → List Mark → List Statement × Option (List Mark)
  | 0, ms => ([], some ms)
  | bound + 1, ms =>
    match skipLines ms with
    | [] => ([], none)
    | ms =>
      match statement ms with
      | .error place => ([], some place)
      | .ok (s, rest) =>
        let (others, stop?) := statementsUpTo bound rest
        (s :: others, stop?)

/-- **Reads the statements of a document.** -/
def statements (ms : List Mark) : List Statement × Option (List Mark) :=
  statementsUpTo (ms.length + 1) ms

end Fanout.Toml
