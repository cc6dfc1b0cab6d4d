import Fanout.Fault
import Fanout.Text

/-!
# Characters with line numbers

A document is read as a list of characters that know their line.  A reader that
stops hands back the characters it has not read, and the line at fault is the
line of the first of them.

## Main definitions

* `Mark` — a character and its line.
* `marks` — the characters of a text.
* `Reading α` — a value and the rest, or the place where reading stopped.
* `excerpt` — the lines around the line at fault.

## Design notes

A line feed belongs to the line it ends.  At the end of the text the line at
fault is the line of the last character.
-/

namespace Fanout.Toml

/-- **Character of a document**, with its line counted from one. -/
structure Mark where
  char : Char
  line : Nat
deriving DecidableEq, Repr

/-- Numbers the characters of a text whose first line is `line`. -/
def marksFrom (line : Nat) : List Char → List Mark
  | [] => []
  | c :: rest => ⟨c, line⟩ :: marksFrom (if c = '\n' then line + 1 else line) rest

/-- The characters of a text, without a byte order mark in front. -/
def marks (text : String) : List Mark :=
  match text.toList with
  | '\ufeff' :: rest => marksFrom 1 rest
  | cs => marksFrom 1 cs

/-- The line of the last character. -/
def lastLine (ms : List Mark) : Nat := (ms.getLast?.map Mark.line).getD 1

/-- The line of a place in a document whose last line is `last`. -/
def lineAt (last : Nat) (place : List Mark) : Nat := (place.head?.map Mark.line).getD last

/-- **Result of reading**: a value and the rest, or the place where reading
stopped. -/
abbrev Reading (α : Type) := Except (List Mark) (α × List Mark)

/-! ## Blanks, comments and line ends -/

/-- Whether a character is a blank inside a line. -/
def isSpace (c : Char) : Bool := c = ' ' || c = '\t'

/-- Whether a character may stand in a comment. -/
def isCommentChar (c : Char) : Bool :=
  c = '\t' || (0x20 ≤ c.toNat && c.toNat ≠ 0x7F)

/-- Passes over blanks. -/
def skipSpace (ms : List Mark) : List Mark := ms.dropWhile fun m => isSpace m.char

/-- Passes over a comment. -/
def skipComment (ms : List Mark) : List Mark :=
  match ms with
  | ⟨'#', _⟩ :: rest => rest.dropWhile fun m => isCommentChar m.char
  | _ => ms

/-- Passes over a line end. -/
def lineEnd? (ms : List Mark) : Option (List Mark) :=
  match ms with
  | ⟨'\n', _⟩ :: rest => some rest
  | ⟨'\r', _⟩ :: ⟨'\n', _⟩ :: rest => some rest
  | _ => none

/-- Passes over blanks and a comment up to and over the end of the line, which
the end of the text is too. -/
def finishLine (ms : List Mark) : Reading Unit :=
  let rest := skipComment (skipSpace ms)
  match rest with
  | [] => .ok ((), [])
  | _ =>
    match lineEnd? rest with
    | some rest => .ok ((), rest)
    | none => .error rest

/-- Passes over blanks, comments and line ends, no more of them than the first
argument says. -/
def skipLinesUpTo : Nat → List Mark → List Mark
  | 0, ms => ms
  | n + 1, ms =>
    let rest := skipComment (skipSpace ms)
    match lineEnd? rest with
    | some rest => skipLinesUpTo n rest
    | none => rest

/-- Passes over blanks, comments and line ends. -/
def skipLines (ms : List Mark) : List Mark := skipLinesUpTo ms.length ms

/-- Passes over blanks, comments and line ends, no more of them than the first
argument says.  Here a comment has to be followed by a line end. -/
def passLinesUpTo : Nat → List Mark → Except (List Mark) (List Mark)
  | 0, ms => .ok ms
  | n + 1, ms =>
    let start := skipSpace ms
    let rest := skipComment start
    match lineEnd? rest with
    | some rest => passLinesUpTo n rest
    | none =>
      match start.head?.map Mark.char with
      | some '#' | some '\r' => .error rest
      | _ => .ok start

/-- Passes over blanks, comments and line ends inside brackets. -/
def passLines (ms : List Mark) : Except (List Mark) (List Mark) := passLinesUpTo (ms.length + 1) ms

/-! ## Excerpts -/

/-- **Part of a list**: the items from the place `start` up to the place `stop`.  There is
none if these are not places of the list in order. -/
def slice? {α : Type} (start stop : Nat) (l : List α) : Option (List α) :=
  if start ≤ stop ∧ stop ≤ l.length then some ((l.take stop).drop start) else none

theorem slice?_of_le {α : Type} {start stop : Nat} {l : List α} (hstart : start ≤ stop)
    (hstop : stop ≤ l.length) : slice? start stop l = some ((l.take stop).drop start) :=
  if_pos ⟨hstart, hstop⟩

/-- The lines around a line at fault, as a part of the lines of the text.  They are numbered
from where the part would start in a text that has the line at fault. -/
def excerpt? (text : String) (line : Nat) : Option (List QuotedLine) :=
  let lines := Text.lines text
  let start := line - 2
  let stop := min (line + 2) lines.length
  (slice? (min start stop) stop lines).map fun shown => shown.zipIdx.map fun entry =>
    ⟨start + entry.2 + 1, entry.1, start + entry.2 + 1 == line⟩

/-- Whatever the line, the part is one of the text. -/
theorem isSome_excerpt? (text : String) (line : Nat) : (excerpt? text line).isSome = true := by
  rw [excerpt?, slice?_of_le (Nat.min_le_right _ _) (Nat.min_le_right _ _)]
  rfl

/-- **The lines around a line at fault**: the one before it and two after it. -/
def excerpt (text : String) (line : Nat) : List QuotedLine :=
  (excerpt? text line).get (isSome_excerpt? text line)

/-- The fault of a text that breaks the rules of its format at a line. -/
def malformedAt (text : String) (line : Nat) : Fault := .malformed line (excerpt text line)

end Fanout.Toml
