import Fanout.Fault
import Fanout.Text
import Fanout.SortedMap

/-!
# Coordinates of published artifacts

An artifact is published under a group, an artifact id and a version.  Modules
may name an artifact by its id alone; a resolver then knows the rest.

## Main definitions

* `Coordinate` — group, artifact and version; `parse` and `text`.
* `Resolver` — the coordinates that are known.
* `CoordinateTable` — a resolver given by a table.
-/

namespace Fanout

/-- **Coordinate of a published artifact.** -/
structure Coordinate where
  group : String
  artifact : String
  version : String
deriving DecidableEq, Repr, Inhabited

namespace Coordinate

/-- The parts between colons. -/
def text (c : Coordinate) : String := c.group ++ ":" ++ c.artifact ++ ":" ++ c.version

/-- Reads three non-empty parts between colons. -/
def parse (text : String) : Except Fault Coordinate :=
  match Text.split (· = ':') text with
  | [group, artifact, version] =>
    if group.isEmpty || artifact.isEmpty || version.isEmpty then .error (.invalidCoordinate text)
    else .ok ⟨group, artifact, version⟩
  | _ => .error (.invalidCoordinate text)

end Coordinate

/-- **Resolver.**  The coordinate of each artifact id that is known. -/
abbrev Resolver := String → Option Coordinate

/-- The coordinate of an artifact, which has to be known. -/
def Resolver.resolve (known : Resolver) (artifact : String) : Except Fault Coordinate :=
  match known artifact with
  | some coordinate => .ok coordinate
  | none => .error (.coordinateNotFound artifact)

namespace Resolver

variable {known : Resolver} {artifact : String}

theorem resolve_eq_error_iff {fault : Fault} : known.resolve artifact = .error fault ↔
    known artifact = none ∧ fault = .coordinateNotFound artifact := by
  unfold resolve
  cases known artifact with
  | none => simp [eq_comm]
  | some c => simp

theorem resolve_eq_ok_iff {c : Coordinate} :
    known.resolve artifact = .ok c ↔ known artifact = some c := by
  unfold resolve
  cases known artifact <;> simp

theorem resolve_isOk_iff :
    (∃ c, known.resolve artifact = .ok c) ↔ (known artifact).isSome = true := by
  unfold resolve
  cases known artifact <;> simp

end Resolver

/-- **Table of coordinates** by artifact id. -/
structure CoordinateTable where
  entries : SortedMap String Coordinate

namespace CoordinateTable

/-- The table without entries. -/
def empty : CoordinateTable := ⟨.empty⟩

/-- Enters a coordinate under its own artifact id. -/
def insert (t : CoordinateTable) (c : Coordinate) : CoordinateTable :=
  ⟨t.entries.insert c.artifact c⟩

/-- Enters a written coordinate under an artifact id, which may differ from its
own. -/
def insertText (t : CoordinateTable) (artifact text : String) : Except Fault CoordinateTable := do
  let c ← Coordinate.parse text
  return ⟨t.entries.insert artifact c⟩

/-- Enters written coordinates, one after the other. -/
def insertTexts (t : CoordinateTable) (rows : List (String × String)) :
    Except Fault CoordinateTable :=
  rows.foldlM (fun t row => t.insertText row.1 row.2) t

/-- The number of entries. -/
def size (t : CoordinateTable) : Nat := t.entries.size

/-- Whether there is no entry. -/
def isEmpty (t : CoordinateTable) : Bool := t.entries.isEmpty

/-- The resolver that knows the entries of the table. -/
def resolver (t : CoordinateTable) : Resolver := t.entries.find?

end CoordinateTable

end Fanout
