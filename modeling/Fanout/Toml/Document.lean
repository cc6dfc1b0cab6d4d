import Fanout.Toml.Reader

/-!
# From statements to a document

The statements of a document are put together one after the other.  The entries
behind a header are gathered aside, and the table they make finds its place when
the next header comes, or the end.

## Main definitions

* `Draft` — what has been put together, and the table being gathered.
* `read` — the items of a text, or the line at fault.

## Design notes

A statement that does not fit in is at fault on its own line, before anything
that cannot be read behind it.
-/

namespace Fanout.Toml

/-- **Document being put together.** -/
structure Draft where
  /-- The tables that are finished, in their places. -/
  root : Members
  /-- The place of the table being gathered; the document itself if empty. -/
  path : List KeyPart
  /-- Whether the table is one of an array. -/
  inArray : Bool
  line : Nat
  /-- The items of the table being gathered. -/
  members : Members

namespace Draft

/-- Nothing is put together yet. -/
def empty : Draft := ⟨[], [], false, 1, []⟩

/-- Puts a finished table at the end of its parent, or of its array. -/
def settle (d : Draft) (name : String) (parent : Members) : Option (Unit × Members) :=
  let finished := Item.table d.line .header d.members
  if d.inArray then
    match Members.find? name parent with
    | some (.tables line items) => some ((), parent.put name (.tables line (items ++ [finished])))
    | _ => none
  else some ((), parent.put name finished)

/-- The document with the gathered table in its place. -/
def finish (d : Draft) : Option Members :=
  match d.path.getLast? with
  | none => some d.members
  | some part => (changeAt (d.settle part.name) d.path.dropLast d.root).map (·.2)

/-- Takes out the table that a header names, if it was only mentioned so far. -/
def claim (name : String) (parent : Members) : Option (Members × Members) :=
  match Members.find? name parent with
  | none => some ([], parent)
  | some (.table _ .implicit inner) => some (inner, parent.drop name)
  | some _ => none

/-- Makes sure that there is an array of tables. -/
def claimArray (line : Nat) (name : String) (parent : Members) : Option (Unit × Members) :=
  match Members.find? name parent with
  | none => some ((), parent.put name (.tables line []))
  | some (.tables _ _) => some ((), parent)
  | some _ => none

/-- Adds a statement. -/
def add (d : Draft) : Statement → Option Draft
  | .entry _ path item => do
    let part ← path.getLast?
    let members ← addEntry path.dropLast part.name item d.members
    return { d with members }
  | .header line path => do
    let root ← d.finish
    let part ← path.getLast?
    let (members, root) ← changeAt (claim part.name) path.dropLast root
    return ⟨root, path, false, line, members⟩
  | .arrayHeader line path => do
    let root ← d.finish
    let part ← path.getLast?
    let (_, root) ← changeAt (claimArray line part.name) path.dropLast root
    return ⟨root, path, true, line, []⟩

/-- Adds statements, up to the first that does not fit in. -/
def addAll (d : Draft) (statements : List Statement) : Except Nat Draft :=
  statements.foldlM (fun d s =>
    match d.add s with
    | some d => .ok d
    | none => .error s.line) d

end Draft

/-- **Reads the items of a text**, or finds the line at fault. -/
def read (text : String) : Except Nat Members := do
  let ms := marks text
  let (statements, stop?) := statements ms
  let draft ← Draft.empty.addAll statements
  match stop?, draft.finish with
  | some place, _ => throw (lineAt (lastLine ms) place)
  | none, some members => return members
  | none, none => throw draft.line

end Fanout.Toml
