/-!
# Documents

A document is a table of named items.  Every item knows the line to blame if it
is not what is wanted there.

## Main definitions

* `Item` — a scalar, an array, a table, or an array of tables.
* `TableKind` — how a table came about, which decides what may still be added to
  it.
* `Members` — the items of a table, in order.

## Design notes

A table written between braces is finished.  A table that a header names is
finished by the next header; tables on the way to a header or to a dotted key
come about by being mentioned, and may be completed by a header in the one case
and by further dotted keys in the other.
-/

namespace Fanout.Toml

/-- **How a table came about.** -/
inductive TableKind where
  /-- Written between braces. -/
  | inline
  /-- Named by a header. -/
  | header
  /-- Mentioned by a longer header. -/
  | implicit
  /-- Mentioned by a dotted key. -/
  | dotted
deriving DecidableEq, Repr

/-- **Item of a document.** -/
inductive Item where
  | string (line : Nat) (s : String)
  | integer (line : Nat) (i : Int)
  | float (line : Nat)
  | boolean (line : Nat) (b : Bool)
  /-- A date, a time, or both, in their usual form. -/
  | moment (line : Nat) (text : String)
  | array (line : Nat) (items : List Item)
  | table (line : Nat) (kind : TableKind) (members : List (String × Item))
  /-- Tables named by headers in double brackets. -/
  | tables (line : Nat) (items : List Item)
deriving Inhabited

/-- The items of a table, in the order in which they came about. -/
abbrev Members := List (String × Item)

namespace Item

/-- The line to blame. -/
def line : Item → Nat
  | string line _ | integer line _ | float line | boolean line _ | moment line _
  | array line _ | table line _ _ | tables line _ => line

end Item

namespace Members

/-- The item of a name. -/
def find? (name : String) (members : Members) : Option Item :=
  (List.find? (fun e => e.1 == name) members).map (·.2)

/-- Puts an item in the place of the one that has the name, or at the end. -/
def put (name : String) (item : Item) : Members → Members
  | [] => [(name, item)]
  | e :: rest => if e.1 = name then (name, item) :: rest else e :: put name item rest

/-- Drops the item of a name. -/
def drop (name : String) (members : Members) : Members := members.filter fun e => e.1 != name

end Members

/-- Part of a dotted key, with its line. -/
structure KeyPart where
  name : String
  line : Nat
deriving DecidableEq, Repr

/-! ## Adding to a table -/

/-- Changes the last of some items. -/
def changeLast (f : Item → Option Item) : List Item → Option (List Item)
  | [] => none
  | [item] => (f item).map fun item => [item]
  | item :: rest => (changeLast f rest).map fun rest => item :: rest

/-- **Adds an item under a dotted key.**  The tables on the way come about now,
or came about by being mentioned, the last of them by a dotted key. -/
def addEntry : List KeyPart → String → Item → Members → Option Members
  | [], name, item, members =>
    match Members.find? name members with
    | some _ => none
    | none => some (members ++ [(name, item)])
  | part :: path, name, item, members =>
    match Members.find? part.name members with
    | none => do
      let inner ← addEntry path name item []
      return members.put part.name (.table part.line .dotted inner)
    | some (.table line .dotted inner) => do
      let inner ← addEntry path name item inner
      return members.put part.name (.table line .dotted inner)
    | some (.table line .implicit inner) =>
      if path.isEmpty then none
      else do
        let inner ← addEntry path name item inner
        return members.put part.name (.table line .implicit inner)
    | some (.tables line items) =>
      if path.isEmpty then none
      else do
        let items ← changeLast (fun last =>
          match last with
          | .table line kind inner => (addEntry path name item inner).map (.table line kind)
          | _ => none) items
        return members.put part.name (.tables line items)
    | some _ => none

/-- Changes the entries of the table that the parts of a header lead to.  The
tables on the way may be of any kind but finished ones. -/
def changeAt {α : Type} (f : Members → Option (α × Members)) :
    List KeyPart → Members → Option (α × Members)
  | [], members => f members
  | part :: path, members =>
    match Members.find? part.name members with
    | none => do
      let (a, inner) ← changeAt f path []
      return (a, members.put part.name (.table part.line .implicit inner))
    | some (.table line kind inner) =>
      if kind = .inline then none
      else do
        let (a, inner) ← changeAt f path inner
        return (a, members.put part.name (.table line kind inner))
    | some (.tables line items) =>
      match items.getLast? with
      | some (.table last kind inner) => do
        let (a, inner) ← changeAt f path inner
        return (a, members.put part.name
          (.tables line (items.dropLast ++ [.table last kind inner])))
      | _ => none
    | some _ => none

end Fanout.Toml
