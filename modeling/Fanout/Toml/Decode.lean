import Fanout.SortedMap
import Fanout.Toml.Document

/-!
# Making sense of items

A program wants texts, lists and records where a document has items.  What is
not as wanted is at fault on the line of the item.

## Main definitions

* `Decoder α` — what an item stands for, or the line at fault.
* `record` — a record with named fields, also written as an array of its fields
  in order.
* `choice` — one of several names, also written as a table with that name and
  nothing else.
-/

namespace Fanout.Toml

/-- **Meaning of an item**, or the line at fault. -/
abbrev Decoder (α : Type) := Item → Except Nat α

/-- The name under which a moment has its text where a table is wanted. -/
def momentKey : String := "$__toml_private_datetime"

/-- A text. -/
def asString : Decoder String
  | .string _ s => .ok s
  | item => .error item.line

/-- A truth value. -/
def asBool : Decoder Bool
  | .boolean _ b => .ok b
  | item => .error item.line

/-- A natural number below a bound. -/
def asNatBelow (bound : Nat) : Decoder Nat
  | .integer line i => if 0 ≤ i ∧ i < bound then .ok i.toNat else .error line
  | item => .error item.line

/-- The items of an array. -/
def asItems : Decoder (List Item)
  | .array _ items | .tables _ items => .ok items
  | item => .error item.line

/-- A list. -/
def asList {α : Type} (element : Decoder α) : Decoder (List α) := fun item => do
  (← asItems item).mapM element

/-- The named items of a table. -/
def asMembers : Decoder Members
  | .table _ _ members => .ok members
  | .moment line text => .ok [(momentKey, .string line text)]
  | item => .error item.line

/-- A table with values of one kind. -/
def asMap {α : Type} (element : Decoder α) : Decoder (SortedMap String α) := fun item => do
  (← asMembers item).foldlM (fun m e => return m.insert e.1 (← element e.2)) .empty

/-- Whether an item has nothing in it. -/
def isHollow : Item → Bool
  | .table _ _ [] | .array _ [] | .tables _ [] => true
  | _ => false

/-- The line to blame for an item with something in it.  A table that was only
mentioned has no line of its own; then `outer` is to blame. -/
def lineOr (outer : Nat) : Item → Nat
  | .table _ .implicit _ | .table _ .dotted _ => outer
  | item => item.line

/-- **One of several names.** -/
def choice {α : Type} (ofName? : String → Option α) : Decoder α
  | .string line name =>
    match ofName? name with
    | some a => .ok a
    | none => .error line
  | .table line _ members =>
    match members with
    | [(name, item)] =>
      match ofName? name with
      | some a => if isHollow item then .ok a else .error (lineOr line item)
      | none => .error item.line
    | _ => .error line
  | item => .error item.line

/-- The items of a record under the names of its fields. -/
def asFields (names : List String) : Decoder Members
  | .array _ items | .tables _ items => .ok (names.zip items)
  | item => asMembers item

/-- **A record.**  Its fields are read in the order in which they stand, and
items under other names are passed over. -/
def record {σ : Type} (names : List String) (field : σ → String → Item → Except Nat σ) (start : σ) :
    Decoder σ := fun item => do
  (← asFields names item).foldlM (fun s e => field s e.1 e.2) start

/-- What a text stands for, or the fault of a text that breaks the rules. -/
def decode {α : Type} (decoder : Decoder α) (text : String) : Except Fault α :=
  match read text >>= fun members => decoder (.table 1 .header members) with
  | .ok a => .ok a
  | .error line => .error (malformedAt text line)

end Fanout.Toml
