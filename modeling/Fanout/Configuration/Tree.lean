import Fanout.SortedMap
import Fanout.Decimal.Shortest

/-!
# Configuration trees

The values of a configuration: scalars, lists, and maps from names to values.

## Main definitions

* `Tree` — a value.
* `Tree.text` — its plain text form, which for a scalar is also the text written
  to a properties file.
* `Tree.setAt`, `Tree.getAt?` — writing and reading at a path of names.

## Design notes

A map is an entry list (`Entries`), since a type cannot occur inside a bundle of
itself and a proof about itself.  Reading and writing obey their laws on every
entry list, in order or not.
-/

namespace Fanout

/-- **Configuration value.** -/
inductive Tree where
  | bool (b : Bool)
  | int (i : Int)
  | float (x : Float)
  | string (s : String)
  | list (items : List Tree)
  /-- Values under names. -/
  | map (fields : List (String × Tree))
deriving Inhabited

namespace Tree

/-- The fields of a map; nothing else has any. -/
def fields : Tree → List (String × Tree)
  | map fields => fields
  | _ => []

/-- Whether the value has no parts. -/
def isScalar : Tree → Bool
  | list _ | map _ => false
  | _ => true

/-! ## Text form -/

mutual

/-- **Text form.**  A list stands in square brackets and a map, as `name=value`
pairs, in braces. -/
def text : Tree → String
  | bool b => toString b
  | int i => toString i
  | float x => Decimal.text x
  | string s => s
  | list items => "[" ++ itemsText items ++ "]"
  | map fields => "\x7b" ++ fieldsText fields ++ "\x7d"

/-- The items' texts between commas. -/
def itemsText : List Tree → String
  | [] => ""
  | [item] => item.text
  | item :: rest => item.text ++ ", " ++ itemsText rest

/-- The fields' texts between commas. -/
def fieldsText : List (String × Tree) → String
  | [] => ""
  | [(name, value)] => name ++ "=" ++ value.text
  | (name, value) :: rest => name ++ "=" ++ value.text ++ ", " ++ fieldsText rest

end

/-! ## Paths -/

/-- **Writing at a path of names.**  Maps missing on the way are created, and a
value on the way that is no map gives place to one.  The empty path changes
nothing. -/
def setAt : List String → Tree → List (String × Tree) → List (String × Tree)
  | [], _, fields => fields
  | [name], value, fields => Entries.insert name value fields
  | name :: path, value, fields =>
    let inner := ((Entries.find? name fields).map Tree.fields).getD []
    Entries.insert name (map (setAt path value inner)) fields

/-- **Reading at a path of names.**  Every name but the last has to lead to a
map; the empty path leads nowhere. -/
def getAt? : List String → List (String × Tree) → Option Tree
  | [], _ => none
  | [name], fields => Entries.find? name fields
  | name :: path, fields =>
    match Entries.find? name fields with
    | some (map inner) => getAt? path inner
    | _ => none

@[simp] theorem setAt_nil (value : Tree) (fields : List (String × Tree)) :
    setAt [] value fields = fields := rfl

@[simp] theorem setAt_singleton (name : String) (value : Tree) (fields : List (String × Tree)) :
    setAt [name] value fields = Entries.insert name value fields := rfl

theorem setAt_cons_cons (name next : String) (path : List String) (value : Tree)
    (fields : List (String × Tree)) :
    setAt (name :: next :: path) value fields
      = Entries.insert name
          (map (setAt (next :: path) value (((Entries.find? name fields).map Tree.fields).getD [])))
          fields := rfl

@[simp] theorem getAt?_nil (fields : List (String × Tree)) : getAt? [] fields = none := rfl

@[simp] theorem getAt?_singleton (name : String) (fields : List (String × Tree)) :
    getAt? [name] fields = Entries.find? name fields := rfl

theorem getAt?_cons_cons_eq_some {name next : String} {path : List String}
    {fields : List (String × Tree)} {value : Tree} :
    getAt? (name :: next :: path) fields = some value ↔
      ∃ inner, Entries.find? name fields = some (map inner) ∧
        getAt? (next :: path) inner = some value := by
  show (match Entries.find? name fields with
    | some (map inner) => getAt? (next :: path) inner
    | _ => none) = some value ↔ _
  split
  next inner hfind => simp [hfind]
  next hother =>
    refine iff_of_false (fun h => by cases h) ?_
    rintro ⟨inner, hfind, -⟩
    exact hother inner hfind

end Tree

end Fanout
