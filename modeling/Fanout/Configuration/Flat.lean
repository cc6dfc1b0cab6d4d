import Fanout.Configuration.Tree

/-!
# Flat form of a configuration

A configuration file has one line per scalar, so a tree is first laid out flat:
a field adds `.name` to the key of its map and an item `[i]` to the key of its
list.

## Main definitions

* `Tree.flatten` — the texts of a map's scalars under their flat keys.

## Design notes

Names may hold dots and brackets, so two scalars can have one flat key.  The
one that is walked later wins; the walk goes through a map in the order of its
entries and through a list by position.
-/

namespace Fanout.Tree

mutual

/-- Lays a value out under a key. -/
def flattenAt (key : String) (out : SortedMap String String) : Tree → SortedMap String String
  | map fields => flattenFields (key ++ ".") out fields
  | list items => flattenItems key 0 out items
  | bool b => out.insert key (bool b).text
  | int i => out.insert key (int i).text
  | float x => out.insert key (float x).text
  | string s => out.insert key (string s).text

/-- Lays the items of a list out under its key, counting them from `i`. -/
def flattenItems (key : String) (i : Nat) (out : SortedMap String String) :
    List Tree → SortedMap String String
  | [] => out
  | item :: rest =>
    flattenItems key (i + 1) (flattenAt (key ++ "[" ++ toString i ++ "]") out item) rest

/-- Lays the fields of a map out, each under the text `lead` and its name. -/
def flattenFields (lead : String) (out : SortedMap String String) :
    List (String × Tree) → SortedMap String String
  | [] => out
  | (name, value) :: rest => flattenFields lead (flattenAt (lead ++ name) out value) rest

end

/-- **Flat form.**  Every scalar's text under its flat key. -/
def flatten (fields : List (String × Tree)) : SortedMap String String :=
  flattenFields "" .empty fields

/-! ## Equations -/

/-- A scalar takes one entry, its text under its key. -/
theorem flattenAt_of_isScalar {value : Tree} (h : value.isScalar = true) (key : String)
    (out : SortedMap String String) : flattenAt key out value = out.insert key value.text := by
  cases value with
  | list _ => simp [isScalar] at h
  | map _ => simp [isScalar] at h
  | bool _ | int _ | float _ | string _ => rw [flattenAt]

theorem flattenAt_map (key : String) (out : SortedMap String String)
    (fields : List (String × Tree)) :
    flattenAt key out (map fields) = flattenFields (key ++ ".") out fields := by
  rw [flattenAt]

theorem flattenAt_list (key : String) (out : SortedMap String String) (items : List Tree) :
    flattenAt key out (list items) = flattenItems key 0 out items := by
  rw [flattenAt]

@[simp] theorem flatten_nil : flatten [] = .empty := by
  rw [flatten, flattenFields]

end Fanout.Tree
