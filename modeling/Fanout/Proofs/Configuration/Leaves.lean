import Fanout.Configuration.Setting
import Fanout.Configuration.Flat
import Fanout.Proofs.SortedMap

/-!
# Leaves of configuration trees

The flat form of a tree is the table of its leaves.  A leaf is a scalar in its
place, which is the sequence of steps that lead to it, and its key is written from
these steps.  The walk meets the leaves in a fixed order, so of the leaves with one
key the last one wins.

## Main definitions

* `Tree.Step`, `Tree.Leaf` — a step to a part, and a scalar in its place.
* `Tree.leaves`, `Tree.fieldLeaves` — the leaves, in the order of the walk.
* `Tree.flatKey` — the key that is written for a place.

## Main statements

* `Tree.flatten_eq_ofList` — the flat form is the table of the leaves.
* `Tree.mem_fieldLeaves_iff_getAt?` — the leaves whose places are paths of names are
  the scalars that reading finds there.
-/

namespace Fanout.Tree

/-! ## Places -/

/-- **Step from a value to one of its parts.** -/
inductive Step where
  | field (name : String)
  | item (i : Nat)
deriving DecidableEq, Repr

/-- The key of a part, from the key of the whole. -/
def keyFrom : String → List Step → String
  | key, [] => key
  | key, .field name :: rest => keyFrom (key ++ "." ++ name) rest
  | key, .item i :: rest => keyFrom (key ++ "[" ++ toString i ++ "]") rest

/-- **Key of a place.**  The first name of a configuration stands alone. -/
def flatKey : List Step → String
  | .field name :: rest => keyFrom name rest
  | place => keyFrom "" place

/-! ## Leaves -/

/-- **Scalar in its place.** -/
structure Leaf where
  place : List Step
  value : Tree
  /-- The value has no parts. -/
  scalar : value.isScalar = true

namespace Leaf

/-- The leaf seen from one step further up. -/
def under (s : Step) (l : Leaf) : Leaf := { l with place := s :: l.place }

/-- The entry of the flat form. -/
def entry (l : Leaf) : String × String := (flatKey l.place, l.value.text)

end Leaf

mutual

/-- **Leaves of a value**, in the order of the walk. -/
def leaves : Tree → List Leaf
  | map fields => fieldLeaves fields
  | list items => itemLeaves 0 items
  | bool b => [⟨[], bool b, rfl⟩]
  | int i => [⟨[], int i, rfl⟩]
  | float x => [⟨[], float x, rfl⟩]
  | string s => [⟨[], string s, rfl⟩]

/-- The leaves of the items of a list, which are counted from `i`. -/
def itemLeaves (i : Nat) : List Tree → List Leaf
  | [] => []
  | item :: rest => (leaves item).map (Leaf.under (.item i)) ++ itemLeaves (i + 1) rest

/-- The leaves of the fields of a map. -/
def fieldLeaves : List (String × Tree) → List Leaf
  | [] => []
  | (name, value) :: rest => (leaves value).map (Leaf.under (.field name)) ++ fieldLeaves rest

end

theorem leaves_map (fields : List (String × Tree)) : leaves (map fields) = fieldLeaves fields := by
  rw [leaves]

theorem leaves_list (items : List Tree) : leaves (list items) = itemLeaves 0 items := by
  rw [leaves]

theorem leaves_of_isScalar {value : Tree} (h : value.isScalar = true) :
    leaves value = [⟨[], value, h⟩] := by
  cases value with
  | list _ | map _ => cases h
  | bool _ | int _ | float _ | string _ => rw [leaves]

/-! ## The flat form is the table of the leaves -/

/-- Puts leaves into a table, one after the other, under keys that are written from
their places. -/
def putLeaves (keyOf : List Step → String) (out : SortedMap String String) (ls : List Leaf) :
    SortedMap String String :=
  ls.foldl (fun out l => out.insert (keyOf l.place) l.value.text) out

theorem putLeaves_under (keyOf : List Step → String) (out : SortedMap String String) (s : Step)
    (ls rest : List Leaf) :
    putLeaves keyOf out (ls.map (Leaf.under s) ++ rest) =
      putLeaves keyOf (putLeaves (fun place => keyOf (s :: place)) out ls) rest := by
  unfold putLeaves
  rw [List.foldl_append, List.foldl_map]
  rfl

mutual

theorem flattenAt_eq (key : String) (out : SortedMap String String) :
    ∀ value : Tree, flattenAt key out value = putLeaves (keyFrom key) out (leaves value)
  | map fields => by
    rw [flattenAt_map, leaves_map]
    exact flattenFields_eq (fun _ _ => rfl) out fields
  | list items => by
    rw [flattenAt_list, leaves_list, flattenItems_eq]
  | bool _ | int _ | float _ | string _ => by
    rw [flattenAt_of_isScalar rfl, leaves_of_isScalar rfl]
    rfl

theorem flattenItems_eq (key : String) (i : Nat) (out : SortedMap String String) :
    ∀ items : List Tree,
      flattenItems key i out items = putLeaves (keyFrom key) out (itemLeaves i items)
  | [] => by rw [flattenItems, itemLeaves]; rfl
  | item :: rest => by
    rw [flattenItems, itemLeaves, putLeaves_under, flattenAt_eq, flattenItems_eq]
    rfl

-- the fields of the whole configuration have no text in front of their names, those of an
-- inner map do: `lead` and `keyOf` stand for both
theorem flattenFields_eq {keyOf : List Step → String} {lead : String}
    (hkey : ∀ name rest, keyOf (.field name :: rest) = keyFrom (lead ++ name) rest)
    (out : SortedMap String String) :
    ∀ fields : List (String × Tree),
      flattenFields lead out fields = putLeaves keyOf out (fieldLeaves fields)
  | [] => by rw [flattenFields, fieldLeaves]; rfl
  | (name, value) :: rest => by
    have hname : (fun place => keyOf (.field name :: place)) = keyFrom (lead ++ name) :=
      funext (hkey name)
    rw [flattenFields, fieldLeaves, putLeaves_under, hname, flattenAt_eq, flattenFields_eq hkey]

end

/-- **The flat form is the table of the leaves.** -/
theorem flatten_eq_ofList (fields : List (String × Tree)) :
    flatten fields = .ofList ((fieldLeaves fields).map Leaf.entry) := by
  have hkey : ∀ name rest, flatKey (.field name :: rest) = keyFrom ("" ++ name) rest := by
    intro name rest
    rw [String.empty_append]
    rfl
  unfold flatten SortedMap.ofList
  rw [flattenFields_eq hkey, List.foldl_map]
  rfl

/-! ## Which leaves there are -/

theorem mem_fieldLeaves {l : Leaf} {fields : List (String × Tree)} :
    l ∈ fieldLeaves fields ↔
      ∃ name value, (name, value) ∈ fields ∧
        ∃ inner ∈ leaves value, inner.under (.field name) = l := by
  induction fields with
  | nil => simp [fieldLeaves]
  | cons field rest ih =>
    obtain ⟨name, value⟩ := field
    rw [fieldLeaves, List.mem_append, ih, List.mem_map]
    constructor
    · rintro (⟨inner, hinner, rfl⟩ | ⟨name', value', hmem, hleaf⟩)
      · exact ⟨name, value, List.mem_cons_self, inner, hinner, rfl⟩
      · exact ⟨name', value', List.mem_cons_of_mem _ hmem, hleaf⟩
    · rintro ⟨name', value', hmem, hleaf⟩
      rcases List.mem_cons.1 hmem with heq | hmem
      · obtain ⟨rfl, rfl⟩ := Prod.mk.inj heq
        exact Or.inl hleaf
      · exact Or.inr ⟨name', value', hmem, hleaf⟩

/-- The leaves of a list are in its items. -/
theorem place_of_mem_itemLeaves {l : Leaf} {i : Nat} {items : List Tree}
    (h : l ∈ itemLeaves i items) : ∃ j rest, i ≤ j ∧ l.place = .item j :: rest := by
  induction items generalizing i with
  | nil => rw [itemLeaves] at h; cases h
  | cons item items ih =>
    rw [itemLeaves, List.mem_append, List.mem_map] at h
    rcases h with ⟨inner, -, rfl⟩ | h
    · exact ⟨i, inner.place, Nat.le_refl i, rfl⟩
    · obtain ⟨j, rest, hj, hplace⟩ := ih h
      exact ⟨j, rest, Nat.le_of_succ_le hj, hplace⟩

section

variable {value v : Tree} {hv : v.isScalar = true} {name : String} {rest : List Step}

/-- A leaf in the place of the value itself is the value. -/
theorem mem_leaves_here : ⟨[], v, hv⟩ ∈ leaves value ↔ value = v := by
  cases hscalar : value.isScalar with
  | true =>
    rw [leaves_of_isScalar hscalar, List.mem_singleton, Leaf.mk.injEq, eq_comm (a := v)]
    exact and_iff_right rfl
  | false =>
    have hnone : ⟨[], v, hv⟩ ∉ leaves value := by
      intro hmem
      cases value with
      | map fields =>
        rw [leaves_map, mem_fieldLeaves] at hmem
        obtain ⟨name, value, -, inner, -, hplace⟩ := hmem
        cases congrArg Leaf.place hplace
      | list items =>
        rw [leaves_list] at hmem
        obtain ⟨j, rest, -, hplace⟩ := place_of_mem_itemLeaves hmem
        cases hplace
      | bool _ | int _ | float _ | string _ => cases hscalar
    refine iff_of_false hnone ?_
    rintro rfl
    rw [hv] at hscalar
    cases hscalar

/-- A leaf under a name is in a map. -/
theorem mem_leaves_field :
    ⟨.field name :: rest, v, hv⟩ ∈ leaves value ↔
      ∃ fields, value = map fields ∧ ⟨.field name :: rest, v, hv⟩ ∈ fieldLeaves fields := by
  cases value with
  | map fields =>
    rw [leaves_map]
    constructor
    · exact fun h => ⟨fields, rfl, h⟩
    · rintro ⟨_, ⟨⟩, h⟩
      exact h
  | list items =>
    refine iff_of_false (fun h => ?_) (fun ⟨_, hmap, _⟩ => by cases hmap)
    rw [leaves_list] at h
    obtain ⟨j, rest', -, hplace⟩ := place_of_mem_itemLeaves h
    cases hplace
  | bool _ | int _ | float _ | string _ =>
    refine iff_of_false (fun h => ?_) (fun ⟨_, hmap, _⟩ => by cases hmap)
    rw [leaves_of_isScalar rfl, List.mem_singleton] at h
    cases congrArg Leaf.place h

/-- The leaves of a map under a name are those of the value that is found there. -/
theorem mem_fieldLeaves_field {fields : List (String × Tree)} (h : Entries.Ascending fields) :
    ⟨.field name :: rest, v, hv⟩ ∈ fieldLeaves fields ↔
      ∃ value, Entries.find? name fields = some value ∧ ⟨rest, v, hv⟩ ∈ leaves value := by
  rw [mem_fieldLeaves]
  constructor
  · rintro ⟨name', value, hmem, inner, hleaf, hplace⟩
    cases hplace
    exact ⟨value, (Entries.find?_eq_some_iff h).2 hmem, hleaf⟩
  · rintro ⟨value, hfind, hleaf⟩
    exact ⟨name, value, (Entries.find?_eq_some_iff h).1 hfind, _, hleaf, rfl⟩

/-- **Leaves and reading.**  A map has a leaf at a path of names exactly if reading
finds its value there. -/
theorem mem_fieldLeaves_iff_getAt? (names : List String) {fields : List (String × Tree)}
    (h : (map fields).Canonical) :
    ⟨names.map .field, v, hv⟩ ∈ fieldLeaves fields ↔ getAt? names fields = some v := by
  induction names generalizing fields with
  | nil =>
    refine iff_of_false (fun hmem => ?_) (fun hread => by cases hread)
    rw [← leaves_map, List.map_nil, mem_leaves_here] at hmem
    subst hmem
    cases hv
  | cons name names ih =>
    obtain ⟨hascending, hinner⟩ := (canonical_map fields).1 h
    rw [List.map_cons, mem_fieldLeaves_field hascending]
    cases names with
    | nil =>
      rw [getAt?_singleton]
      constructor
      · rintro ⟨value, hfind, hleaf⟩
        rw [hfind, mem_leaves_here.1 hleaf]
      · exact fun hfind => ⟨v, hfind, mem_leaves_here.2 rfl⟩
    | cons next names =>
      rw [getAt?_cons_cons_eq_some]
      constructor
      · rintro ⟨value, hfind, hleaf⟩
        obtain ⟨inner, rfl, hleaf⟩ := mem_leaves_field.1 hleaf
        exact ⟨inner, hfind, (ih (canonical_of_find? hinner hfind)).1 hleaf⟩
      · rintro ⟨inner, hfind, hread⟩
        refine ⟨map inner, hfind, mem_leaves_field.2 ⟨inner, rfl, ?_⟩⟩
        exact (ih (canonical_of_find? hinner hfind)).2 hread

end

end Fanout.Tree
