import Fanout.Configuration.Basic
import Fanout.Proofs.Configuration.Leaves
import Fanout.Proofs.Text.Ends

/-!
# Keys of the flat form

A key is written from the steps of a place: a name behind a dot, a position in square
brackets.  Names may hold the marks themselves, and then two places can have one key;
of their leaves the flat form keeps the last one.  Where no name holds a dot or an
opening bracket the place can be read back from its key, so the flat form has an entry
for every leaf.

## Main definitions

* `Tree.Step.chars` — what a step adds to a key.
* `Tree.Step.IsUnmarked` — a name without the marks that steps begin with.

## Main statements

* `Tree.flatKey_injective` — a key says which unmarked place it was written for.
* `Tree.nodup_fieldLeaves` — no two leaves of a tree have one place.
* `Configuration.flatten_eq_leaves` — what the flat form holds, and when it holds every
  leaf.
-/

namespace Fanout

namespace Tree

/-! ## What is written for a place -/

namespace Step

/-- Characters a step adds to a key. -/
def chars : Step → List Char
  | field name => '.' :: name.toList
  | item i => '[' :: (Nat.toDigits 10 i ++ [']'])

/-- Whether a step begins with the character. -/
def isMark (c : Char) : Bool := c = '.' || c = '['

/-- **Unmarked step.**  A name has no character with which a step begins. -/
def IsUnmarked : Step → Prop
  | field name => '.' ∉ name.toList ∧ '[' ∉ name.toList
  | item _ => True

instance : DecidablePred IsUnmarked
  | field name => inferInstanceAs (Decidable ('.' ∉ name.toList ∧ '[' ∉ name.toList))
  | item _ => inferInstanceAs (Decidable True)

theorem not_isMark_of_isUnmarked {name : String} (h : (field name).IsUnmarked) :
    ∀ c ∈ name.toList, (!isMark c) = true := by
  intro c hc
  have hdot : c ≠ '.' := by rintro rfl; exact h.1 hc
  have hbracket : c ≠ '[' := by rintro rfl; exact h.2 hc
  simp [isMark, hdot, hbracket]

/-- The digits of a position end before the bracket. -/
theorem bracket_notMem_toDigits (i : Nat) : ']' ∉ Nat.toDigits 10 i := by
  intro hmem
  have hdigit : ']'.isDigit = true := Nat.isDigit_of_mem_toDigits (by decide) (by decide) hmem
  cases hdigit

theorem toDigits_injective {i j : Nat} (h : Nat.toDigits 10 i = Nat.toDigits 10 j) : i = j := by
  rw [← Nat.ofDigitChars_ten_toDigits (n := i), h, Nat.ofDigitChars_ten_toDigits]

end Step

variable {s t : Step} {place place' : List Step} {name name' : String}

theorem toList_keyFrom (key : String) (place : List Step) :
    (keyFrom key place).toList = key.toList ++ place.flatMap Step.chars := by
  induction place generalizing key with
  | nil => rw [keyFrom, List.flatMap_nil, List.append_nil]
  | cons s place ih =>
    cases s with
    | field name =>
      rw [keyFrom, ih, String.toList_append, String.toList_append, List.flatMap_cons]
      simp [Step.chars]
    | item i =>
      rw [keyFrom, ih, String.toList_append, String.toList_append, String.toList_append,
        List.flatMap_cons, Nat.toString_eq_repr, Nat.toList_repr]
      simp [Step.chars]

/-! ## Reading a place back -/

/-- The steps behind a name begin with a mark, so the name ends at the first one. -/
theorem takeWhile_name (h : (Step.field name).IsUnmarked) (place : List Step) :
    (name.toList ++ place.flatMap Step.chars).takeWhile (fun c => !Step.isMark c) =
      name.toList := by
  have hsteps : (place.flatMap Step.chars).takeWhile (fun c => !Step.isMark c) = [] := by
    cases place with
    | nil => rfl
    | cons s place =>
      cases s <;> rfl
  rw [List.takeWhile_append_of_pos (Step.not_isMark_of_isUnmarked h), hsteps, List.append_nil]

/-- An unmarked name and what follows it are told apart. -/
theorem name_append_injective (hname : (Step.field name).IsUnmarked)
    (hname' : (Step.field name').IsUnmarked)
    (h : name.toList ++ place.flatMap Step.chars = name'.toList ++ place'.flatMap Step.chars) :
    name = name' ∧ place.flatMap Step.chars = place'.flatMap Step.chars := by
  have hnames : name.toList = name'.toList := by
    rw [← takeWhile_name hname place, h, takeWhile_name hname' place']
  rw [hnames] at h
  exact ⟨String.toList_inj.1 hnames, List.append_cancel_left h⟩

/-- An unmarked step and what follows it are told apart. -/
theorem chars_append_injective (hs : s.IsUnmarked) (ht : t.IsUnmarked)
    (h : s.chars ++ place.flatMap Step.chars = t.chars ++ place'.flatMap Step.chars) :
    s = t ∧ place.flatMap Step.chars = place'.flatMap Step.chars := by
  match s, t, h with
  | .field name, .field name', h =>
    obtain ⟨rfl, hrest⟩ := name_append_injective hs ht (List.cons.inj h).2
    exact ⟨rfl, hrest⟩
  | .item i, .item j, h =>
    rw [Step.chars, Step.chars, List.cons_append, List.cons_append, List.append_assoc,
      List.append_assoc, List.singleton_append, List.singleton_append] at h
    have hdigits := (List.cons.inj h).2
    -- the digits end at the first closing bracket
    have hcut := Text.cutFirst_append (Step.bracket_notMem_toDigits i) (place.flatMap Step.chars)
    rw [hdigits, Text.cutFirst_append (Step.bracket_notMem_toDigits j)] at hcut
    obtain ⟨hij, hrest⟩ := Prod.mk.inj (Option.some.inj hcut)
    exact ⟨congrArg Step.item (Step.toDigits_injective hij).symm, hrest.symm⟩
  | .field _, .item _, h => cases (List.cons.inj h).1
  | .item _, .field _, h => cases (List.cons.inj h).1

theorem flatMap_chars_injective (hplace : ∀ s ∈ place, s.IsUnmarked)
    (hplace' : ∀ s ∈ place', s.IsUnmarked)
    (h : place.flatMap Step.chars = place'.flatMap Step.chars) : place = place' := by
  induction place generalizing place' with
  | nil =>
    cases place' with
    | nil => rfl
    | cons t place' => cases t <;> cases h
  | cons s place ih =>
    cases place' with
    | nil => cases s <;> cases h
    | cons t place' =>
      obtain ⟨hs, hrest⟩ := List.forall_mem_cons.1 hplace
      obtain ⟨ht, hrest'⟩ := List.forall_mem_cons.1 hplace'
      obtain ⟨rfl, htail⟩ := chars_append_injective hs ht h
      rw [ih hrest hrest' htail]

/-- **A key says which place it was written for**, if the names on both ways are
unmarked. -/
theorem flatKey_injective
    (hplace : ∀ s ∈ Step.field name :: place, s.IsUnmarked)
    (hplace' : ∀ s ∈ Step.field name' :: place', s.IsUnmarked)
    (h : flatKey (.field name :: place) = flatKey (.field name' :: place')) :
    Step.field name :: place = .field name' :: place' := by
  obtain ⟨hname, hrest⟩ := List.forall_mem_cons.1 hplace
  obtain ⟨hname', hrest'⟩ := List.forall_mem_cons.1 hplace'
  have hchars := congrArg String.toList h
  rw [flatKey, flatKey, toList_keyFrom, toList_keyFrom] at hchars
  obtain ⟨rfl, htail⟩ := name_append_injective hname hname' hchars
  rw [flatMap_chars_injective hrest hrest' htail]

/-! ## Places of the leaves -/

/-- Leaves behind a step are told apart from leaves that do not lie behind it. -/
theorem nodup_under_append {ls rest : List Leaf} (hls : (ls.map Leaf.place).Nodup)
    (hrest : (rest.map Leaf.place).Nodup) (hapart : ∀ l ∈ rest, l.place.head? ≠ some s) :
    ((ls.map (Leaf.under s) ++ rest).map Leaf.place).Nodup := by
  rw [List.map_append, List.nodup_append]
  refine ⟨?_, hrest, fun p hp q hq hpq => ?_⟩
  · rw [List.map_map]
    refine List.pairwise_map.2 ((List.pairwise_map.1 hls).imp fun hne hsame => ?_)
    exact hne (List.cons.inj hsame).2
  · obtain ⟨l, hl, rfl⟩ := List.mem_map.1 hp
    obtain ⟨inner, -, rfl⟩ := List.mem_map.1 hl
    obtain ⟨l', hl', rfl⟩ := List.mem_map.1 hq
    exact hapart l' hl' (by rw [← hpq]; rfl)

mutual

/-- **No two leaves have one place.** -/
theorem nodup_leaves : ∀ value : Tree, value.Canonical → ((leaves value).map Leaf.place).Nodup
  | map fields, h => by
    obtain ⟨hascending, hinner⟩ := (canonical_map fields).1 h
    rw [leaves_map]
    exact nodup_fieldLeaves fields hascending hinner
  | list items, h => by
    rw [leaves_list]
    exact nodup_itemLeaves 0 items ((canonical_list items).1 h)
  | bool _, _ | int _, _ | float _, _ | string _, _ => by
    rw [leaves_of_isScalar rfl]
    exact List.pairwise_singleton _ _

theorem nodup_itemLeaves (i : Nat) :
    ∀ items : List Tree, CanonicalItems items → ((itemLeaves i items).map Leaf.place).Nodup
  | [], _ => by rw [itemLeaves]; exact List.Pairwise.nil
  | item :: rest, h => by
    rw [CanonicalItems] at h
    rw [itemLeaves]
    refine nodup_under_append (nodup_leaves item h.1) (nodup_itemLeaves (i + 1) rest h.2) ?_
    intro l hl hhead
    obtain ⟨j, rest, hj, hplace⟩ := place_of_mem_itemLeaves hl
    rw [hplace] at hhead
    -- later items have greater positions
    obtain rfl : j = i := Step.item.inj (Option.some.inj hhead)
    exact absurd hj (Nat.not_succ_le_self j)

theorem nodup_fieldLeaves : ∀ fields : List (String × Tree), Entries.Ascending fields →
    CanonicalFields fields → ((fieldLeaves fields).map Leaf.place).Nodup
  | [], _, _ => by rw [fieldLeaves]; exact List.Pairwise.nil
  | (name, value) :: rest, hascending, hinner => by
    rw [CanonicalFields] at hinner
    obtain ⟨hbefore, hrest⟩ := Entries.ascending_cons.1 hascending
    rw [fieldLeaves]
    refine nodup_under_append (nodup_leaves value hinner.1)
      (nodup_fieldLeaves rest hrest hinner.2) ?_
    intro l hl hhead
    obtain ⟨name', value', hmem, inner, -, rfl⟩ := mem_fieldLeaves.1 hl
    obtain rfl : name' = name := Step.field.inj (Option.some.inj hhead)
    exact ne_of_compare_lt (hbefore _ hmem) rfl

end

end Tree

/-! ## The flat form of a configuration -/

namespace Configuration

open Fanout.Tree (Leaf fieldLeaves flatKey flatten)

variable {c : Configuration}

/-- Leaves that unmarked names lead to have keys of their own. -/
theorem nodup_flatKeys (h : ∀ l ∈ fieldLeaves c.values, ∀ s ∈ l.place, s.IsUnmarked) :
    ((fieldLeaves c.values).map fun l => flatKey l.place).Nodup := by
  obtain ⟨hascending, hinner⟩ := (Tree.canonical_map c.values).1 c.canonical
  have hplaces := List.pairwise_map.1 (Tree.nodup_fieldLeaves c.values hascending hinner)
  refine List.pairwise_map.2 (hplaces.imp_of_mem fun hl hl' hne hkey => hne ?_)
  obtain ⟨name, value, -, inner, -, rfl⟩ := Tree.mem_fieldLeaves.1 hl
  obtain ⟨name', value', -, inner', -, rfl⟩ := Tree.mem_fieldLeaves.1 hl'
  exact Tree.flatKey_injective (h _ hl) (h _ hl') hkey

/-- **What the flat form holds.**  It has the keys of the leaves, and under each of them
the text of the last leaf in the walk that has it.  If no name on the way to a leaf holds
a dot or an opening bracket, no two leaves have one key, and the entries of the flat form
are those of the leaves, one for each. -/
theorem flatten_eq_leaves (c : Configuration) :
    (∀ key, (flatten c.values).find? key =
      ((fieldLeaves c.values).filter fun l => flatKey l.place = key).getLast?.map
        fun l => l.value.text) ∧
    ((∀ l ∈ fieldLeaves c.values, ∀ s ∈ l.place, s.IsUnmarked) →
      ((fieldLeaves c.values).map fun l => flatKey l.place).Nodup ∧
      (flatten c.values).toList.Perm ((fieldLeaves c.values).map Leaf.entry)) := by
  rw [Tree.flatten_eq_ofList]
  refine ⟨fun key => ?_, fun hunmarked => ⟨nodup_flatKeys hunmarked, ?_⟩⟩
  · rw [SortedMap.find?_ofList, List.getLast?_filter, ← List.map_reverse, List.find?_map,
      Option.map_map]
    rfl
  · refine SortedMap.toList_ofList_perm ?_
    rw [List.map_map]
    exact nodup_flatKeys hunmarked

/-- An empty name, a closing bracket in a name and a list in a list leave every leaf its
entry; a dot in a name takes the entry of the leaf that is walked before. -/
theorem flatten_eq_leaves_app :
    let plain := application.add "app"
      (.ofFields [("", .list [.int 1, .list [.string "x"]]), ("0]", .bool true)])
    let marked := application.add "app"
      (.ofFields [("a", .ofFields [("b", .int 1)]), ("a.b", .int 2)])
    (flatten plain.values).toList.Perm
        [("app.[0]", "1"), ("app.[1][0]", "x"), ("app.0]", "true")] ∧
      (flatten marked.values).find? "app.a.b" = some "2" := by
  intro plain marked
  exact ⟨((flatten_eq_leaves plain).2 (by decide)).2,
    ((flatten_eq_leaves marked).1 "app.a.b").trans (by decide)⟩

end Configuration

end Fanout
