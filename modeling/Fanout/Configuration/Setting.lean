import Fanout.Configuration.Tree

/-!
# Settings

A setting is a tree whose maps list their names in ascending order.  Two
settings with the same contents are then the same tree.

## Main definitions

* `Tree.Canonical` — the order of names, at every depth.
* `Setting` — a tree together with that order.
* `Setting.list`, `Setting.ofFields` — settings made of settings.

## Main statements

* `Tree.setAt_canonical` — writing a canonical value at a path of a canonical
  map leaves the map canonical.
-/

namespace Fanout

namespace Tree

/-! ## The order of names -/

mutual

/-- **Canonical value.**  The names of every map in it ascend strictly. -/
def Canonical : Tree → Prop
  | list items => CanonicalItems items
  | map fields => Entries.Ascending fields ∧ CanonicalFields fields
  | bool _ | int _ | float _ | string _ => True

/-- All items are canonical. -/
def CanonicalItems : List Tree → Prop
  | [] => True
  | item :: rest => Canonical item ∧ CanonicalItems rest

/-- All values under the names are canonical. -/
def CanonicalFields : List (String × Tree) → Prop
  | [] => True
  | (_, value) :: rest => Canonical value ∧ CanonicalFields rest

end

theorem canonical_list (items : List Tree) : (list items).Canonical ↔ CanonicalItems items := by
  rw [Canonical]

theorem canonical_map (fields : List (String × Tree)) :
    (map fields).Canonical ↔ Entries.Ascending fields ∧ CanonicalFields fields := by
  rw [Canonical]

theorem canonicalItems_iff (items : List Tree) :
    CanonicalItems items ↔ ∀ item ∈ items, item.Canonical := by
  induction items with
  | nil => simp [CanonicalItems]
  | cons item rest ih => simp [CanonicalItems, ih]

theorem canonicalFields_iff (fields : List (String × Tree)) :
    CanonicalFields fields ↔ ∀ field ∈ fields, field.2.Canonical := by
  induction fields with
  | nil => simp [CanonicalFields]
  | cons field rest ih =>
    obtain ⟨name, value⟩ := field
    simp [CanonicalFields, ih]

theorem canonicalFields_insert {name : String} {value : Tree} {fields : List (String × Tree)}
    (hv : value.Canonical) (hf : CanonicalFields fields) :
    CanonicalFields (Entries.insert name value fields) := by
  rw [canonicalFields_iff] at hf ⊢
  intro field hm
  rcases Entries.mem_insert hm with rfl | hm
  · exact hv
  · exact hf field hm

/-- A value found in a canonical map is canonical. -/
theorem canonical_of_find? {name : String} {value : Tree} {fields : List (String × Tree)}
    (hf : CanonicalFields fields) (h : Entries.find? name fields = some value) :
    value.Canonical := by
  induction fields with
  | nil => simp [Entries.find?] at h
  | cons field rest ih =>
    obtain ⟨name', value'⟩ := field
    rw [CanonicalFields] at hf
    rw [Entries.find?] at h
    split at h
    · cases h; exact hf.1
    · exact ih hf.2 h

/-- The fields of a canonical value are in order and canonical themselves. -/
theorem canonical_fields {value : Tree} (h : value.Canonical) : (map value.fields).Canonical := by
  cases value with
  | map fields => exact h
  | bool _ | int _ | float _ | string _ | list _ =>
    rw [canonical_map]
    exact ⟨Entries.ascending_nil, by simp [fields, CanonicalFields]⟩

/-- What stands under a name of a canonical map is canonical, as far as it is a
map. -/
theorem canonical_inner {fields : List (String × Tree)} (h : (map fields).Canonical)
    (name : String) : (map (((Entries.find? name fields).map Tree.fields).getD [])).Canonical := by
  rw [canonical_map] at h
  cases hfind : Entries.find? name fields with
  | none =>
    show (map []).Canonical
    rw [canonical_map]
    exact ⟨Entries.ascending_nil, by rw [CanonicalFields]; trivial⟩
  | some found =>
    show (map found.fields).Canonical
    exact canonical_fields (canonical_of_find? h.2 hfind)

/-- Writing keeps the order of names. -/
theorem setAt_canonical {value : Tree} (hv : value.Canonical) (path : List String) :
    ∀ fields : List (String × Tree), (map fields).Canonical → (map (setAt path value fields)).Canonical := by
  induction path with
  | nil => intro fields h; exact h
  | cons name path ih =>
    intro fields h
    obtain ⟨hascending, hinner⟩ := (canonical_map fields).1 h
    cases path with
    | nil =>
      rw [setAt_singleton, canonical_map]
      exact ⟨Entries.insert_ascending name value hascending, canonicalFields_insert hv hinner⟩
    | cons next path =>
      rw [setAt_cons_cons, canonical_map]
      exact ⟨Entries.insert_ascending name _ hascending,
        canonicalFields_insert (ih _ (canonical_inner h name)) hinner⟩

end Tree

/-! ## Settings -/

/-- **Setting.**  A canonical tree. -/
structure Setting where
  tree : Tree
  /-- The names of every map in the tree ascend strictly. -/
  canonical : tree.Canonical

namespace Setting

def bool (b : Bool) : Setting := ⟨.bool b, by rw [Tree.Canonical]; trivial⟩

def int (i : Int) : Setting := ⟨.int i, by rw [Tree.Canonical]; trivial⟩

def float (x : Float) : Setting := ⟨.float x, by rw [Tree.Canonical]; trivial⟩

def string (s : String) : Setting := ⟨.string s, by rw [Tree.Canonical]; trivial⟩

/-- The list of some settings. -/
def list (items : List Setting) : Setting :=
  ⟨.list (items.map Setting.tree), by
    rw [Tree.canonical_list, Tree.canonicalItems_iff]
    intro item hm
    obtain ⟨setting, _, rfl⟩ := List.mem_map.1 hm
    exact setting.canonical⟩

/-- Puts a setting under a name, into a map. -/
def withField (setting : Setting) (name : String) (value : Setting) : Setting :=
  ⟨.map (Entries.insert name value.tree setting.tree.fields), by
    have h := (Tree.canonical_map _).1 (Tree.canonical_fields setting.canonical)
    rw [Tree.canonical_map]
    exact ⟨Entries.insert_ascending name _ h.1,
      Tree.canonicalFields_insert value.canonical h.2⟩⟩

/-- The map without fields. -/
def emptyMap : Setting :=
  ⟨.map [], by
    rw [Tree.canonical_map]
    exact ⟨Entries.ascending_nil, by rw [Tree.CanonicalFields]; trivial⟩⟩

instance : Inhabited Setting := ⟨emptyMap⟩

/-- The map of some fields, where a later field wins over an earlier one of its
name. -/
def ofFields (fields : List (String × Setting)) : Setting :=
  fields.foldl (fun setting field => setting.withField field.1 field.2) emptyMap

/-- The plain text form. -/
def text (setting : Setting) : String := setting.tree.text

end Setting

end Fanout
