import Fanout.Configuration.Basic
import Fanout.Proofs.Configuration.Leaves
import Fanout.Proofs.Text.Pieces

/-!
# Dotted paths

Values are set and read at a dotted path, of which only the non-empty segments
count, and they are written under a dotted key.  If only scalars were set, then all
names in a configuration are segments and there are no lists.  So a key can be taken
apart again, the keys of different leaves are different, and under a key stands what
reading finds there.

## Main definitions

* `Configuration.IsSegment` — a name that can stand in a dotted path.
* `Configuration.IsDotted` — a path without a dot too many.
* `Tree.PlainLeaves` — all leaves are at paths of segments.

## Main statements

* `Configuration.segments_intercalate` — a path that is put together of segments has
  these segments.
* `Tree.PlainLeaves.setAt` — setting a scalar keeps the leaves at paths of segments.
* `Configuration.find?_flatten_addAll` — the flat form and reading agree.
-/

namespace Fanout

/-! ## Segments -/

namespace Configuration

/-- **Segment of a dotted path**: a name that is not empty and has no dot. -/
structure IsSegment (name : String) : Prop where
  ne_empty : name ≠ ""
  noDot : '.' ∉ name.toList

/-- **Canonical dotted path**: one or more segments with single dots between them. -/
def IsDotted (path : String) : Prop :=
  ∃ names : List String, names ≠ [] ∧ (∀ name ∈ names, IsSegment name) ∧
    path = ".".intercalate names

theorem isSegment_of_mem_segments {path name : String} (h : name ∈ segments path) :
    IsSegment name := by
  unfold segments Text.words at h
  obtain ⟨hsplit, hne⟩ := List.mem_filter.1 h
  obtain ⟨piece, hpiece, rfl⟩ := List.mem_map.1 hsplit
  refine ⟨?_, fun hdot => ?_⟩
  · rintro hempty
    rw [hempty] at hne
    cases hne
  · rw [String.toList_ofList] at hdot
    have hnot := Text.not_separator_of_mem_pieces hpiece hdot
    cases hnot

/-- **The segments of segments put together** are these segments. -/
theorem segments_intercalate {names : List String} (hne : names ≠ [])
    (h : ∀ name ∈ names, IsSegment name) : segments (".".intercalate names) = names := by
  have hsplit : Text.split (· = '.') (".".intercalate names) = names :=
    (Text.split_eq_iff hne).2 ⟨String.toList_intercalate, fun name hname => (h name hname).noDot⟩
  rw [segments, Text.words, hsplit, List.filter_eq_self]
  intro name hname
  simpa using (h name hname).ne_empty

end Configuration

namespace Tree

/-- The key of a path of names is the names with dots between them. -/
theorem keyFrom_field (key : String) (names : List String) :
    keyFrom key (names.map .field) = ".".intercalate (key :: names) := by
  induction names generalizing key with
  | nil => rw [String.intercalate_singleton]; rfl
  | cons name names ih =>
    rw [List.map_cons, keyFrom, ih, String.intercalate_cons_append, String.intercalate_cons_cons]

theorem flatKey_field {names : List String} (hne : names ≠ []) :
    flatKey (names.map .field) = ".".intercalate names := by
  cases names with
  | nil => exact absurd rfl hne
  | cons name names => exact keyFrom_field name names

/-! ## Leaves at paths of segments -/

/-- The step goes to a field whose name is a segment. -/
def Step.IsPlain : Step → Prop
  | .field name => Configuration.IsSegment name
  | .item _ => False

/-- Plain steps are a path of segments. -/
theorem exists_names {place : List Step} (h : ∀ s ∈ place, s.IsPlain) :
    ∃ names : List String, (∀ name ∈ names, Configuration.IsSegment name) ∧
      place = names.map .field := by
  induction place with
  | nil => exact ⟨[], by simp, rfl⟩
  | cons s place ih =>
    obtain ⟨hs, hplace⟩ := List.forall_mem_cons.1 h
    obtain ⟨names, hnames, rfl⟩ := ih hplace
    cases s with
    | field name => exact ⟨name :: names, List.forall_mem_cons.2 ⟨hs, hnames⟩, rfl⟩
    | item => cases hs

/-- **All leaves are at paths of segments.** -/
def PlainLeaves (fields : List (String × Tree)) : Prop :=
  ∀ l ∈ fieldLeaves fields, ∀ s ∈ l.place, s.IsPlain

namespace PlainLeaves

variable {fields : List (String × Tree)} {name : String} {value : Tree}

theorem nil : PlainLeaves [] := by
  intro l h
  rw [fieldLeaves] at h
  cases h

theorem insert (h : PlainLeaves fields) (hname : Configuration.IsSegment name)
    (hvalue : ∀ l ∈ leaves value, ∀ s ∈ l.place, s.IsPlain) :
    PlainLeaves (Entries.insert name value fields) := by
  intro l hl
  obtain ⟨name', value', hmem, inner, hinner, rfl⟩ := mem_fieldLeaves.1 hl
  rcases Entries.mem_insert hmem with hnew | hold
  · obtain ⟨rfl, rfl⟩ := Prod.mk.inj hnew
    exact List.forall_mem_cons.2 ⟨hname, hvalue inner hinner⟩
  · exact h _ (mem_fieldLeaves.2 ⟨name', value', hold, inner, hinner, rfl⟩)

/-- What stands under a name has such leaves too. -/
theorem inner (h : PlainLeaves fields) (name : String) :
    PlainLeaves (((Entries.find? name fields).map Tree.fields).getD []) := by
  cases hfind : Entries.find? name fields with
  | none => exact nil
  | some value =>
    cases value with
    | map inner =>
      intro l hl
      have hleaf : l.under (.field name) ∈ fieldLeaves fields := by
        have hmem := Entries.mem_of_find? hfind
        exact mem_fieldLeaves.2 ⟨name, map inner, hmem, l, leaves_map inner ▸ hl, rfl⟩
      exact (List.forall_mem_cons.1 (h _ hleaf)).2
    | list _ | bool _ | int _ | float _ | string _ => exact nil

/-- **Setting a scalar keeps the leaves at paths of segments.** -/
theorem setAt (h : PlainLeaves fields) (hvalue : value.isScalar = true) {path : List String}
    (hpath : ∀ name ∈ path, Configuration.IsSegment name) :
    PlainLeaves (setAt path value fields) := by
  -- along the path, from one map to the one inside it
  induction path generalizing fields with
  | nil => exact h
  | cons name path ih =>
    obtain ⟨hname, hrest⟩ := List.forall_mem_cons.1 hpath
    cases path with
    | nil =>
      refine h.insert hname fun l hl => ?_
      rw [leaves_of_isScalar hvalue, List.mem_singleton] at hl
      rw [hl]
      simp
    | cons next path =>
      rw [setAt_cons_cons]
      refine h.insert hname fun l hl => ih (h.inner name) hrest l ?_
      rw [← leaves_map]
      exact hl

end PlainLeaves

end Tree

/-! ## The flat form and reading -/

namespace Configuration

variable {c : Configuration}

/-- The leaves of a configuration with plain leaves are the scalars that reading
finds at dotted paths. -/
theorem mem_leaf_entries_iff (hplain : Tree.PlainLeaves c.values) {path text : String} :
    (path, text) ∈ (Tree.fieldLeaves c.values).map Tree.Leaf.entry ↔
      IsDotted path ∧ ∃ v, c.get? path = some v ∧ v.isScalar = true ∧ v.text = text := by
  rw [List.mem_map]
  constructor
  · rintro ⟨⟨place, v, hv⟩, hl, hentry⟩
    obtain ⟨names, hnames, rfl⟩ := Tree.exists_names (hplain _ hl)
    have hread := (Tree.mem_fieldLeaves_iff_getAt? names c.canonical).1 hl
    have hne : names ≠ [] := by rintro rfl; cases hread
    obtain ⟨rfl, rfl⟩ := Prod.mk.inj hentry
    rw [Tree.flatKey_field hne]
    refine ⟨⟨names, hne, hnames, rfl⟩, v, ?_, hv, rfl⟩
    rw [get?, segments_intercalate hne hnames]
    exact hread
  · rintro ⟨⟨names, hne, hnames, rfl⟩, v, hread, hv, rfl⟩
    rw [get?, segments_intercalate hne hnames] at hread
    have hl : ⟨names.map .field, v, hv⟩ ∈ Tree.fieldLeaves c.values :=
      (Tree.mem_fieldLeaves_iff_getAt? names c.canonical).2 hread
    refine ⟨_, hl, ?_⟩
    rw [Tree.Leaf.entry, Tree.flatKey_field hne]

/-- A configuration with plain leaves is written under each dotted path as it is read
there, and under no other key. -/
theorem find?_flatten (hplain : Tree.PlainLeaves c.values) {path text : String} :
    (Tree.flatten c.values).find? path = some text ↔
      IsDotted path ∧ ∃ v, c.get? path = some v ∧ v.isScalar = true ∧ v.text = text := by
  rw [Tree.flatten_eq_ofList, SortedMap.find?_ofList_iff, mem_leaf_entries_iff hplain]
  -- two leaves with one key are what reading finds at it
  rintro ⟨path, text⟩ hmem ⟨path', text'⟩ hmem' rfl
  obtain ⟨-, v, hread, -, rfl⟩ := (mem_leaf_entries_iff hplain).1 hmem
  obtain ⟨-, v', hread', -, rfl⟩ := (mem_leaf_entries_iff hplain).1 hmem'
  rw [hread] at hread'
  rw [Option.some.inj hread']

theorem plainLeaves_addAll (hplain : Tree.PlainLeaves c.values) {entries : List (String × Setting)}
    (hscalar : ∀ e ∈ entries, e.2.tree.isScalar = true) :
    Tree.PlainLeaves (c.addAll entries).values := by
  unfold addAll
  induction entries generalizing c with
  | nil => exact hplain
  | cons e entries ih =>
    obtain ⟨he, hentries⟩ := List.forall_mem_cons.1 hscalar
    refine ih (c := c.add e.1 e.2) ?_ hentries
    exact hplain.setAt he fun _ hname => isSegment_of_mem_segments hname

/-- **The flat form and reading agree.**  In a configuration in which nothing but
scalars was set, whatever the paths, a text is written under a dotted path exactly if
reading finds a scalar with this text there; and all keys are dotted paths. -/
theorem find?_flatten_addAll (kind : ConfigurationKind) (environment? : Option String)
    {entries : List (String × Setting)} (hscalar : ∀ e ∈ entries, e.2.tree.isScalar = true) :
    let c := (ofKind kind environment?).addAll entries
    (∀ path, IsDotted path → ∀ text, (Tree.flatten c.values).find? path = some text ↔
      ∃ v, c.get? path = some v ∧ v.isScalar = true ∧ v.text = text) ∧
    ∀ key ∈ (Tree.flatten c.values).keys, IsDotted key := by
  intro c
  have hplain : Tree.PlainLeaves c.values := plainLeaves_addAll Tree.PlainLeaves.nil hscalar
  refine ⟨fun path hpath text => ?_, fun key hkey => ?_⟩
  · rw [find?_flatten hplain, and_iff_right hpath]
  · obtain ⟨text, hfind⟩ := (SortedMap.mem_keys_iff _).1 hkey
    exact ((find?_flatten hplain).1 hfind).1

/-- A scalar that gives place to a map, under a path with a dot too many. -/
def serverPort : List (String × Setting) :=
  [("server", .string "on"), ("server..port", .int 8080)]

/-- The port is written under the path without that dot, and nothing is left of the
scalar. -/
theorem flatten_serverPort :
    (Tree.flatten (application.addAll serverPort).values).find? "server.port" = some "8080" ∧
      (Tree.flatten (application.addAll serverPort).values).find? "server" = none := by
  have hscalar : ∀ e ∈ serverPort, e.2.tree.isScalar = true := by
    simp [serverPort, Setting.string, Setting.int, Tree.isScalar]
  have hagree := (find?_flatten_addAll .application none hscalar).1
  have hserver : IsSegment "server" := ⟨by decide, by decide⟩
  have hport : IsSegment "port" := ⟨by decide, by decide⟩
  refine ⟨(hagree "server.port" ⟨["server", "port"], by decide, ?_, by decide⟩ "8080").2 ?_, ?_⟩
  · simp [hserver, hport]
  · exact ⟨.int 8080, rfl, rfl, rfl⟩
  · refine Option.eq_none_iff_forall_ne_some.2 fun text hfind => ?_
    obtain ⟨v, hread, hv, -⟩ :=
      (hagree "server" ⟨["server"], by decide, by simp [hserver], by decide⟩ text).1 hfind
    have hmap : some (Tree.map _) = some v := hread
    cases hmap
    cases hv

end Configuration

end Fanout
