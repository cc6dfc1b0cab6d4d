import Fanout.Configuration.Basic
import Fanout.Proofs.SortedMap

/-!
# Writing and reading at paths

A value is set at a path of names, and whatever stands in the way gives place to
maps.  What is found afterwards at another path is settled by how the two paths
meet: behind the written one it is what the value holds, in front of it a map, and
on a path that turns off somewhere it is what was there before.

## Main definitions

* `Tree.Holds` — what a value holds at a path of names, through maps only.
* `Tree.writtenOver` — the value that stands in a place after writing from there.

## Main statements

* `Tree.holds_setAt_append`, `Tree.exists_map_of_prefix`, `Tree.holds_setAt_of_apart`
  — what is held after writing, for each way in which two paths can meet.
* `Configuration.get?_add` — the same for dotted paths.
* `Configuration.add_add` — two writings, one after the other.

## Design notes

The inductions go along the path that was written, from one map to the one inside
it.  `Tree.setAt_cons` is the one equation for a step of it; the end of a path and
its middle differ only in what `Tree.writtenOver` puts there.
-/

namespace Fanout

namespace Tree

variable {value v w found : Tree} {fields : List (String × Tree)} {name other : String}
  {path p q rest : List String} {old? : Option Tree}

/-! ## What a value holds -/

/-- **What a value holds at a path of names**, each of which has to be the name of a
field.  At the empty path it holds itself. -/
inductive Holds : Tree → List String → Tree → Prop
  | here (value : Tree) : Holds value [] value
  | under {fields : List (String × Tree)} {name : String} {inner found : Tree}
      {path : List String} (hfind : Entries.find? name fields = some inner)
      (h : Holds inner path found) : Holds (map fields) (name :: path) found

theorem holds_nil : Holds value [] found ↔ found = value := by
  constructor
  · rintro ⟨⟩
    rfl
  · rintro rfl
    exact .here found

theorem holds_map_cons : Holds (map fields) (name :: path) found ↔
    ∃ inner, Entries.find? name fields = some inner ∧ Holds inner path found := by
  constructor
  · rintro (_ | ⟨hfind, h⟩)
    exact ⟨_, hfind, h⟩
  · rintro ⟨inner, hfind, h⟩
    exact .under hfind h

/-- Only a map holds anything at a path that goes on. -/
theorem holds_fields (hne : path ≠ []) :
    Holds (map value.fields) path found ↔ Holds value path found := by
  cases path with
  | nil => exact absurd rfl hne
  | cons name path =>
    cases value with
    | map fields => rfl
    | bool _ | int _ | float _ | string _ | list _ =>
      refine iff_of_false (fun h => ?_) nofun
      obtain ⟨inner, hfind, -⟩ := holds_map_cons.1 h
      cases hfind

/-- What a map holds further down is what the map under its first name holds. -/
theorem holds_inner (hne : path ≠ []) :
    Holds (map (((Entries.find? name fields).map Tree.fields).getD [])) path found ↔
      Holds (map fields) (name :: path) found := by
  rw [holds_map_cons]
  cases hfind : Entries.find? name fields with
  | some inner => simpa using holds_fields hne
  | none =>
    cases path with
    | nil => exact absurd rfl hne
    | cons next path => simp [holds_map_cons]

/-- **Reading finds what is held.** -/
theorem getAt?_eq_some_iff : getAt? path fields = some found ↔
    path ≠ [] ∧ Holds (map fields) path found := by
  induction path generalizing fields with
  | nil => simp
  | cons name path ih =>
    rw [and_iff_right (List.cons_ne_nil name path), holds_map_cons]
    cases path with
    | nil => simp [holds_nil, eq_comm]
    | cons next path =>
      rw [getAt?_cons_cons_eq_some]
      constructor
      · rintro ⟨inner, hfind, hread⟩
        exact ⟨map inner, hfind, (ih.1 hread).2⟩
      · rintro ⟨value, hfind, hholds⟩
        obtain _ | ⟨hnext, h⟩ := hholds
        exact ⟨_, hfind, ih.2 ⟨List.cons_ne_nil _ _, .under hnext h⟩⟩

/-! ## One step of writing -/

/-- **The value that stands in a place** after another was written at a path that
goes on from there. -/
def writtenOver : List String → Tree → Option Tree → Tree
  | [], value, _ => value
  | name :: path, value, old? => map (setAt (name :: path) value ((old?.map Tree.fields).getD []))

theorem writtenOver_of_ne_nil (hne : path ≠ []) (value : Tree) (old? : Option Tree) :
    writtenOver path value old? = map (setAt path value ((old?.map Tree.fields).getD [])) := by
  cases path with
  | nil => exact absurd rfl hne
  | cons => rfl

theorem setAt_cons (name : String) (path : List String) (value : Tree)
    (fields : List (String × Tree)) :
    setAt (name :: path) value fields =
      Entries.insert name (writtenOver path value (Entries.find? name fields)) fields := by
  cases path <;> rfl

theorem holds_setAt_cons_self :
    Holds (map (setAt (name :: path) value fields)) (name :: rest) found ↔
      Holds (writtenOver path value (Entries.find? name fields)) rest found := by
  rw [holds_map_cons, setAt_cons, Entries.find?_insert_self]
  simp

theorem holds_setAt_cons_of_ne (h : other ≠ name) :
    Holds (map (setAt (name :: path) value fields)) (other :: rest) found ↔
      Holds (map fields) (other :: rest) found := by
  rw [holds_map_cons, holds_map_cons, setAt_cons, Entries.find?_insert_of_ne h]

/-! ## Reading after writing -/

/-- Behind the written path stands what the written value holds. -/
theorem holds_setAt_append (hne : path ≠ []) (rest : List String) :
    Holds (map (setAt path value fields)) (path ++ rest) found ↔ Holds value rest found := by
  induction path generalizing fields with
  | nil => exact absurd rfl hne
  | cons name path ih =>
    rw [List.cons_append, holds_setAt_cons_self]
    cases path with
    | nil => rfl
    | cons next path => exact ih (List.cons_ne_nil next path)

/-- In front of the end of the written path stands a map. -/
theorem exists_map_of_prefix (h : q <+: p) (hne : q ≠ p) :
    ∃ inner, Holds (map (setAt p value fields)) q (map inner) := by
  obtain ⟨rest, rfl⟩ := h
  have hrest : rest ≠ [] := fun hrest => hne (by rw [hrest, List.append_nil])
  clear hne
  induction q generalizing fields with
  | nil => exact ⟨_, .here _⟩
  | cons name q ih =>
    have hpath : q ++ rest ≠ [] := List.append_ne_nil_of_right_ne_nil q hrest
    rw [List.cons_append]
    simp only [holds_setAt_cons_self, writtenOver_of_ne_nil hpath]
    exact ih

/-- On a path that turns off from the written one stands what stood there before. -/
theorem holds_setAt_of_apart (hp : ¬ p <+: q) (hq : ¬ q <+: p) :
    Holds (map (setAt p value fields)) q found ↔ Holds (map fields) q found := by
  induction p generalizing q fields with
  | nil => exact absurd List.nil_prefix hp
  | cons name p ih =>
    cases q with
    | nil => exact absurd List.nil_prefix hq
    | cons other q =>
      by_cases hname : other = name
      · subst hname
        simp only [List.cons_prefix_cons, true_and] at hp hq
        -- neither path ends here, so both lead into the map under the name
        have hpne : p ≠ [] := by rintro rfl; exact hp List.nil_prefix
        have hqne : q ≠ [] := by rintro rfl; exact hq List.nil_prefix
        rw [holds_setAt_cons_self, writtenOver_of_ne_nil hpne, ih hp hq, holds_inner hqne]
      · exact holds_setAt_cons_of_ne hname

/-! ## Writing after writing -/

/-- What was written at a path, or behind it, is gone when the path is written
again. -/
theorem setAt_setAt_of_prefix (hne : q ≠ []) (h : q <+: p) :
    setAt q w (setAt p v fields) = setAt q w fields := by
  induction q generalizing p fields with
  | nil => exact absurd rfl hne
  | cons name q ih =>
    cases p with
    | nil => exact absurd (List.prefix_nil.1 h) hne
    | cons name' p =>
      obtain ⟨rfl, hrest⟩ := List.cons_prefix_cons.1 h
      rw [setAt_cons, setAt_cons name p, Entries.find?_insert_self, Entries.insert_insert_self,
        setAt_cons]
      refine congrArg (fun value => Entries.insert name value fields) ?_
      by_cases hq : q = []
      · rw [hq]
        rfl
      · have hp : p ≠ [] := by rintro rfl; exact hq (List.prefix_nil.1 hrest)
        rw [writtenOver_of_ne_nil hq, writtenOver_of_ne_nil hp, writtenOver_of_ne_nil hq]
        exact congrArg map (ih hq hrest)

/-- **Paths that turn off from each other are written in any order.** -/
theorem setAt_comm (hfields : (map fields).Canonical) (hp : ¬ p <+: q) (hq : ¬ q <+: p) :
    setAt q w (setAt p v fields) = setAt p v (setAt q w fields) := by
  induction p generalizing q fields with
  | nil => exact absurd List.nil_prefix hp
  | cons name p ih =>
    cases q with
    | nil => exact absurd List.nil_prefix hq
    | cons other q =>
      by_cases hname : other = name
      · subst hname
        simp only [List.cons_prefix_cons, true_and] at hp hq
        have hpne : p ≠ [] := by rintro rfl; exact hp List.nil_prefix
        have hqne : q ≠ [] := by rintro rfl; exact hq List.nil_prefix
        simp only [setAt_cons, Entries.find?_insert_self, Entries.insert_insert_self,
          writtenOver_of_ne_nil hpne, writtenOver_of_ne_nil hqne]
        refine congrArg (fun inner => Entries.insert other (map inner) fields) ?_
        exact ih (canonical_inner hfields other) hp hq
      · simp only [setAt_cons, Entries.find?_insert_of_ne hname,
          Entries.find?_insert_of_ne (Ne.symm hname)]
        exact Entries.insert_comm (Ne.symm hname) _ _ ((canonical_map fields).1 hfields).1

end Tree

/-! ## Dotted paths -/

namespace Configuration

variable {c c' : Configuration}

theorem get?_eq_some_iff {path : String} {found : Tree} : c.get? path = some found ↔
    segments path ≠ [] ∧ Tree.Holds (.map c.values) (segments path) found :=
  Tree.getAt?_eq_some_iff

/-- A configuration is its label and its settings. -/
theorem eq_of_values (hkind : c.kind = c'.kind) (henvironment : c.environment? = c'.environment?)
    (hvalues : c.values = c'.values) : c = c' := by
  obtain ⟨kind, environment?, values, canonical⟩ := c
  obtain ⟨kind', environment?', values', canonical'⟩ := c'
  obtain rfl : kind = kind' := hkind
  obtain rfl : environment? = environment?' := henvironment
  obtain rfl : values = values' := hvalues
  rfl

/-- **Reading after writing.**  At the written path stands the value, and behind it
what the value holds.  In front of the end of the written path stands a map.  On a
path that turns off from it stands what stood there before.  Only the segments of a
path count; at a path that has none, nothing is written and nothing found. -/
theorem get?_add (c : Configuration) (v : Setting) (p q : String) :
    (segments p ≠ [] → segments q ≠ [] →
      (segments q = segments p → (c.add p v).get? q = some v.tree) ∧
      (∀ rest, segments q = segments p ++ rest →
        ∀ found, (c.add p v).get? q = some found ↔ Tree.Holds v.tree rest found) ∧
      (¬ segments p <+: segments q → ¬ segments q <+: segments p →
        (c.add p v).get? q = c.get? q) ∧
      (segments q <+: segments p → segments q ≠ segments p →
        ∃ inner, (c.add p v).get? q = some (.map inner))) ∧
    (segments p = [] → c.add p v = c ∧ c.get? p = none) := by
  constructor
  case right =>
    intro hp
    refine ⟨eq_of_values rfl rfl ?_, ?_⟩
    · rw [values_add, hp, Tree.setAt_nil]
    · rw [get?, hp, Tree.getAt?_nil]
  intro hp hq
  have hread : ∀ found, (c.add p v).get? q = some found ↔
      Tree.Holds (.map (Tree.setAt (segments p) v.tree c.values)) (segments q) found :=
    fun found => get?_eq_some_iff.trans (and_iff_right hq)
  have hbehind : ∀ rest, segments q = segments p ++ rest →
      ∀ found, (c.add p v).get? q = some found ↔ Tree.Holds v.tree rest found := by
    intro rest hrest found
    rw [hread, hrest, Tree.holds_setAt_append hp]
  refine ⟨fun hsame => ?_, hbehind, fun hpq hqp => Option.ext fun found => ?_, fun hpre hne => ?_⟩
  · exact (hbehind [] (by rw [hsame, List.append_nil]) v.tree).2 (.here v.tree)
  · rw [hread, Tree.holds_setAt_of_apart hpq hqp, get?_eq_some_iff, and_iff_right hq]
  · have hmap : ∃ inner, Tree.Holds (.map (Tree.setAt (segments p) v.tree c.values)) (segments q)
        (.map inner) := Tree.exists_map_of_prefix hpre hne
    obtain ⟨inner, hinner⟩ := hmap
    exact ⟨inner, (hread _).2 hinner⟩

/-- A number set behind a scalar is found there, and in the place of the scalar
stands a map. -/
theorem get?_add_retries :
    let c := application.add "kafka" (.string "enabled")
    (c.add "kafka..retries" (.int 3)).get? ".kafka.retries" = some (.int 3) ∧
      ∃ inner, (c.add "kafka..retries" (.int 3)).get? "kafka" = some (.map inner) := by
  intro c
  have hbehind := (get?_add c (.int 3) "kafka..retries" ".kafka.retries").1 (by decide) (by decide)
  have hfront := (get?_add c (.int 3) "kafka..retries" "kafka").1 (by decide) (by decide)
  exact ⟨hbehind.1 (by decide), hfront.2.2.2 (by decide) (by decide)⟩

/-- **Writing after writing.**  Values at two paths that turn off from each other are
set in any order.  What was set at a path, or behind it, is gone when the path is set
again. -/
theorem add_add (c : Configuration) (v w : Setting) (p q : String) :
    (¬ segments p <+: segments q → ¬ segments q <+: segments p →
      (c.add p v).add q w = (c.add q w).add p v) ∧
    (segments q ≠ [] → segments q <+: segments p → (c.add p v).add q w = c.add q w) :=
  ⟨fun hpq hqp => eq_of_values rfl rfl (Tree.setAt_comm c.canonical hpq hqp),
    fun hq hpre => eq_of_values rfl rfl (Tree.setAt_setAt_of_prefix hq hpre)⟩

/-- Two settings below a scalar take its place in either order, and a scalar takes the
place of both. -/
theorem add_add_kafka :
    let c := application.add "kafka" (.string "enabled")
    (c.add "kafka.retries" (.int 3)).add "kafka.acks" (.string "all") =
        (c.add "kafka.acks" (.string "all")).add "kafka.retries" (.int 3) ∧
      (c.add "kafka.retries" (.int 3)).add "kafka." (.bool true) = c.add "kafka." (.bool true) := by
  intro c
  have happart := (add_add c (.int 3) (.string "all") "kafka.retries" "kafka.acks").1
  have hover := (add_add c (.int 3) (.bool true) "kafka.retries" "kafka.").2
  exact ⟨happart (by decide) (by decide), hover (by decide) (by decide)⟩

end Configuration

end Fanout
