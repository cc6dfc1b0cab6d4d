import Fanout.Proofs.SortedMap
import Fanout.Template.Index

/-!
# The two tables of an index

An index keeps its templates by key, and beside them the paths they take.  The
two tables are changed separately and have to agree: a path too many blocks a
file for good, and a path too few lets a file be written twice.

## Main definitions

* `TemplateIndex.Consistent` — the recorded paths are those of the stored
  templates, and no two templates share one.
* `TemplateIndex.Reachable` — what calls make of an index without templates.
* `Registration.Describes` — an answer says what became of the index.

## Main statements

* `TemplateIndex.consistent_of_reachable` — every reachable index is consistent.
* `TemplateIndex.insert_describes`, `TemplateIndex.register_describes` — the
  answers are true.
* `Registration.Describes.kept_iff` — a template stays where it is unless
  something is stored under its key.
-/

namespace Fanout

namespace TemplateIndex

variable {x : TemplateIndex} {key : String} {t : Template}

/-! ## What is found after a call -/

theorem find?_remove (x : TemplateIndex) (key k : String) :
    (x.remove key).find? k = if k = key then none else x.find? k := by
  unfold remove
  split
  next hnone =>
    split
    next h => rw [h]; exact hnone
    next => rfl
  next => exact SortedMap.find?_erase x.templates key k

theorem mem_paths_remove (x : TemplateIndex) (key path : String) :
    path ∈ (x.remove key).paths ↔
      path ∈ x.paths ∧ ∀ t, x.find? key = some t → path ≠ t.physicalPath := by
  unfold remove find?
  split
  next hnone => simp [hnone]
  next t hsome =>
    rw [SortedSet.mem_erase, hsome]
    simp [and_comm]

/-- At a path that is taken nothing is stored. -/
theorem insert_of_taken (h : t.physicalPath ∈ x.paths) (key : String) :
    x.insert key t = (x, .duplicate) := by
  unfold insert
  exact if_pos h

/-- At a free path a template is stored, and the earlier one of its key is
gone. -/
theorem insert_of_free (h : t.physicalPath ∉ x.paths) (key : String) :
    x.insert key t =
      ({ x.remove key with
          templates := (x.remove key).templates.insert key t
          paths := (x.remove key).paths.insert t.physicalPath },
        .registered key t.module) := by
  unfold insert
  exact if_neg h

theorem find?_insert (h : t.physicalPath ∉ x.paths) (key k : String) :
    (x.insert key t).1.find? k = if k = key then some t else x.find? k := by
  rw [insert_of_free h]
  show ((x.remove key).templates.insert key t).find? k = _
  rw [SortedMap.find?_insert]
  split
  next => rfl
  next hk =>
    show (x.remove key).find? k = _
    rw [find?_remove, if_neg hk]

/-- What is found after an insertion was there before, or is the template itself,
whose path was free. -/
theorem stored_of_insert {k : String} {u : Template} (h : (x.insert key t).1.find? k = some u) :
    x.find? k = some u ∨ k = key ∧ u = t ∧ t.physicalPath ∉ x.paths := by
  by_cases htaken : t.physicalPath ∈ x.paths
  · rw [insert_of_taken htaken] at h
    exact Or.inl h
  · rw [find?_insert htaken] at h
    split at h
    next hk =>
      obtain rfl := Option.some.inj h
      exact Or.inr ⟨hk, rfl, htaken⟩
    next => exact Or.inl h

theorem mem_paths_insert (h : t.physicalPath ∉ x.paths) (key path : String) :
    path ∈ (x.insert key t).1.paths ↔ path = t.physicalPath ∨
      path ∈ x.paths ∧ ∀ t', x.find? key = some t' → path ≠ t'.physicalPath := by
  rw [insert_of_free h]
  show path ∈ (x.remove key).paths.insert t.physicalPath ↔ _
  rw [SortedSet.mem_insert, mem_paths_remove]

theorem register_of_isSuppressed {singleModule : Bool}
    (h : x.isSuppressed key t singleModule = true) (scope : Target) :
    x.register key t scope singleModule = (x, .suppressed) := by
  unfold register
  exact if_pos h

/-- What is not suppressed is inserted where its route leads. -/
theorem register_of_not_isSuppressed {singleModule : Bool}
    (h : x.isSuppressed key t singleModule = false) (scope : Target) :
    x.register key t scope singleModule =
      x.insert ((x.route ⟨key, t, scope, singleModule⟩).keyFor key)
        (t.withModule (x.route ⟨key, t, scope, singleModule⟩).module) := by
  unfold register
  exact if_neg (by simp [h])

/-! ## Consistency -/

/-- **The two tables agree.** -/
structure Consistent (x : TemplateIndex) : Prop where
  /-- The recorded paths are those of the stored templates. -/
  paths : ∀ path, path ∈ x.paths ↔ ∃ key t, x.find? key = some t ∧ t.physicalPath = path
  /-- Templates under different keys have different paths. -/
  injective : ∀ key key' t t', x.find? key = some t → x.find? key' = some t' →
    t.physicalPath = t'.physicalPath → key = key'

theorem consistent_empty (extraRules : List RoutingRule) : (empty extraRules).Consistent where
  paths := by
    intro path
    constructor
    · exact fun h => absurd h (SortedSet.notMem_empty path)
    · rintro ⟨key, t, h, -⟩
      cases h
  injective := fun _ _ _ _ h => by cases h

theorem Consistent.remove (h : x.Consistent) (key : String) : (x.remove key).Consistent where
  paths := by
    intro path
    rw [mem_paths_remove, h.paths]
    constructor
    · rintro ⟨⟨k, t, hk, rfl⟩, hother⟩
      refine ⟨k, t, ?_, rfl⟩
      rw [find?_remove, if_neg]
      · exact hk
      · rintro rfl
        exact hother t hk rfl
    · rintro ⟨k, t, hk, rfl⟩
      rw [find?_remove] at hk
      split at hk
      · cases hk
      next hne =>
        refine ⟨⟨k, t, hk, rfl⟩, ?_⟩
        intro t' ht' hpath
        exact hne (h.injective k key t t' hk ht' hpath)
  injective := by
    intro k k' t t' hk hk'
    rw [find?_remove] at hk hk'
    split at hk
    · cases hk
    split at hk'
    · cases hk'
    exact h.injective k k' t t' hk hk'

theorem Consistent.insert (h : x.Consistent) (key : String) (t : Template) :
    (x.insert key t).1.Consistent := by
  by_cases htaken : t.physicalPath ∈ x.paths
  · rw [insert_of_taken htaken]
    exact h
  -- the path of `t` was free, so no other template has it
  have hfresh : ∀ k t', x.find? k = some t' → t'.physicalPath ≠ t.physicalPath := by
    intro k t' hk hpath
    exact htaken ((h.paths _).2 ⟨k, t', hk, hpath⟩)
  constructor
  case paths =>
    intro path
    rw [mem_paths_insert htaken, h.paths]
    constructor
    · rintro (rfl | ⟨⟨k, t', hk, rfl⟩, hother⟩)
      · exact ⟨key, t, by rw [find?_insert htaken, if_pos rfl], rfl⟩
      · refine ⟨k, t', ?_, rfl⟩
        rw [find?_insert htaken, if_neg]
        · exact hk
        · rintro rfl
          exact hother t' hk rfl
    · rintro ⟨k, t', hk, rfl⟩
      rw [find?_insert htaken] at hk
      split at hk
      · obtain rfl := Option.some.inj hk
        exact Or.inl rfl
      next hne =>
        refine Or.inr ⟨⟨k, t', hk, rfl⟩, ?_⟩
        intro old hold hpath
        exact hne (h.injective k key t' old hk hold hpath)
  case injective =>
    intro k k' u u' hk hk' hpath
    rw [find?_insert htaken] at hk hk'
    split at hk <;> split at hk'
    next he he' => rw [he, he']
    next =>
      obtain rfl := Option.some.inj hk
      exact absurd hpath.symm (hfresh k' u' hk')
    next =>
      obtain rfl := Option.some.inj hk'
      exact absurd hpath (hfresh k u hk)
    next => exact h.injective k k' u u' hk hk' hpath

theorem Consistent.register (h : x.Consistent) (key : String) (t : Template) (scope : Target)
    (singleModule : Bool) : (x.register key t scope singleModule).1.Consistent := by
  unfold TemplateIndex.register
  split
  · exact h
  · exact h.insert _ _

/-! ## Reachable indexes -/

/-- **What calls make of an index without templates.** -/
inductive Reachable : TemplateIndex → Prop where
  | empty (extraRules : List RoutingRule) : Reachable (.empty extraRules)
  | register {x : TemplateIndex} (h : Reachable x) (key : String) (t : Template) (scope : Target)
      (singleModule : Bool) : Reachable (x.register key t scope singleModule).1
  | insert {x : TemplateIndex} (h : Reachable x) (key : String) (t : Template) :
      Reachable (x.insert key t).1
  | remove {x : TemplateIndex} (h : Reachable x) (key : String) : Reachable (x.remove key)
  | reviseKey {x : TemplateIndex} (h : Reachable x) (key : String) (f : Revision) :
      Reachable (x.reviseKey key f)
  | revisePattern {x : TemplateIndex} (h : Reachable x) (p : Pattern) (f : Revision) :
      Reachable (x.revisePattern p f)

/-- Every reachable index is consistent. -/
theorem consistent_of_reachable (h : x.Reachable) : x.Consistent := by
  induction h with
  | empty extraRules => exact consistent_empty extraRules
  | register _ key t scope singleModule ih => exact ih.register key t scope singleModule
  | insert _ key t ih => exact ih.insert key t
  | remove _ key ih => exact ih.remove key
  | reviseKey _ key f ih => exact ⟨ih.paths, ih.injective⟩
  | revisePattern _ p f ih => exact ⟨ih.paths, ih.injective⟩

theorem rules_insert (x : TemplateIndex) (key : String) (t : Template) :
    (x.insert key t).1.rules = x.rules := by
  unfold insert remove
  split
  · rfl
  · split <;> rfl

theorem suppressions_insert (x : TemplateIndex) (key : String) (t : Template) :
    (x.insert key t).1.suppressions = x.suppressions := by
  unfold insert remove
  split
  · rfl
  · split <;> rfl

theorem rules_register (x : TemplateIndex) (key : String) (t : Template) (scope : Target)
    (singleModule : Bool) : (x.register key t scope singleModule).1.rules = x.rules := by
  unfold register
  split
  · rfl
  · exact rules_insert x _ _

theorem suppressions_register (x : TemplateIndex) (key : String) (t : Template) (scope : Target)
    (singleModule : Bool) :
    (x.register key t scope singleModule).1.suppressions = x.suppressions := by
  unfold register
  split
  · rfl
  · exact suppressions_insert x _ _

/-- Calls leave the rules and the suppressions alone. -/
theorem conventions_of_reachable (h : x.Reachable) :
    (∃ extraRules, x.rules = RoutingRule.standard ++ extraRules) ∧
      x.suppressions = Suppression.standard := by
  induction h with
  | empty extraRules => exact ⟨⟨extraRules, rfl⟩, rfl⟩
  | register _ key t scope singleModule ih =>
    rw [rules_register, suppressions_register]
    exact ih
  | insert _ key t ih => rw [rules_insert, suppressions_insert]; exact ih
  | remove _ key ih =>
    unfold remove
    split <;> exact ih
  | reviseKey _ key f ih => exact ih
  | revisePattern _ p f ih => exact ih

/-- The standard rules come first. -/
theorem rules_of_reachable (h : x.Reachable) :
    ∃ extraRules, x.rules = RoutingRule.standard ++ extraRules :=
  (conventions_of_reachable h).1

theorem suppressions_of_reachable (h : x.Reachable) : x.suppressions = Suppression.standard :=
  (conventions_of_reachable h).2

end TemplateIndex

/-! ## What an answer says -/

namespace Registration

variable {r : Registration} {x x' : TemplateIndex} {key : String} {t : Template}

/-- **What became of the index.**  A registered template is under its key, at a
path that no other one had, and nothing else has changed; any other answer says
that nothing has changed. -/
def Describes (x x' : TemplateIndex) : Registration → Prop
  | registered key module => ∃ t, t.module = module ∧
      (∀ k t', x.find? k = some t' → t'.physicalPath ≠ t.physicalPath) ∧
      ∀ k, x'.find? k = if k = key then some t else x.find? k
  | _ => x' = x

/-- A stored template stays unless something is registered under its key. -/
theorem Describes.kept_iff (h : r.Describes x x') (hstored : x.find? key = some t) :
    x'.find? key = some t ↔ ∀ module, r ≠ .registered key module := by
  cases r with
  | registered k m =>
    obtain ⟨new, -, hfresh, hfind⟩ := h
    rw [hfind]
    constructor
    -- the new template cannot be the old one, whose path was taken
    · rintro hkept module heq
      obtain ⟨rfl, rfl⟩ := Registration.registered.inj heq
      rw [if_pos rfl] at hkept
      obtain rfl := Option.some.inj hkept
      exact hfresh k new hstored rfl
    · intro hne
      rw [if_neg, hstored]
      rintro rfl
      exact hne m rfl
  | suppressed | duplicate | noModel =>
    obtain rfl := h
    simp [hstored]

end Registration

namespace TemplateIndex

variable {x : TemplateIndex}

theorem insert_describes (h : x.Consistent) (key : String) (t : Template) :
    (x.insert key t).2.Describes x (x.insert key t).1 := by
  by_cases htaken : t.physicalPath ∈ x.paths
  · rw [insert_of_taken htaken]
    rfl
  · have hanswer : (x.insert key t).2 = .registered key t.module := by rw [insert_of_free htaken]
    rw [hanswer]
    refine ⟨t, rfl, ?_, find?_insert htaken key⟩
    intro k t' hk hpath
    exact htaken ((h.paths _).2 ⟨k, t', hk, hpath⟩)

theorem register_describes (h : x.Consistent) (key : String) (t : Template) (scope : Target)
    (singleModule : Bool) :
    (x.register key t scope singleModule).2.Describes x
      (x.register key t scope singleModule).1 := by
  unfold register
  split
  · rfl
  · exact insert_describes h _ _

end TemplateIndex

end Fanout
