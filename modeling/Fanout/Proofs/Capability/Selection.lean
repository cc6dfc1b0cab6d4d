import Fanout.Capability.Selection
import Fanout.Proofs.SortedMap

/-!
# What a selection records

A selection is made by choices, one after the other: a name is selected, or it
is propagated to a target.  Nothing is recorded but the choices, in no order, and
of the propagations those to concrete targets.

## Main definitions

* `Selection.Choice` — one choice of the caller.
* `Selection.ofChoices` — the selection that a list of choices makes.
-/

namespace Fanout.Selection

/-- **Choice of the caller.** -/
inductive Choice where
  | select (name : String)
  | propagate (name : String) (t : Target)
deriving DecidableEq, Repr

/-- The selection after one more choice. -/
def choose (s : Selection) : Choice → Selection
  | .select name => s.select name
  | .propagate name t => s.propagate name t

/-- The selection that choices make, in their order. -/
def ofChoices (choices : List Choice) : Selection := choices.foldl choose empty

/-! ## One choice -/

theorem isSelected_select (s : Selection) (name other : String) :
    (s.select name).isSelected other = true ↔ other = name ∨ s.isSelected other = true :=
  SortedSet.mem_insert

theorem isSelected_propagate (s : Selection) (name other : String) (t : Target) :
    (s.propagate name t).isSelected other = s.isSelected other := by
  unfold propagate
  split <;> rfl

/-- Selecting one name after the other. -/
theorem isSelected_foldl_select (names : List String) (s : Selection) (name : String) :
    (names.foldl select s).isSelected name = true ↔ name ∈ names ∨ s.isSelected name = true := by
  induction names generalizing s with
  | nil => simp
  | cons first names ih => rw [List.foldl_cons, ih, isSelected_select, List.mem_cons, or_left_comm,
      or_assoc]

theorem mem_targets_propagate (s : Selection) (name other : String) (t u : Target) :
    u ∈ (s.propagate name t).targets other ↔
      (other = name ∧ u = t ∧ t ≠ .shared) ∨ u ∈ s.targets other := by
  unfold propagate
  split
  next h => simp [Target.isShared_iff.1 h]
  next h =>
    have ht : t ≠ .shared := fun ht => h (Target.isShared_iff.2 ht)
    unfold targets
    rw [SortedMap.find?_insert]
    by_cases hother : other = name
    · subst hother
      simp [SortedSet.mem_insert, ht]
    · simp [hother]

/-! ## All choices -/

/-- The selected names are those that were chosen. -/
theorem isSelected_ofChoices (choices : List Choice) (name : String) :
    (ofChoices choices).isSelected name = true ↔ .select name ∈ choices := by
  have run : ∀ s : Selection, (choices.foldl choose s).isSelected name = true ↔
      .select name ∈ choices ∨ s.isSelected name = true := by
    induction choices with
    | nil => simp
    | cons choice choices ih =>
      intro s
      rw [List.foldl_cons, ih, List.mem_cons]
      cases choice with
      | select chosen => simp [choose, isSelected_select, or_left_comm, or_assoc]
      | propagate chosen t => simp [choose, isSelected_propagate]
  rw [ofChoices, run]
  exact or_iff_left (SortedSet.notMem_empty name)

/-- The targets of a name are the concrete ones it was propagated to. -/
theorem mem_targets_ofChoices (choices : List Choice) (name : String) (t : Target) :
    t ∈ (ofChoices choices).targets name ↔ .propagate name t ∈ choices ∧ t ≠ .shared := by
  have run : ∀ s : Selection, t ∈ (choices.foldl choose s).targets name ↔
      (.propagate name t ∈ choices ∧ t ≠ .shared) ∨ t ∈ s.targets name := by
    induction choices with
    | nil => simp
    | cons choice choices ih =>
      intro s
      rw [List.foldl_cons, ih, List.mem_cons]
      cases choice with
      | select chosen => simp [choose, select, targets]
      | propagate chosen u =>
        rw [choose, mem_targets_propagate, ← or_assoc]
        refine or_congr_left ?_
        constructor
        · rintro (⟨hmem, ht⟩ | ⟨rfl, rfl, ht⟩)
          · exact ⟨Or.inr hmem, ht⟩
          · exact ⟨Or.inl rfl, ht⟩
        · rintro ⟨heq | hmem, ht⟩
          · obtain ⟨rfl, rfl⟩ := Choice.propagate.inj heq
            exact Or.inr ⟨rfl, rfl, ht⟩
          · exact Or.inl ⟨hmem, ht⟩
  rw [ofChoices, run]
  exact or_iff_left (SortedSet.notMem_empty t)

/-- A name is propagated when it has a target. -/
theorem isPropagated_iff (s : Selection) (name : String) :
    s.isPropagated name = true ↔ ∃ t, t ∈ s.targets name := by
  have hempty : (s.targets name).isEmpty = true ↔ (s.targets name).toList = [] :=
    SortedMap.isEmpty_iff _
  rw [isPropagated, Bool.not_eq_true', ← Bool.not_eq_true, hempty,
    List.eq_nil_iff_forall_not_mem, Classical.not_forall_not]
  exact exists_congr fun t => SortedSet.mem_toList

end Fanout.Selection
