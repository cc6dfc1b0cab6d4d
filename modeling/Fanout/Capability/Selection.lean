import Fanout.Target
import Fanout.SortedMap

/-!
# Selection

What the caller chose: capabilities by name, and the concrete targets to which
neutral capabilities also apply.
-/

namespace Fanout

/-- **Selection.** -/
structure Selection where
  selected : SortedSet String
  /-- The targets of each propagated name. -/
  propagated : SortedMap String (SortedSet Target)
  /-- No name is propagated to the shared scope. -/
  concrete : ∀ name targets, propagated.find? name = some targets → .shared ∉ targets

namespace Selection

/-- Nothing is chosen. -/
def empty : Selection where
  selected := .empty
  propagated := .empty
  concrete := fun _ _ h => by simp at h

instance : Inhabited Selection := ⟨empty⟩

/-- Selects a capability. -/
def select (s : Selection) (name : String) : Selection :=
  { s with selected := s.selected.insert name }

/-- The targets a name is propagated to. -/
def targets (s : Selection) (name : String) : SortedSet Target :=
  (s.propagated.find? name).getD .empty

/-- A name is propagated to concrete targets only. -/
theorem shared_notMem_targets (s : Selection) (name : String) : .shared ∉ s.targets name := by
  unfold targets
  cases h : s.propagated.find? name with
  | none => exact Bool.false_ne_true
  | some targets => exact s.concrete name targets h

/-- Propagates a capability to a target.  The shared scope has every neutral
capability anyway, so propagating there changes nothing. -/
def propagate (s : Selection) (name : String) (t : Target) : Selection :=
  if h : t.isShared then s
  else
    { s with
      propagated := s.propagated.insert name ((s.targets name).insert t)
      concrete := by
        intro other targets hfind
        rw [SortedMap.find?_insert] at hfind
        split at hfind
        · obtain rfl := Option.some.inj hfind
          rw [SortedSet.mem_insert]
          rintro (rfl | hmem)
          · exact h rfl
          · exact s.shared_notMem_targets name hmem
        · exact s.concrete other targets hfind }

/-- Whether a capability is selected. -/
def isSelected (s : Selection) (name : String) : Bool := s.selected.contains name

/-- Whether a capability is propagated to some target. -/
def isPropagated (s : Selection) (name : String) : Bool := !(s.targets name).isEmpty

/-- Whether a capability is propagated to a target. -/
def isPropagatedTo (s : Selection) (name : String) (t : Target) : Bool :=
  (s.targets name).contains t

@[simp] theorem propagate_shared (s : Selection) (name : String) :
    s.propagate name .shared = s := rfl

@[simp] theorem targets_empty (name : String) : empty.targets name = .empty := rfl

end Selection

end Fanout
