import Fanout.Proofs.Capability.FeatureSet

/-!
# The order of application

The capabilities of a set are applied by order, and by name where the order is
the same.  Members of a set have different names, so this order is strict, and
there is one way only to list a set in it.

## Main statements

* `FeatureSet.mem_ordered` — the ordered list of a set lists its members.
* `FeatureSet.ordered_ascending` — it ascends strictly.
* `FeatureSet.eq_ordered_iff` — no other list of the members does.
-/

namespace Fanout

variable {ε : Type}

namespace Capability

/-- **A capability comes before another** in the order of application. -/
def Before (a b : Capability ε) : Prop :=
  (compare a.order b.order).then (compare a.name b.name) = .lt

instance (a b : Capability ε) : Decidable (a.Before b) :=
  inferInstanceAs (Decidable (_ = Ordering.lt))

/-- Capabilities of different names are never on a par. -/
theorem not_tied_of_name_ne {a b : Capability ε} (hne : a.name ≠ b.name) :
    compareLex (compareOn order) (compareOn name) a b ≠ .eq := by
  intro htie
  obtain ⟨-, hname⟩ := Ordering.then_eq_eq.1 htie
  exact hne (Std.LawfulEqCmp.eq_of_compare hname)

end Capability

namespace FeatureSet

variable {s : FeatureSet ε} {c : Capability ε}

/-- The ordered list of a set lists its members. -/
theorem mem_ordered : c ∈ s.ordered ↔ c ∈ s := by
  rw [ordered, List.mem_mergeSort, mem_toList]

/-- The members are listed under their names. -/
theorem map_name_toList (s : FeatureSet ε) : s.toList.map Capability.name = s.names := by
  rw [toList, SortedMap.values, List.map_map, names, SortedMap.keys]
  refine List.map_congr_left fun e he => ?_
  exact s.named e.1 e.2 (s.members.find?_eq_some_iff.2 he)

/-- No two members have one name. -/
theorem pairwise_name_ne (s : FeatureSet ε) : s.toList.Pairwise fun a b => a.name ≠ b.name := by
  rw [← List.pairwise_map, map_name_toList]
  exact s.members.nodup_keys

/-- **The ordered list of a set ascends strictly.** -/
theorem ordered_ascending (s : FeatureSet ε) : s.ordered.Pairwise Capability.Before :=
  -- the order is that of two keys, the second of which counts when the first is the same
  ascending_mergeSort (compareLex (compareOn Capability.order) (compareOn Capability.name))
    (s.pairwise_name_ne.imp Capability.not_tied_of_name_ne)

/-- **There is one way to list a set in the order of application.** -/
theorem eq_ordered_iff {l : List (Capability ε)} :
    l = s.ordered ↔ (∀ c, c ∈ l ↔ c ∈ s) ∧ l.Pairwise Capability.Before := by
  constructor
  · rintro rfl
    exact ⟨fun c => mem_ordered, ordered_ascending s⟩
  · rintro ⟨hmem, hascending⟩
    refine eq_of_ascending (compareLex (compareOn Capability.order) (compareOn Capability.name))
      hascending (ordered_ascending s) fun c => ?_
    rw [hmem, mem_ordered]

end FeatureSet

end Fanout
