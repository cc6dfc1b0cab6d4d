import Fanout.Capability.Basic
import Fanout.Proofs.SortedMap

/-!
# Members of feature sets

A feature set keeps the first capability of each name, so the set of a list can
have fewer members than the list.  It has the same ones when the names in the
list tell its capabilities apart.

## Main definitions

* `Capability.Unambiguous` — no two capabilities of a list share a name.

## Main statements

* `FeatureSet.find?_ofList` — the set of a list has the first one of each name.
* `FeatureSet.mem_ofList` — it has all of them, if the list is unambiguous.
* `FeatureSet.ext_mem` — sets with the same members are equal.
-/

namespace Fanout

variable {ε : Type}

namespace Capability

/-- **Unambiguous capabilities.**  Capabilities of one name are the same. -/
def Unambiguous (cs : List (Capability ε)) : Prop :=
  ∀ c ∈ cs, ∀ d ∈ cs, c.name = d.name → c = d

theorem Unambiguous.subset {cs ds : List (Capability ε)} (h : Unambiguous ds) (hsub : cs ⊆ ds) :
    Unambiguous cs := by
  intro c hc d hd hname
  exact h c (hsub hc) d (hsub hd) hname

end Capability

namespace FeatureSet

open Capability (Unambiguous)

/-- A member stands under its own name. -/
instance : Membership (Capability ε) (FeatureSet ε) where
  mem s c := s.find? c.name = some c

theorem mem_def {s : FeatureSet ε} {c : Capability ε} : c ∈ s ↔ s.find? c.name = some c :=
  Iff.rfl

/-- What stands under a name is a member of that name. -/
theorem find?_eq_some_iff {s : FeatureSet ε} {name : String} {c : Capability ε} :
    s.find? name = some c ↔ c ∈ s ∧ c.name = name := by
  constructor
  · intro h
    obtain rfl := s.named name c h
    exact ⟨h, rfl⟩
  · rintro ⟨h, rfl⟩
    exact h

/-- Members of one name are the same. -/
theorem eq_of_name_eq {s : FeatureSet ε} {c d : Capability ε} (hc : c ∈ s) (hd : d ∈ s)
    (hname : c.name = d.name) : c = d := by
  rw [mem_def, hname] at hc
  rw [mem_def, hc] at hd
  exact Option.some.inj hd

/-- Sets with the same members are equal. -/
theorem ext_mem {s t : FeatureSet ε} (h : ∀ c, c ∈ s ↔ c ∈ t) : s = t := by
  refine ext_find? fun name => Option.ext fun c => ?_
  rw [find?_eq_some_iff, find?_eq_some_iff, h]

/-- The list of a set lists its members. -/
theorem mem_toList {s : FeatureSet ε} {c : Capability ε} : c ∈ s.toList ↔ c ∈ s := by
  rw [toList, SortedMap.mem_values_iff]
  constructor
  · rintro ⟨name, h⟩
    exact (find?_eq_some_iff.1 h).1
  · intro h
    exact ⟨c.name, h⟩

theorem contains_eq (s : FeatureSet ε) (name : String) :
    s.contains name = (s.find? name).isSome := rfl

theorem contains_iff {s : FeatureSet ε} {name : String} :
    s.contains name = true ↔ ∃ c ∈ s, c.name = name := by
  rw [contains_eq, Option.isSome_iff_exists]
  exact exists_congr fun c => find?_eq_some_iff

/-! ## Insertion -/

/-- After an insertion the name is taken. -/
theorem contains_insert_self (s : FeatureSet ε) (c : Capability ε) :
    (s.insert c).contains c.name = true := by
  rw [contains_eq, find?_insert]
  split
  · rfl
  next h =>
    rw [← contains_eq, ← Bool.not_eq_false]
    exact fun hnew => h ⟨rfl, hnew⟩

/-- A second insertion changes nothing. -/
theorem insert_insert (s : FeatureSet ε) (c : Capability ε) :
    (s.insert c).insert c = s.insert c := by
  refine ext_find? fun name => ?_
  rw [find?_insert, if_neg]
  rintro ⟨rfl, hnew⟩
  rw [contains_insert_self] at hnew
  cases hnew

/-- Adding a list to a set: what stood under a name stays, else the first
capability of the list that has the name is there. -/
theorem find?_insertAll (s : FeatureSet ε) (cs : List (Capability ε)) (name : String) :
    (s.insertAll cs).find? name = (s.find? name).or (cs.find? fun c => c.name == name) := by
  unfold insertAll
  induction cs generalizing s with
  | nil => simp
  | cons c cs ih =>
    rw [List.foldl_cons, ih, find?_insert, List.find?_cons]
    -- a name that is taken keeps its capability, whatever comes later
    cases hfind : s.find? name with
    | some d =>
      have hcontains : s.contains name = true := by rw [contains_eq, hfind]; rfl
      rw [if_neg fun h => by simp [hcontains] at h]
      rfl
    | none =>
      have hcontains : s.contains name = false := by rw [contains_eq, hfind]; rfl
      by_cases hname : c.name = name
      · rw [if_pos ⟨hname.symm, hcontains⟩, beq_iff_eq.2 hname]
        rfl
      · rw [if_neg fun h => hname h.1.symm, beq_eq_false_iff_ne.2 hname]

/-- The set of a list has the first capability of each name. -/
theorem find?_ofList (cs : List (Capability ε)) (name : String) :
    (ofList cs).find? name = cs.find? fun c => c.name == name := by
  rw [ofList, find?_insertAll, find?_empty, Option.none_or]

theorem mem_ofList_iff_find? {cs : List (Capability ε)} {c : Capability ε} :
    c ∈ ofList cs ↔ (cs.find? fun d => d.name == c.name) = some c := by
  rw [mem_def, find?_ofList]

/-- **The set of an unambiguous list has all its capabilities.** -/
theorem mem_ofList {cs : List (Capability ε)} (h : Unambiguous cs) {c : Capability ε} :
    c ∈ ofList cs ↔ c ∈ cs := by
  rw [mem_ofList_iff_find?]
  constructor
  · exact List.mem_of_find?_eq_some
  · intro hc
    cases hfind : cs.find? fun d => d.name == c.name with
    | none =>
      have hne := List.find?_eq_none.1 hfind c hc
      simp at hne
    | some d =>
      have hname := List.find?_some hfind
      simp only [beq_iff_eq] at hname
      rw [h d (List.mem_of_find?_eq_some hfind) c hc hname]

/-- Adding lists one after the other is adding both at once. -/
theorem insertAll_append (s : FeatureSet ε) (cs ds : List (Capability ε)) :
    s.insertAll (cs ++ ds) = (s.insertAll cs).insertAll ds :=
  List.foldl_append

theorem ofList_append (cs ds : List (Capability ε)) :
    ofList (cs ++ ds) = (ofList cs).insertAll ds :=
  insertAll_append empty cs ds

/-- A set's members are unambiguous. -/
theorem unambiguous_toList (s : FeatureSet ε) : Unambiguous s.toList := by
  intro c hc d hd hname
  exact eq_of_name_eq (mem_toList.1 hc) (mem_toList.1 hd) hname

end FeatureSet

end Fanout
