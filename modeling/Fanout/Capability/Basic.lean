import Fanout.Target
import Fanout.SortedMap

/-!
# Capabilities

A capability is a unit of generation logic.  Planning looks at its name, its
target, its order, its roles and its gate; what it does when it is applied is
carried along and never looked at.

## Main definitions

* `Capability ε` — the facts for planning, and an effect of type `ε`.
* `FeatureSet ε` — capabilities by name, the first of each name.
* `FeatureSet.ordered` — the members in the order in which they are applied.
-/

namespace Fanout

/-- **Roles of a capability.** -/
structure Roles where
  /-- Included without being selected. -/
  default : Bool := false
  /-- Configures the build itself; never included without being selected. -/
  build : Bool := false
  /-- Contributes build plugins, so the shared scope always has it. -/
  buildPlugin : Bool := false
  /-- A service that the shared scope always has. -/
  sharedService : Bool := false
  /-- Gives the application its identity; one capability at most. -/
  application : Bool := false
  /-- Gives the database driver; one capability at most. -/
  databaseDriver : Bool := false
  /-- Needs singletons to be created when the application starts. -/
  eagerSingleton : Bool := false
deriving DecidableEq, Repr, Inhabited

/-- **Capability.** -/
structure Capability (ε : Type) where
  name : String
  /-- The target the capability is for, if it is for one. -/
  target? : Option Target := none
  /-- Capabilities of lower order are applied earlier. -/
  order : Int := 0
  roles : Roles := {}
  /-- A target without which the capability stays out of every target. -/
  gate? : Option Target := none
  /-- What the capability does. -/
  effect : ε

namespace Capability

variable {ε : Type}

/-- Whether the capability is for no target in particular. -/
def isNeutral (c : Capability ε) : Bool :=
  match c.target? with
  | none => true
  | some t => t.isShared

/-- Whether the capability is for the concrete target `t`. -/
def isFor (c : Capability ε) (t : Target) : Bool := c.target? = some t && !t.isShared

theorem isFor_iff {c : Capability ε} {t : Target} :
    c.isFor t = true ↔ c.target? = some t ∧ t ≠ .shared := by
  simp [isFor, ← Target.isShared_iff]

/-- A capability that is not neutral is for a concrete target. -/
theorem isNeutral_eq_false_iff {c : Capability ε} :
    c.isNeutral = false ↔ ∃ t, c.isFor t = true := by
  unfold isNeutral isFor
  cases c.target? with
  | none => simp
  | some t => simp

/-- A neutral capability is for no concrete target. -/
theorem isFor_of_isNeutral {c : Capability ε} (h : c.isNeutral = true) (t : Target) :
    c.isFor t = false := by
  rw [← Bool.not_eq_true]
  intro hfor
  rw [isNeutral_eq_false_iff.2 ⟨t, hfor⟩] at h
  cases h

/-- Whether the capability may be applied before another: by order, then by
name. -/
def precedes (a b : Capability ε) : Bool :=
  ((compare a.order b.order).then (compare a.name b.name)).isLE

end Capability

/-- **Feature set.**  Capabilities by name. -/
structure FeatureSet (ε : Type) where
  members : SortedMap String (Capability ε)
  /-- Every member stands under its own name. -/
  named : ∀ name c, members.find? name = some c → c.name = name

namespace FeatureSet

variable {ε : Type}

/-- The set without members. -/
def empty : FeatureSet ε := ⟨.empty, fun _ _ h => by simp at h⟩

instance : Inhabited (FeatureSet ε) := ⟨empty⟩

/-- The member of a name. -/
def find? (s : FeatureSet ε) (name : String) : Option (Capability ε) := s.members.find? name

/-- Whether there is a member of a name. -/
def contains (s : FeatureSet ε) (name : String) : Bool := s.members.contains name

/-- Adds a capability unless its name is taken. -/
def insert (s : FeatureSet ε) (c : Capability ε) : FeatureSet ε where
  members := s.members.insertIfNew c.name c
  named := by
    intro name d h
    rw [SortedMap.insertIfNew] at h
    split at h
    · exact s.named name d h
    · rw [SortedMap.find?_insert] at h
      split at h
      · rename_i hn
        cases h
        exact hn.symm
      · exact s.named name d h

/-- Offers a capability: the set with it, unless its name is taken, and whether the name was
new. -/
def offer (s : FeatureSet ε) (c : Capability ε) : FeatureSet ε × Bool :=
  (s.insert c, !s.contains c.name)

/-- Adds the capabilities of a list, one after the other. -/
def insertAll (s : FeatureSet ε) (cs : List (Capability ε)) : FeatureSet ε := cs.foldl insert s

/-- The first capability of each name in a list. -/
def ofList (cs : List (Capability ε)) : FeatureSet ε := empty.insertAll cs

/-- The members in the order of their names. -/
def toList (s : FeatureSet ε) : List (Capability ε) := s.members.values

/-- The names, ascending. -/
def names (s : FeatureSet ε) : List String := s.members.keys

/-- The members in the order in which they are applied. -/
def ordered (s : FeatureSet ε) : List (Capability ε) := s.toList.mergeSort Capability.precedes

/-- Whether some member's roles satisfy `p`. -/
def anyRole (s : FeatureSet ε) (p : Roles → Bool) : Bool := s.toList.any fun c => p c.roles

/-- The members for no target in particular. -/
def neutral (s : FeatureSet ε) : FeatureSet ε := ofList (s.toList.filter Capability.isNeutral)

/-- The number of members. -/
def size (s : FeatureSet ε) : Nat := s.members.size

/-- Whether there is no member. -/
def isEmpty (s : FeatureSet ε) : Bool := s.members.isEmpty

/-- The names between square brackets. -/
def text (s : FeatureSet ε) : String := "[" ++ ", ".intercalate s.names ++ "]"

/-! ## Equations -/

@[simp] theorem find?_empty (name : String) : (empty : FeatureSet ε).find? name = none := rfl

/-- After an insertion: what was there stays, and a new name leads to the new
capability. -/
theorem find?_insert (s : FeatureSet ε) (c : Capability ε) (name : String) :
    (s.insert c).find? name =
      if name = c.name ∧ s.contains name = false then some c else s.find? name := by
  show (s.members.insertIfNew c.name c).find? name = _
  rw [SortedMap.insertIfNew]
  cases h : s.members.contains c.name with
  | true =>
    rw [if_pos rfl]
    have : ¬ (name = c.name ∧ s.contains name = false) := by
      rintro ⟨rfl, hn⟩
      simp [contains, h] at hn
    rw [if_neg this]
    rfl
  | false =>
    rw [if_neg (by simp), SortedMap.find?_insert]
    by_cases hn : name = c.name
    · subst hn
      simp [contains, h]
    · simp [hn, find?]

/-- Sets with the same members are equal. -/
theorem ext_find? {s t : FeatureSet ε} (h : ∀ name, s.find? name = t.find? name) : s = t := by
  cases s with
  | mk m hm =>
    cases t with
    | mk n hn =>
      have : m = n := SortedMap.ext_find? h
      subst this
      rfl

end FeatureSet

end Fanout
