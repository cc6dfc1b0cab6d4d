import Fanout.BuildOptions
import Fanout.Capability.Basic
import Fanout.Capability.Selection

/-!
# Partition

The capabilities of a run are split into one set for each target.  A capability
for a concrete target goes there.  A neutral one goes into the shared scope, or
to the targets it is propagated to; and into every active target if it is
selected, is included by default, or fills a role that only one capability may
fill.

## Main definitions

* `Partition.compute` — the split, or a conflict about a singleton role.
* `Gathered` — what one pass over the capabilities collects.
* `Gathered.take` — what the pass does with one capability.
* `isGatedOut` — a capability's gate is a target that no capability is for.

## Design notes

The pass reads the capabilities in input order and takes the first of each name.
It has to know beforehand which targets the capabilities are for: a gate may be
a target that only a later capability is for.  What every active target has in
common is known only after the pass, and is then added to each target's set.
-/

namespace Fanout

/-- **Partition of a run's capabilities.** -/
structure Partition (ε : Type) where
  /-- Every capability, the first of each name. -/
  all : FeatureSet ε
  /-- The set of each active concrete target. -/
  byTarget : SortedMap Target (FeatureSet ε)
  /-- The set of the shared scope. -/
  shared : FeatureSet ε

namespace Partition

variable {ε : Type}

/-! ## Who takes part -/

/-- Whether some capability is for the target. -/
def isDeclared (cs : List (Capability ε)) (t : Target) : Bool := cs.any fun c => c.isFor t

/-- Whether a capability is kept out of every target, because its gate is a
target that no capability is for. -/
def isGatedOut (cs : List (Capability ε)) (c : Capability ε) : Bool :=
  match c.gate? with
  | none => false
  | some gate => !isDeclared cs gate

/-- Whether a neutral capability is included without being selected. -/
def isIncluded (c : Capability ε) : Bool :=
  c.roles.default && !c.roles.build && c.gate?.isNone

/-! ## Singleton roles -/

/-- The roles that only one capability may fill, in the order in which a
capability is offered for them. -/
def singletonRoles : List SingletonRole := [.application, .databaseDriver]

/-- Whether a capability has a singleton role. -/
def claims : SingletonRole → Capability ε → Bool
  | .application, c => c.roles.application
  | .databaseDriver, c => c.roles.databaseDriver

/-- Who holds a role after a capability was offered for it: the holder keeps it,
or the policy makes the offer a conflict. -/
def offer (policy : SingletonPolicy) (role : SingletonRole) (holder? : Option (Capability ε))
    (c : Capability ε) : Except Fault (Option (Capability ε)) :=
  match holder? with
  | none => .ok (some c)
  | some holder =>
    if holder.name = c.name then .ok (some holder)
    else
      match policy with
      | .keepFirst => .ok (some holder)
      | .reject => .error (.conflictingRole role holder.name c.name)

/-- Offers a capability for a role, if it claims the role. -/
def fill (policy : SingletonPolicy) (c : Capability ε)
    (holders : SingletonRole → Option (Capability ε)) (role : SingletonRole) :
    Except Fault (SingletonRole → Option (Capability ε)) :=
  if claims role c then do
    let holder? ← offer policy role (holders role) c
    return fun r => if r = role then holder? else holders r
  else .ok holders

/-! ## The pass -/

/-- Puts a capability into the set of a target. -/
def put (c : Capability ε) (sets : SortedMap Target (FeatureSet ε)) (t : Target) :
    SortedMap Target (FeatureSet ε) :=
  sets.insert t (((sets.find? t).getD .empty).insert c)

/-- **What the pass has collected so far.** -/
structure Gathered (ε : Type) where
  /-- The first capability of each name. -/
  all : FeatureSet ε := .empty
  /-- The names of the capabilities that are gated out. -/
  gatedOut : SortedSet String := .empty
  /-- The capabilities that make a target active: those for it and those
  propagated to it. -/
  byTarget : SortedMap Target (FeatureSet ε) := .empty
  /-- The capabilities included without being selected. -/
  included : List (Capability ε) := []
  /-- The selected capabilities. -/
  specified : List (Capability ε) := []
  /-- Who holds each singleton role. -/
  holder? : SingletonRole → Option (Capability ε) := fun _ => none

namespace Gathered

/-- Takes a neutral capability that its gate admits. -/
def takeNeutral (selection : Selection) (policy : SingletonPolicy) (s : Gathered ε)
    (c : Capability ε) : Except Fault (Gathered ε) := do
  let holder? ← singletonRoles.foldlM (fill policy c) s.holder?
  return { s with
    holder?
    included := if isIncluded c then s.included ++ [c] else s.included
    specified := if selection.isSelected c.name then s.specified ++ [c] else s.specified
    byTarget := (selection.targets c.name).toList.foldl (put c) s.byTarget }

/-- Takes a capability whose name is new. -/
def takeNew (cs : List (Capability ε)) (selection : Selection) (policy : SingletonPolicy)
    (s : Gathered ε) (c : Capability ε) : Except Fault (Gathered ε) :=
  let s := { s with all := s.all.insert c }
  if isGatedOut cs c then .ok { s with gatedOut := s.gatedOut.insert c.name }
  else if c.isNeutral then s.takeNeutral selection policy c
  else
    match c.target? with
    | none => .ok s
    | some t => .ok { s with byTarget := put c s.byTarget t }

/-- Takes a capability of the run `cs`, unless one of its name was taken
before. -/
def take (cs : List (Capability ε)) (selection : Selection) (policy : SingletonPolicy)
    (s : Gathered ε) (c : Capability ε) : Except Fault (Gathered ε) :=
  if s.all.contains c.name then .ok s else s.takeNew cs selection policy c

/-- The capabilities that every active target has. -/
def common (s : Gathered ε) : List (Capability ε) :=
  s.included ++ s.specified ++ singletonRoles.filterMap s.holder?

/-- Whether a capability stays in the shared scope. -/
def staysShared (selection : Selection) (s : Gathered ε) (c : Capability ε) : Bool :=
  c.isNeutral
    && (c.roles.buildPlugin || c.roles.sharedService || s.gatedOut.contains c.name
      || !selection.isPropagated c.name)

/-- The partition, when the pass is over. -/
def partition (selection : Selection) (s : Gathered ε) : Partition ε where
  all := s.all
  byTarget := s.byTarget.mapValues fun _ set => set.insertAll s.common
  shared := .ofList (s.all.toList.filter (s.staysShared selection))

end Gathered

/-- **The split of a run's capabilities.** -/
def compute (cs : List (Capability ε)) (selection : Selection) (policy : SingletonPolicy) :
    Except Fault (Partition ε) := do
  let gathered ← cs.foldlM (Gathered.take cs selection policy) {}
  return gathered.partition selection

/-! ## Reading a partition -/

/-- The active concrete targets, in target order. -/
def concreteTargets (p : Partition ε) : List Target := p.byTarget.keys

/-- The active targets, the shared scope last. -/
def activeTargets (p : Partition ε) : List Target := p.concreteTargets ++ [.shared]

/-- Whether the shared scope is the only active target. -/
def isSingleModule (p : Partition ε) : Bool := p.byTarget.isEmpty

/-- The set of an active target. -/
def subset? (p : Partition ε) (t : Target) : Option (FeatureSet ε) :=
  if t.isShared then some p.shared else p.byTarget.find? t

@[simp] theorem subset?_shared (p : Partition ε) : p.subset? .shared = some p.shared := rfl

end Partition

end Fanout
