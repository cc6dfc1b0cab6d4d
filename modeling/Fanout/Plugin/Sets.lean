import Fanout.BuildOptions
import Fanout.Plugin.Propagation
import Fanout.Plugin.Registry
import Fanout.Store.Scoped

/-!
# Plugin sets

Each module applies a set of plugins.  Adding a plugin under a concrete target
may add it to the shared module too, as the propagation policy says.

## Main definitions

* `PluginSets` — the set of each module, and the policy.
* `PluginSets.add` — adds a plugin, or reports an unknown artifact.
* `PluginSets.coordinates` — the published coordinates of all versioned Gradle
  plugins.
-/

namespace Fanout

/-- **Plugin sets of the modules.** -/
structure PluginSets where
  sets : Scoped (SortedSet Plugin)
  policy : PropagationPolicy

namespace PluginSets

/-- No plugins. -/
def empty (policy : PropagationPolicy) : PluginSets := ⟨.ofBase .empty, policy⟩

/-- Puts a plugin into the set of one module. -/
def putIn (s : PluginSets) (t : Target) (p : Plugin) : PluginSets :=
  { s with sets := s.sets.update t .empty fun set => set.insert p }

/-- Puts a settled plugin where the policy wants it. -/
def addSettled (s : PluginSets) (t : Target) (p : Plugin) : PluginSets :=
  if s.policy.propagates p then (s.putIn .shared p).putIn t p else s.putIn t p

/-- **Adds a plugin under a target.** -/
def add (s : PluginSets) (t : Target) (p : Plugin) (known : Resolver) : Except Fault PluginSets := do
  let settled ← p.settled known
  return s.addSettled t settled

/-- The set of a module; empty if nothing was added there. -/
def plugins (s : PluginSets) (t : Target) : SortedSet Plugin := (s.sets.find? t).getD .empty

/-- The plugins of all modules. -/
def all (s : PluginSets) : SortedSet Plugin :=
  s.sets.toList.foldl (fun union entry => union.insertAll entry.2.toList) .empty

/-- The plugins that a module's build applies.  The shared module of a function
build applies those of all modules but the one that makes an application. -/
def view (s : PluginSets) (t : Target) (type : ApplicationType) : SortedSet Plugin :=
  if t.isShared && type = .function then
    .ofList (s.all.toList.filter fun p => !p.isGradleId Plugin.applicationId)
  else s.plugins t

/-- Every module with a set, the shared one first. -/
def scopes (s : PluginSets) : List (Target × SortedSet Plugin) := s.sets.toList

/-- Id and version of a versioned Gradle plugin. -/
def gradleRelease? : Plugin → Option (String × String)
  | .gradle id (some version) _ => some (id, version)
  | _ => none

/-- **Published coordinates of the versioned Gradle plugins of all modules.**
All of them have to be in the registry. -/
def coordinates (s : PluginSets) (r : Registry) : Except Fault (SortedSet String) := do
  let found ← (s.all.toList.filterMap gradleRelease?).mapM fun p => r.coordinate p.1 p.2
  return .ofList found

end PluginSets

end Fanout
