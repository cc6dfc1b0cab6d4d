import Fanout.Artifact.Coordinate

/-!
# Dependencies

A module lists the artifacts it depends on.  A dependency that needs a lookup
gets its coordinate from the resolver when it is added, and one that is already
there, with the same group, artifact and scope, is not added again.

## Main definitions

* `Dependency` — an artifact and the scope it is needed in.
* `DependencyList` — the dependencies of a module, in order.
* `DependencyList.add` — adds a dependency, or reports an unknown artifact.
-/

namespace Fanout

/-- Part of the build that needs a dependency. -/
inductive DependencyScope where
  | compile
  | runtime
  | compileOnly
  | annotationProcessor
  | test
  | testRuntime
deriving DecidableEq, Repr, Inhabited

namespace DependencyScope

def name : DependencyScope → String
  | compile => "compile"
  | runtime => "runtime"
  | compileOnly => "compileOnly"
  | annotationProcessor => "annotationProcessor"
  | test => "test"
  | testRuntime => "testRuntime"

/-- The scope of a name. -/
def ofName? : String → Option DependencyScope
  | "compile" => some compile
  | "runtime" => some runtime
  | "compileOnly" => some compileOnly
  | "annotationProcessor" => some annotationProcessor
  | "test" => some test
  | "testRuntime" => some testRuntime
  | _ => none

end DependencyScope

/-- **Dependency of a module.** -/
structure Dependency where
  group? : Option String := none
  artifact : String
  version? : Option String := none
  scope : DependencyScope := .compile
  /-- Group and version come from the resolver. -/
  needsLookup : Bool := false
deriving DecidableEq, Repr, Inhabited

namespace Dependency

/-- A dependency known by its artifact id alone. -/
def lookup (artifact : String) (scope : DependencyScope := .compile) : Dependency :=
  { artifact, scope, needsLookup := true }

/-- The dependency with the coordinate that the resolver knows. -/
def resolved (d : Dependency) (known : Resolver) : Except Fault Dependency := do
  let c ← known.resolve d.artifact
  return ⟨some c.group, c.artifact, some c.version, d.scope, false⟩

/-- The dependency, resolved if it needs to be. -/
def settled (d : Dependency) (known : Resolver) : Except Fault Dependency :=
  if d.needsLookup then d.resolved known else .ok d

/-- What two dependencies that count as one have in common. -/
def identity (d : Dependency) : Option String × String × DependencyScope :=
  (d.group?, d.artifact, d.scope)

/-- Group, artifact and version as far as they are given, then the scope. -/
def text (d : Dependency) : String :=
  (match d.group? with
    | some group => group ++ ":"
    | none => "")
    ++ d.artifact
    ++ (match d.version? with
      | some version => ":" ++ version
      | none => "")
    ++ " (" ++ d.scope.name ++ ")"

end Dependency

/-- **Dependencies of a module, in order.** -/
structure DependencyList where
  toList : List Dependency
deriving DecidableEq, Repr, Inhabited

namespace DependencyList

/-- No dependencies. -/
def empty : DependencyList := ⟨[]⟩

/-- Whether the list has a dependency that counts as the same. -/
def hasIdentity (l : DependencyList) (d : Dependency) : Bool :=
  l.toList.any fun e => e.identity = d.identity

/-- Adds a settled dependency unless the list has one like it. -/
def addSettled (l : DependencyList) (d : Dependency) : DependencyList :=
  if l.hasIdentity d then l else ⟨l.toList ++ [d]⟩

/-- **Adds a dependency**, and says whether it was new. -/
def add (l : DependencyList) (d : Dependency) (known : Resolver) :
    Except Fault (DependencyList × Bool) := do
  let settled ← d.settled known
  return (l.addSettled settled, !l.hasIdentity settled)

/-- The number of dependencies. -/
def size (l : DependencyList) : Nat := l.toList.length

/-- Whether there is no dependency. -/
def isEmpty (l : DependencyList) : Bool := l.toList.isEmpty

/-- Whether some dependency has the artifact id. -/
def containsArtifact (l : DependencyList) (artifact : String) : Bool :=
  l.toList.any fun d => d.artifact == artifact

end DependencyList

end Fanout
