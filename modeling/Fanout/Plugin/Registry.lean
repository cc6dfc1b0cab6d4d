import Fanout.Fault
import Fanout.SortedMap

/-!
# Registry of plugin coordinates

A versioned Gradle plugin is published under a coordinate, which the registry
knows by `id:version`.  Some releases are published under a newer version, so
a rule may put another version in the place of the coordinate's.

## Main definitions

* `VersionRule` — the version that takes the place of another.
* `Registry` — coordinates by plugin key, and version rules in order.
* `Registry.find?` — the coordinate of a plugin key, after the first rule that
  applies to it.
-/

namespace Fanout

/-- **Version rule.**  Under coordinates that begin with `start`, the version
`oldVersion` becomes `newVersion`. -/
structure VersionRule where
  start : String
  oldVersion : String
  newVersion : String
deriving DecidableEq, Repr, Inhabited

namespace VersionRule

/-- The coordinate with the new version, if the rule applies. -/
def updated? (r : VersionRule) (coordinate : String) : Option String :=
  let cs := coordinate.toList
  let ending := ':' :: r.oldVersion.toList
  if r.start.toList.isPrefixOf cs && ending.isSuffixOf cs then
    some (String.ofList (cs.take (cs.length - ending.length)) ++ ":" ++ r.newVersion)
  else none

end VersionRule

/-- **Registry of plugin coordinates.** -/
structure Registry where
  plugins : SortedMap String String
  rules : List VersionRule

namespace Registry

/-- The version of registry documents. -/
def documentVersion : Nat := 1

/-- A registry without entries and rules. -/
def empty : Registry := ⟨.empty, []⟩

instance : Inhabited Registry := ⟨empty⟩

/-- Enters a coordinate under a plugin key. -/
def insert (r : Registry) (key coordinate : String) : Registry :=
  { r with plugins := r.plugins.insert key coordinate }

/-- **The coordinate of a plugin key**, its version changed by the first rule
that applies. -/
def find? (r : Registry) (key : String) : Option String :=
  (r.plugins.find? key).map fun coordinate =>
    (r.rules.findSome? fun rule => rule.updated? coordinate).getD coordinate

/-- The coordinate of a plugin version, which has to be known. -/
def coordinate (r : Registry) (id version : String) : Except Fault String :=
  match r.find? (id ++ ":" ++ version) with
  | some coordinate => .ok coordinate
  | none => .error (.unknownPluginCoordinate (id ++ ":" ++ version))

/-- The number of entries. -/
def size (r : Registry) : Nat := r.plugins.size

/-- Whether there is no entry. -/
def isEmpty (r : Registry) : Bool := r.plugins.isEmpty

/-- **The registry of the plugins that the catalog uses.** -/
def bundled : Registry where
  plugins := .ofList [
    ("com.github.johnrengelman.shadow:8.1.1", "com.github.johnrengelman:shadow:8.1.1"),
    ("io.micronaut.application:4.0.3", "io.micronaut.gradle:micronaut-gradle-plugin:4.0.3"),
    ("io.micronaut.library:4.0.3", "io.micronaut.gradle:micronaut-gradle-plugin:4.0.3"),
    ("io.micronaut.test-resources:4.0.3",
      "io.micronaut.gradle:micronaut-test-resources-plugin:4.0.3"),
    ("io.micronaut.aot:4.0.2", "io.micronaut.gradle:micronaut-aot-plugin:4.0.2"),
    ("org.jetbrains.kotlin.jvm:1.8.22", "org.jetbrains.kotlin:kotlin-gradle-plugin:1.8.22"),
    ("org.jetbrains.kotlin.kapt:1.8.22", "org.jetbrains.kotlin:kotlin-gradle-plugin:1.8.22"),
    ("org.jetbrains.kotlin.plugin.allopen:1.8.22", "org.jetbrains.kotlin:kotlin-allopen:1.8.22"),
    ("com.google.cloud.tools.jib:2.8.0",
      "com.google.cloud.tools.jib:com.google.cloud.tools.jib.gradle.plugin:2.8.0"),
    ("com.microsoft.azure.azurefunctions:1.11.0",
      "com.microsoft.azure:azure-functions-gradle-plugin:1.11.0"),
    ("com.google.devtools.ksp:1.8.22-1.0.11",
      "com.google.devtools.ksp:com.google.devtools.ksp.gradle.plugin:1.8.22-1.0.11")]
  rules := [⟨"io.micronaut.gradle:", "3.7.2", "3.7.7"⟩]

end Registry

end Fanout
