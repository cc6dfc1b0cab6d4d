import Fanout.Artifact.Coordinate
import Fanout.SortedMap

/-!
# Build plugins

A plugin is applied by a Gradle script or declared in a Maven build.  The
version of a plugin may come from the resolver.

## Main definitions

* `Plugin` — a plugin of either build tool.
* `Plugin.resolved` — the plugin with the coordinate that the resolver knows.
* `Plugin.key` — the fields in the order in which plugins are compared.

## Design notes

Plugins are compared through their keys.  Gradle plugins come before Maven
plugins, a missing text before any other, and the keys are lists of optional
texts, so their order needs no proof of its own.
-/

namespace Fanout

/-- **Build plugin.** -/
inductive Plugin where
  /-- A plugin of a Gradle script: its id, its version, and the artifact whose
  published version becomes the version of the plugin. -/
  | gradle (id : String) (version? : Option String) (lookup? : Option String)
  /-- A plugin of a Maven build. -/
  | maven (group? : Option String) (artifact : String) (version? : Option String)
    (needsLookup : Bool)
deriving DecidableEq, Repr, Inhabited

namespace Plugin

/-- Packages an application with its dependencies; every shared module has
it. -/
def shadowId : String := "com.github.johnrengelman.shadow"

/-- Azure functions in Gradle builds. -/
def azureFunctionsId : String := "com.microsoft.azure.azurefunctions"

/-- Azure functions in Maven builds. -/
def azureFunctionsArtifact : String := "azure-functions-maven-plugin"

/-- Makes a module an application. -/
def applicationId : String := "io.micronaut.application"

/-- Makes a module a library. -/
def libraryId : String := "io.micronaut.library"

/-- Gradle plugin id, or Maven artifact id. -/
def identifier : Plugin → String
  | gradle id _ _ => id
  | maven _ artifact _ _ => artifact

/-- The version, if the plugin has one. -/
def version? : Plugin → Option String
  | gradle _ version? _ => version?
  | maven _ _ version? _ => version?

/-- Whether the version has to be looked up. -/
def needsLookup : Plugin → Bool
  | gradle _ version? lookup? => lookup?.isSome && version?.isNone
  | maven _ _ _ needsLookup => needsLookup

/-- Whether this is the Gradle plugin of an id. -/
def isGradleId (id : String) : Plugin → Bool
  | gradle id' _ _ => id' = id
  | maven _ _ _ _ => false

/-- Identifier and version. -/
def text (p : Plugin) : String :=
  p.identifier ++
    (match p.version? with
      | some version => ":" ++ version
      | none => "")

/-- The plugin with the coordinate that the resolver knows.  A Gradle plugin
without an artifact to look up stays as it is. -/
def resolved (known : Resolver) : Plugin → Except Fault Plugin
  | gradle id version? none => .ok (gradle id version? none)
  | gradle id _ (some artifact) => do
    let c ← known.resolve artifact
    return gradle id (some c.version) none
  | maven _ artifact _ _ => do
    let c ← known.resolve artifact
    return maven (some c.group) c.artifact (some c.version) false

/-- The plugin, resolved if it needs to be. -/
def settled (p : Plugin) (known : Resolver) : Except Fault Plugin :=
  if p.needsLookup then p.resolved known else .ok p

/-! ## Order -/

/-- **Key for comparisons.** -/
def key : Plugin → List (Option String)
  | gradle id version? lookup? => [none, some id, version?, lookup?]
  | maven group? artifact version? needsLookup =>
    [some "", group?, some artifact, version?, if needsLookup then some "" else none]

theorem key_injective {p q : Plugin} (h : p.key = q.key) : p = q := by
  cases p <;> cases q <;> simp_all [key]
  rename_i a b
  revert h
  cases a <;> cases b <;> simp

instance : Ord Plugin where
  compare p q := compare p.key q.key

instance : Std.TransOrd Plugin where
  eq_swap := by
    intro p q
    show compare p.key q.key = (compare q.key p.key).swap
    exact Std.OrientedCmp.eq_swap
  isLE_trans := by
    intro p q r
    show (compare p.key q.key).isLE → (compare q.key r.key).isLE → (compare p.key r.key).isLE
    exact Std.TransCmp.isLE_trans

instance : Std.LawfulEqOrd Plugin where
  compare_self := by
    intro p
    show compare p.key p.key = .eq
    exact Std.ReflCmp.compare_self
  eq_of_compare := by
    intro p q h
    have h : compare p.key q.key = .eq := h
    exact key_injective (Std.LawfulEqCmp.eq_of_compare h)

end Plugin

end Fanout
