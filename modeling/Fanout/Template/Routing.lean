import Fanout.Template.Basic

/-!
# Routing of templates

A template declares a module, and routing rules may send it to another one, so
that one declaration serves single-module and multi-module builds.

## Main definitions

* `RoutingRule` — a condition and a destination.
* `Route.ofRules` — the destination by the first rule that applies.
* `Suppression.standard` — files that only an application module should have.

## Design notes

Resources and files of the root module stay where they are; no rule is asked
about them.
-/

namespace Fanout

/-- The key of the cluster manifest, a file of the root module. -/
def clusterManifestKey : String := "k8sYaml"

/-- **What a rule may look at.** -/
structure RoutingQuestion where
  key : String
  template : Template
  /-- The target on whose behalf the template is registered. -/
  scope : Target
  /-- Whether the build has one module only. -/
  singleModule : Bool

/-- **Destination of a template.** -/
structure Route where
  module : Module
  /-- What the key gets behind a dash, to stay unique. -/
  suffix? : Option String := none
deriving DecidableEq, Repr

/-- **Routing rule.** -/
structure RoutingRule where
  name : String
  applies : RoutingQuestion → Bool
  route : RoutingQuestion → Route

namespace RoutingRule

/-- The cluster manifest is a file of the root module. -/
def clusterManifest : RoutingRule where
  name := "cluster-manifest-to-root"
  applies q := q.key = clusterManifestKey
  route _ := ⟨.root, none⟩

/-- What a target registers goes into its module. -/
def targetScope : RoutingRule where
  name := "target-scope-to-target-module"
  applies q := !q.scope.isShared && decide (q.template.module ≠ q.scope.module)
  route q := ⟨q.scope.module, some q.scope.moduleName⟩

/-- With one module, that module is the root. -/
def singleModule : RoutingRule where
  name := "single-module-to-root"
  applies q := q.singleModule && q.template.module.isSharedOrDefault
  route _ := ⟨.root, none⟩

/-- With several modules, files without a module of their own are shared. -/
def defaultModule : RoutingRule where
  name := "default-to-lib"
  applies q := q.template.module = .default
  route _ := ⟨.lib, none⟩

/-- The rules that every index has, in the order in which they are asked. -/
def standard : List RoutingRule := [clusterManifest, targetScope, singleModule, defaultModule]

end RoutingRule

namespace Route

/-- Whether rules are asked about a template. -/
def isRoutable (t : Template) : Bool := t.kind != .resource && decide (t.module ≠ .root)

/-- **The destination of a template**: by the first rule that applies, or else
the module it declares. -/
def ofRules (rules : List RoutingRule) (q : RoutingQuestion) : Route :=
  match if isRoutable q.template then rules.find? fun rule => rule.applies q else none with
  | some rule => rule.route q
  | none => ⟨q.template.module, none⟩

/-- The key with the suffix of the route. -/
def keyFor (r : Route) (key : String) : String :=
  match r.suffix? with
  | some suffix => key ++ "-" ++ suffix
  | none => key

end Route

/-! ## Suppression -/

/-- **Files that only an application module should have**, by kind, declared
module and key.  The shared module of a multi-module build is a library. -/
structure Suppression where
  kind : ContentKind
  module : Module
  key : String
deriving DecidableEq, Repr

namespace Suppression

/-- Whether a template is such a file. -/
def covers (s : Suppression) (key : String) (t : Template) : Bool :=
  s.kind = t.kind && s.module.canonical = t.module && s.key = key

/-- The files that are suppressed in multi-module builds. -/
def standard : List Suppression :=
  [⟨.properties, .lib, "application-config"⟩,
   ⟨.rendered, .default, "application"⟩,
   ⟨.rendered, .default, "applicationTest"⟩,
   ⟨.rendered, .default, "loggingConfig"⟩]

end Suppression

end Fanout
