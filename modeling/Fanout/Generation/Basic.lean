import Fanout.Artifact.Dependency
import Fanout.EntryPoint
import Fanout.Partition
import Fanout.Plugin.Sets
import Fanout.Project
import Fanout.Store.BuildProperties
import Fanout.Store.Overlays
import Fanout.Store.Scoped
import Fanout.Template.Index

/-!
# Generation

The state of one run: what was decided before it starts, and what the modules
contain so far.

## Main definitions

* `Generation ε` — the state; `ε` is the type of the capabilities' effects.
* `Generation.start` — partitions the capabilities and seeds the shared module.
* `Generation.openTarget` — gives a concrete target its own entries.

## Design notes

Reading an entry of a target that has none gives the entry of the shared module;
writing one opens it.  A target counts as open when it has a project, and opening
it opens all its entries at once, leaving those it has already as they are.
-/

namespace Fanout

/-- **State of a run.** -/
structure Generation (ε : Type) where
  options : BuildOptions
  partition : Partition ε
  resolver : Resolver
  registry : Registry
  application : Scoped Configuration
  bootstrap : Scoped Configuration
  applicationOverlays : Overlays Configuration
  bootstrapOverlays : Overlays Configuration
  dependencies : Scoped DependencyList
  projects : Scoped Project
  buildProperties : Scoped BuildProperties
  /-- The build properties every module starts with. -/
  seed : BuildProperties
  plugins : PluginSets
  index : TemplateIndex
  /-- The target that scoped access is about. -/
  scope : Target
  /-- Whether the shared scope sees only its own capabilities. -/
  hidesTargetFeatures : Bool

/-- **What is decided before a run.** -/
structure GenerationPlan (ε : Type) where
  project : Project
  options : BuildOptions := {}
  capabilities : List (Capability ε) := []
  selection : Selection := .empty
  resolver : Resolver := fun _ => none
  registry : Registry := .bundled
  policy : PropagationPolicy := .standard
  extraRules : List RoutingRule := []

namespace Generation

variable {ε : Type}

/-! ## The start -/

/-- The build properties every module starts with. -/
def seedFor (options : BuildOptions) : BuildProperties :=
  BuildProperties.empty.put options.tool.platformVersionKey options.platformBomVersion

/-- **The state before anything is applied.** -/
def start (plan : GenerationPlan ε) : Except Fault (Generation ε) := do
  let partition ← Partition.compute plan.capabilities plan.selection plan.options.singletonPolicy
  return {
    options := plan.options
    partition
    resolver := plan.resolver
    registry := plan.registry
    application := .ofBase .application
    bootstrap := .ofBase .bootstrap
    applicationOverlays := .empty
    bootstrapOverlays := .empty
    dependencies := .ofBase .empty
    projects := .ofBase plan.project
    buildProperties := .ofBase (seedFor plan.options)
    seed := seedFor plan.options
    plugins := .empty plan.policy
    index := .empty plan.extraRules
    scope := .shared
    hidesTargetFeatures := false }

/-- Whether the build has one module only. -/
def isSingleModule (g : Generation ε) : Bool := g.partition.isSingleModule

/-! ## Opening targets -/

/-- The identity of a target's module. -/
def projectFor (g : Generation ε) (t : Target) : Project := g.projects.base.forModule t.moduleName

/-- **Gives a target its own entries**, unless it has a project. -/
def openTarget (g : Generation ε) (t : Target) : Generation ε :=
  if g.projects.isOpen t then g
  else
    { g with
      application := g.application.ensure t .application
      bootstrap := g.bootstrap.ensure t .bootstrap
      applicationOverlays := g.applicationOverlays.openTarget t
      bootstrapOverlays := g.bootstrapOverlays.openTarget t
      dependencies := g.dependencies.ensure t .empty
      projects := g.projects.ensure t (g.projectFor t)
      buildProperties := g.buildProperties.ensure t g.seed }

/-- Makes a target the one that scoped access is about, and opens it. -/
def setScope (g : Generation ε) (t : Target) : Generation ε := { g.openTarget t with scope := t }

/-- Makes the shared scope the one that scoped access is about. -/
def resetScope (g : Generation ε) : Generation ε := { g with scope := .shared }

/-! ## Configurations -/

/-- The overlays of a kind. -/
def overlays (g : Generation ε) : ConfigurationKind → Overlays Configuration
  | .application => g.applicationOverlays
  | .bootstrap => g.bootstrapOverlays

/-- The configuration of a kind that a target's module is written with. -/
def configuration (g : Generation ε) (t : Target) : ConfigurationKind → Configuration
  | .application => g.application.get t
  | .bootstrap => g.bootstrap.get t

/-- The overlay of a target, a kind and an environment. -/
def overlay? (g : Generation ε) (t : Target) (kind : ConfigurationKind) (environment : String) :
    Option Configuration :=
  (g.overlays kind).find? t environment

/-- The configuration of a target for one environment, or for all; an overlay
that is not there is empty. -/
def configurationAt (g : Generation ε) (t : Target) (kind : ConfigurationKind) :
    Option String → Configuration
  | none => g.configuration t kind
  | some environment => (g.overlay? t kind environment).getD (.ofKind kind environment)

/-- Whether a target has an application overlay for an environment. -/
def hasEnvironment (g : Generation ε) (t : Target) (environment : String) : Bool :=
  g.applicationOverlays.contains t environment

/-- Changes a configuration of a target: for one environment, or for all. -/
def updateConfiguration (g : Generation ε) (t : Target) (kind : ConfigurationKind)
    (environment? : Option String) (f : Configuration → Configuration) : Generation ε :=
  match kind, environment? with
  | .application, none => { g with application := g.application.update t .application f }
  | .bootstrap, none => { g with bootstrap := g.bootstrap.update t .bootstrap f }
  | .application, some environment =>
    { g with
      applicationOverlays :=
        g.applicationOverlays.update t environment (.ofKind .application environment) f }
  | .bootstrap, some environment =>
    { g with
      bootstrapOverlays :=
        g.bootstrapOverlays.update t environment (.ofKind .bootstrap environment) f }

/-- Sets a value in a configuration of a target. -/
def configure (g : Generation ε) (t : Target) (kind : ConfigurationKind)
    (environment? : Option String) (path : String) (value : Setting) : Generation ε :=
  g.updateConfiguration t kind environment? fun c => c.add path value

/-! ## Dependencies, properties, plugins -/

/-- **Adds a dependency to a target's module.**  The module has a list of its
own from then on, whether or not the dependency's coordinate is known. -/
def addDependency (g : Generation ε) (t : Target) (d : Dependency) :
    Generation ε × Except Fault Unit :=
  let opened := g.dependencies.ensure t .empty
  match (opened.get t).add d g.resolver with
  | .ok (list, _) => ({ g with dependencies := opened.put t list }, .ok ())
  | .error fault => ({ g with dependencies := opened }, .error fault)

/-- Changes the build properties of a target's module. -/
def updateProperties (g : Generation ε) (t : Target) (f : BuildProperties → BuildProperties) :
    Generation ε :=
  { g with buildProperties := g.buildProperties.update t g.seed f }

/-- Puts a build property of a target's module. -/
def putProperty (g : Generation ε) (t : Target) (key value : String) : Generation ε :=
  g.updateProperties t fun p => p.put key value

/-- Adds a plugin to a target's module. -/
def addPlugin (g : Generation ε) (t : Target) (p : Plugin) : Generation ε × Except Fault Unit :=
  match g.plugins.add t p g.resolver with
  | .ok plugins => ({ g with plugins }, .ok ())
  | .error fault => (g, .error fault)

/-- The plugins that the build of a target's module applies. -/
def buildPlugins (g : Generation ε) (t : Target) : SortedSet Plugin :=
  g.plugins.view t g.options.applicationType

/-! ## Features -/

/-- **The capabilities that a target sees.**  The shared scope sees all of them,
or its own only in a function build. -/
def features (g : Generation ε) (t : Target) : FeatureSet ε :=
  if t.isShared then
    if g.hidesTargetFeatures then g.partition.shared else g.partition.all
  else (g.partition.subset? t).getD .empty

/-- Whether singletons are created when a target's application starts. -/
def startsEagerly (g : Generation ε) (t : Target) : Bool :=
  (g.features t).anyRole Roles.eagerSingleton

/-- The entry point of a target's application. -/
def entryPoint (g : Generation ε) (t : Target) : EntryPoint :=
  ⟨g.options.language, t.environmentName?, g.startsEagerly t⟩

/-! ## Templates -/

/-- Registers a template on behalf of a target. -/
def addTemplate (g : Generation ε) (t : Target) (key : String) (template : Template) :
    Generation ε × Registration :=
  let result := g.index.register key template t g.isSingleModule
  ({ g with index := result.1 }, result.2)

/-- Stores the template of a model in a module, if there is a model. -/
def addModel (g : Generation ε) (module : Module) (key path : String) (model? : Option Model) :
    Generation ε × Registration :=
  match model? with
  | none => (g, .noModel)
  | some model =>
    let result := g.index.insert key (.new module path (.model model))
    ({ g with index := result.1 }, result.2)

/-- Stores a source file whose model depends on the build's language. -/
def addLanguageTemplate (g : Generation ε) (module : Module) (key path : String)
    (templates : LanguageTemplates) : Generation ε × Registration :=
  g.addModel module key path (templates.pick? g.options.language)

/-- Stores a test whose model depends on language and test framework. -/
def addTestTemplate (g : Generation ε) (module : Module) (key path : String)
    (templates : TestTemplates) : Generation ε × Registration :=
  g.addModel module key path (templates.pick? g.options.language g.options.testFramework)

/-- The path of a test helper: in the folder of the test sources, with the
extension of the language. -/
def helperPath (language : Language) (path : String) : String :=
  language.testSourceDir ++ "/" ++ String.ofList (path.toList.dropWhile (· = '/'))
    ++ "." ++ language.extension

/-- Stores a helper of the tests. -/
def addHelperTemplate (g : Generation ε) (module : Module) (key path : String)
    (templates : LanguageTemplates) : Generation ε × Registration :=
  g.addModel module key (helperPath g.options.language path)
    (templates.pick? g.options.language)

/-- Registers the copy of a bundled file on behalf of a target. -/
def addResource (g : Generation ε) (t : Target) (key path location : String) :
    Generation ε × Registration :=
  g.addTemplate t key (.new .default path (.resource location))

/-- Removes the template of a key. -/
def removeTemplate (g : Generation ε) (key : String) : Generation ε :=
  { g with index := g.index.remove key }

/-- Adds a revision for a key. -/
def reviseKey (g : Generation ε) (key : String) (f : Revision) : Generation ε :=
  { g with index := g.index.reviseKey key f }

/-- Adds a revision for the paths that match a pattern. -/
def revisePattern (g : Generation ε) (p : Pattern) (f : Revision) : Generation ε :=
  { g with index := g.index.revisePattern p f }

end Generation

end Fanout
