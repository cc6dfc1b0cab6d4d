import Fanout.Generation.Basic

/-!
# Output of a generation

What a run hands over: module names, configurations, plugin coordinates, and the
rendered files.

## Main definitions

* `Generation.registerConfigurations` — a template for each configuration that
  has settings.
* `Generation.render` — the content of every template, revised.

## Design notes

The shared module of a multi-module build is a library, so its own application
and bootstrap configurations are not written; its overlays are.
-/

namespace Fanout

/-- **File as it is handed over.** -/
structure RenderedTemplate where
  key : String
  module : Module
  path : String
  output : Output
  executable : Bool
deriving DecidableEq, Repr

namespace Generation

variable {ε : Type}

/-! ## Modules -/

/-- The names of the output modules, the library first; none if there is one
module only. -/
def moduleNames (g : Generation ε) : List String :=
  if g.isSingleModule then []
  else Module.lib.name :: (SortedSet.ofList (g.partition.concreteTargets.map Target.moduleName)).toList

/-- Published coordinates of the versioned plugins of all modules. -/
def pluginCoordinates (g : Generation ε) : Except Fault (SortedSet String) :=
  g.plugins.coordinates g.registry

/-! ## Configurations -/

/-- **The configurations of the shared module**, or of the only one. -/
def sharedConfigurations (g : Generation ε) : List Configuration :=
  (if g.isSingleModule then [g.application.base, g.bootstrap.base] else [])
    ++ (g.applicationOverlays.environments .shared).values
    ++ (g.bootstrapOverlays.environments .shared).values

/-- Whether a target's overlays are open. -/
def hasOverlays (g : Generation ε) (t : Target) : Bool :=
  (g.applicationOverlays.environments? t).isSome || (g.bootstrapOverlays.environments? t).isSome

/-- The overlays of the concrete targets, in target order. -/
def targetOverlays (g : Generation ε) : List (Target × List Configuration) :=
  (Target.clouds.filter g.hasOverlays).map fun t =>
    (t, (g.applicationOverlays.environments t).values
      ++ (g.bootstrapOverlays.environments t).values)

/-- The configurations of the concrete targets, in the order in which they are
registered. -/
def targetConfigurations (g : Generation ε) : List (Target × Configuration) :=
  g.application.openedList ++ g.bootstrap.openedList
    ++ g.targetOverlays.flatMap fun entry => entry.2.map fun c => (entry.1, c)

/-- The key of a configuration's template: `application-config`,
`bootstrap-test-config`. -/
def configurationKey (c : Configuration) : String :=
  match c.environment? with
  | none => c.kind.name ++ "-config"
  | some environment => c.kind.name ++ "-" ++ environment ++ "-config"

/-- Registers a shared configuration. -/
def registerShared (singleModule : Bool) (x : TemplateIndex) (c : Configuration) :
    TemplateIndex × Registration :=
  x.register (configurationKey c) (.new .lib c.path (.properties c)) .shared singleModule

/-- Stores the configuration of a target in its module. -/
def insertTarget (x : TemplateIndex) (entry : Target × Configuration) :
    TemplateIndex × Registration :=
  x.insert (configurationKey entry.2 ++ "-" ++ entry.1.moduleName)
    (.new entry.1.module entry.2.path (.properties entry.2))

/-- Takes a step for each item, and collects what becomes of them. -/
def collect {α : Type} (step : TemplateIndex → α → TemplateIndex × Registration) :
    List α → TemplateIndex → TemplateIndex × List Registration
  | [], x => (x, [])
  | a :: rest, x =>
    let first := step x a
    let others := collect step rest first.1
    (others.1, first.2 :: others.2)

/-- **Registers a template for each configuration that has settings**: the
shared ones through the routing rules, those of a target in its module. -/
def registerConfigurations (g : Generation ε) : Generation ε × List Registration :=
  let shared := g.sharedConfigurations.filter fun c => !c.isEmpty
  let ofTargets := g.targetConfigurations.filter fun entry => !entry.2.isEmpty
  let first := collect (registerShared g.isSingleModule) shared g.index
  let second := collect insertTarget ofTargets first.1
  ({ g with index := second.1 }, first.2 ++ second.2)

@[simp] theorem collect_nil {α : Type} (step : TemplateIndex → α → TemplateIndex × Registration)
    (x : TemplateIndex) : collect step [] x = (x, []) := rfl

/-! ## Files -/

/-- The content of a template, its text revised. -/
def revised (revisions : Revisions) (key : String) (t : Template) : Except Fault Output := do
  match ← t.content.output with
  | .text s => return .text (revisions.apply key t.physicalPath s)
  | .resource location => return .resource location

/-- The file of a template. -/
def renderOne (revisions : Revisions) (key : String) (t : Template) :
    Except Fault RenderedTemplate := do
  let output ← revised revisions key t
  return ⟨key, t.module, t.path, output, t.executable⟩

/-- **The files of all templates**, in the order of their keys. -/
def render (g : Generation ε) : Except Fault (List RenderedTemplate) :=
  g.index.templates.toList.mapM fun e => renderOne g.index.revisions e.1 e.2

end Generation

end Fanout
