import Fanout.Generation.Output

/-!
# Summary of a generation

The whole state of a run as a text, section by section, for looking into a run.
-/

namespace Fanout.Generation

variable {ε : Type}

/-- A line behind the name of a module. -/
def moduleLine (t : Target) (text : String) : String := "  " ++ t.moduleName ++ " " ++ text

/-- A line for each environment of a target. -/
def overlayLines (t : Target) (cs : List Configuration) : List String :=
  cs.map fun c => "  " ++ t.identifier ++ " " ++ c.environment?.getD "" ++ ": " ++ c.text

/-- A section for the shared configuration of a kind and those of the targets. -/
def configurationSection (name : String) (configurations : Scoped Configuration) : List String :=
  ("lib " ++ name ++ ": " ++ configurations.base.text)
    :: configurations.openedList.map fun e => e.1.identifier ++ " " ++ name ++ ": " ++ e.2.text

/-- A section with the lines that each entry of a store has. -/
def storeSection {α : Type} (name : String) (store : Scoped α) (texts : α → List String) :
    List String :=
  (name ++ ":") :: store.toList.flatMap fun e => (texts e.2).map (moduleLine e.1)

/-- The lines of the summary. -/
def summaryLines (g : Generation ε) : List String :=
  ["GeneratorContext", "templates:"]
    ++ g.index.templates.toList.map (fun e => "  " ++ e.1 ++ " -> " ++ e.2.physicalPath)
    ++ ["module names: [" ++ ", ".intercalate g.moduleNames ++ "]"]
    ++ configurationSection "configuration" g.application
    ++ configurationSection "bootstrap configuration" g.bootstrap
    ++ ["environment configurations:"]
    ++ overlayLines .shared (g.sharedConfigurations.filter fun c => c.environment?.isSome)
    ++ g.targetOverlays.flatMap (fun e => overlayLines e.1 e.2)
    ++ storeSection "dependencies" g.dependencies (fun l => l.toList.map Dependency.text)
    ++ storeSection "projects" g.projects (fun p => [p.qualifiedName])
    ++ ["features:", moduleLine .shared g.partition.all.text]
    ++ g.partition.byTarget.toList.map (fun e => moduleLine e.1 e.2.text)
    ++ storeSection "build properties" g.buildProperties
      (fun p => p.toList.map fun e => e.1 ++ "=" ++ e.2)
    ++ storeSection "build plugins" g.plugins.sets (fun s => s.toList.map Plugin.text)
    ++ ["post-processors: keys [" ++ ", ".intercalate g.index.revisions.keys ++ "] patterns ["
      ++ ", ".intercalate g.index.revisions.patterns ++ "]"]

/-- **The state of a run as a text.** -/
def summary (g : Generation ε) : String := "\n".intercalate g.summaryLines

end Fanout.Generation
