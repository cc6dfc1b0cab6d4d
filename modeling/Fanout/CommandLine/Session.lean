import Fanout.Catalog
import Fanout.CommandLine.Arguments
import Fanout.CommandLine.Files
import Fanout.Generation.Output

/-!
# Session

From a command line and a manifest to a finished generation.

## Main definitions

* `Request` — what a manifest and a command line ask for, checked.
* `generate` — the generation with everything applied.

## Design notes

The order of the checks is the order in which faults win: targets of the
manifest, propagations of the command line, names of capabilities, the language,
the coordinates, the registry, and then what applying brings to light.
-/

namespace Fanout.CommandLine

/-- **What is asked for.** -/
structure Request where
  selection : Selection
  capabilities : List (Capability CatalogEffect)
  options : BuildOptions
  table : CoordinateTable

/-- Reads a propagation `NAME=TARGET`. -/
def parsePropagation (pair : String) : Except Fault (String × Target) :=
  match Text.cutFirst '=' pair.toList with
  | none => .error (.invalidPropagation pair)
  | some (name, target) => do
    return (String.ofList name, ← Target.parse (String.ofList target))

/-- The selection of a manifest and a command line. -/
def selectionOf (arguments : Arguments) (manifest : Manifest) : Except Fault Selection := do
  let selection := arguments.features.foldl Selection.select (← manifest.selection?)
  arguments.propagations.foldlM (fun selection pair => do
    let (name, target) ← parsePropagation pair
    return selection.propagate name target) selection

/-- Whether a capability of the catalog takes part in a run. -/
def takesPart (selection : Selection) (c : Capability CatalogEffect) : Bool :=
  c.roles.default || selection.isSelected c.name || selection.isPropagated c.name

/-- The first selected name that no capability has. -/
def unknownName? (selection : Selection) (capabilities : List (Capability CatalogEffect)) :
    Option String :=
  selection.selected.toList.find? fun name => !capabilities.any fun c => c.name == name

/-- What a command line and a manifest ask for. -/
def requestOf (arguments : Arguments) (manifest : Manifest) : Except Fault Request := do
  let selection ← selectionOf arguments manifest
  let capabilities := Catalog.capabilities.filter (takesPart selection)
  match unknownName? selection capabilities with
  | some name => throw (.unknownCapability name)
  | none =>
    let options ← manifest.options?
    let table ← manifest.extendTable Catalog.coordinates
    return { selection, capabilities, options, table }

/-- The generation of a request, with everything applied. -/
def fulfil (manifest : Manifest) (request : Request) (registry : Registry) :
    Except Fault (Generation CatalogEffect) := do
  let start ← Generation.start {
    project := manifest.project
    options := request.options
    capabilities := request.capabilities
    selection := request.selection
    resolver := request.table.resolver
    registry }
  let run := start.apply Catalog.behave
  match run.fault? with
  | some fault => throw fault
  | none => return run.state.registerConfigurations.1

variable {m : Type → Type} [Monad m]

/-- **The generation that a command line asks for.** -/
def generate (files : FileAccess m) (arguments : Arguments) :
    m (Except Fault (Generation CatalogEffect)) := do
  match ← loadManifest files arguments.config? with
  | .error fault => return .error fault
  | .ok (manifest, folder) =>
    match requestOf arguments manifest with
    | .error fault => return .error fault
    | .ok request =>
      match ← loadRegistry files folder manifest with
      | .error fault => return .error fault
      | .ok registry => return fulfil manifest request registry

end Fanout.CommandLine
