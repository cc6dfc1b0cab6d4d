import Fanout.Artifact.Coordinate
import Fanout.BuildOptions
import Fanout.Capability.Selection
import Fanout.Project
import Fanout.Toml.Decode
import Fanout.Toml.Printer

/-!
# Manifest of a project

The planner's own configuration file: the project, the build, the selected
capabilities, and where plugin and artifact coordinates come from.

## Main definitions

* `Manifest` — the contents of the file, with a default for everything.
* `Manifest.parse` — reads and checks a text.
* `Manifest.text` — the text of a manifest, which is read as the same manifest.
* `Manifest.options?`, `Manifest.selection?`, `Manifest.table?` — what the rest
  of the library needs, or the first thing that is wrong with it.

## Design notes

The language is kept as a text, and so are targets and coordinates: they are
checked when they are used, so that a manifest can be read and written without.
-/

namespace Fanout

/-- What a manifest says about the build. -/
structure BuildSection where
  tool : BuildTool := .gradle
  language : String := Language.java.name
  testFramework : TestFramework := .junit
  applicationType : ApplicationType := .default
  platformVersion : String := ({} : BuildOptions).platformVersion
  bomSuffix : String := ""
  exampleCode : Bool := true
  singletonPolicy : SingletonPolicy := .keepFirst
deriving DecidableEq, Repr, Inhabited

/-- What a manifest selects. -/
structure SelectionSection where
  features : List String := []
  /-- The written targets that each capability is propagated to. -/
  propagate : SortedMap String (List String) := .empty

/-- **Manifest.** -/
structure Manifest where
  /-- The qualified name of the project. -/
  name : String := "com.example.demo"
  build : BuildSection := {}
  selection : SelectionSection := {}
  /-- The file of the plugin registry; the bundled registry if there is none. -/
  registryPath? : Option String := none
  /-- Written coordinates by artifact id. -/
  coordinates : SortedMap String String := .empty

namespace Manifest

open Toml

/-! ## Reading -/

/-- The name in the section on the project. -/
def decodeProject : Decoder String :=
  record ["name"] (fun name field item =>
    match field with
    | "name" => asString item
    | _ => .ok name) ({} : Manifest).name

/-- The section on the build. -/
def decodeBuild : Decoder BuildSection :=
  record ["tool", "language", "test_framework", "application_type", "platform_version",
      "bom_suffix", "example_code", "singleton_policy"] (fun build field item =>
    match field with
    | "tool" => return { build with tool := ← choice BuildTool.ofName? item }
    | "language" => return { build with language := ← asString item }
    | "test_framework" =>
      return { build with testFramework := ← choice TestFramework.ofName? item }
    | "application_type" =>
      return { build with applicationType := ← choice ApplicationType.ofName? item }
    | "platform_version" => return { build with platformVersion := ← asString item }
    | "bom_suffix" => return { build with bomSuffix := ← asString item }
    | "example_code" => return { build with exampleCode := ← asBool item }
    | "singleton_policy" =>
      return { build with singletonPolicy := ← choice SingletonPolicy.ofName? item }
    | _ => .ok build) {}

/-- The section on the selection. -/
def decodeSelection : Decoder SelectionSection :=
  record ["features", "propagate"] (fun selection field item =>
    match field with
    | "features" => return { selection with features := ← asList asString item }
    | "propagate" => return { selection with propagate := ← asMap (asList asString) item }
    | _ => .ok selection) {}

/-- The whole manifest. -/
def decode : Decoder Manifest :=
  record ["project", "build", "selection", "plugin_registry", "coordinates"]
    (fun manifest field item =>
      match field with
      | "project" => return { manifest with name := ← decodeProject item }
      | "build" => return { manifest with build := ← decodeBuild item }
      | "selection" => return { manifest with selection := ← decodeSelection item }
      | "plugin_registry" => return { manifest with registryPath? := some (← asString item) }
      | "coordinates" => return { manifest with coordinates := ← asMap asString item }
      | _ => .ok manifest) {}

/-- Checks what a manifest has to say in any case: a name, and a target for each
propagated capability. -/
def check (m : Manifest) : Except Fault Unit :=
  if (Text.trim m.name).isEmpty then .error .blankProjectName
  else
    match m.selection.propagate.toList.find? fun e => e.2.isEmpty with
    | some e => .error (.propagatedNowhere e.1)
    | none => .ok ()

/-- **Reads and checks a manifest.** -/
def parse (text : String) : Except Fault Manifest := do
  let m ← Toml.decode decode text
  m.check
  return m

/-! ## Writing -/

/-- The entries of a table of texts. -/
def textEntries (m : SortedMap String String) : List (String × String) :=
  m.toList.map fun e => (e.1, textForm e.2)

/-- The tables of a manifest. -/
def tables (m : Manifest) : List String :=
  [tableForm "project" [("name", textForm m.name)],
    tableForm "build"
      [("tool", textForm m.build.tool.name),
        ("language", textForm m.build.language),
        ("test_framework", textForm m.build.testFramework.name),
        ("application_type", textForm m.build.applicationType.name),
        ("platform_version", textForm m.build.platformVersion),
        ("bom_suffix", textForm m.build.bomSuffix),
        ("example_code", if m.build.exampleCode then "true" else "false"),
        ("singleton_policy", textForm m.build.singletonPolicy.name)],
    tableForm "selection" [("features", listForm m.selection.features)],
    tableForm "selection.propagate"
      (m.selection.propagate.toList.map fun e => (e.1, listForm e.2)),
    tableForm "coordinates" (textEntries m.coordinates)]

/-- **Text of a manifest.** -/
def text (m : Manifest) : String :=
  (match m.registryPath? with
    | some path => entryForm "plugin_registry" (textForm path) ++ "\n"
    | none => "")
    ++ "\n".intercalate m.tables

/-! ## What a manifest stands for -/

/-- The project. -/
def project (m : Manifest) : Project := .parse m.name

/-- The build options, if the language is one of the source languages. -/
def options? (m : Manifest) : Except Fault BuildOptions := do
  let language ← Language.parse m.build.language
  return {
    tool := m.build.tool
    language
    testFramework := m.build.testFramework
    applicationType := m.build.applicationType
    exampleCode := m.build.exampleCode
    platformVersion := m.build.platformVersion
    bomSuffix := m.build.bomSuffix
    singletonPolicy := m.build.singletonPolicy }

/-- Propagates a capability to written targets. -/
def propagateAll (name : String) (selection : Selection) (targets : List String) :
    Except Fault Selection :=
  targets.foldlM (fun selection target => return selection.propagate name (← Target.parse target))
    selection

/-- The selection, if all targets are targets. -/
def selection? (m : Manifest) : Except Fault Selection :=
  m.selection.propagate.toList.foldlM (fun selection e => propagateAll e.1 selection e.2)
    (m.selection.features.foldl Selection.select .empty)

/-- The table of coordinates, entered behind those of another table. -/
def extendTable (m : Manifest) (table : CoordinateTable) : Except Fault CoordinateTable :=
  table.insertTexts m.coordinates.toList

/-- The table of coordinates, if all of them are coordinates. -/
def table? (m : Manifest) : Except Fault CoordinateTable := m.extendTable .empty

end Manifest

end Fanout
