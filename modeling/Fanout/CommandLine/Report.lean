import Fanout.CommandLine.Session
import Fanout.Generation.Summary
import Fanout.Json

/-!
# Reports

What the commands print: the plan of a generation and the catalog, as tables or
as JSON, the names of the modules, and the summary.
-/

namespace Fanout.CommandLine

/-- Lines, each with its end. -/
def printed (lines : List String) : String := String.join (lines.map fun line => line ++ "\n")

/-- A rule of some dashes. -/
def rule (width : Nat) : String := String.ofList (List.replicate width '-')

section Plan

variable {ε : Type}

/-- A line of the plan that belongs to a module. -/
def moduleLine (moduleName text : String) : String := "  " ++ Text.column 8 moduleName ++ " " ++ text

/-- The dependencies of all modules, those of the library first. -/
def dependencyLists (g : Generation ε) : List (Target × DependencyList) := g.dependencies.toList

/-- The published coordinates of the plugins, which Gradle builds need. -/
def classpath (g : Generation ε) : Except Fault (List String) :=
  if g.options.tool.isGradle then return (← g.pluginCoordinates).toList else return []

/-! ## The plan as a table -/

/-- Group, artifact and version of a dependency, with dashes for what is
missing. -/
def dependencyColumn (d : Dependency) : String :=
  d.group?.getD "-" ++ ":" ++ d.artifact ++ ":" ++ d.version?.getD "-"

/-- The section on modules. -/
def layoutLines (g : Generation ε) : List String :=
  ["Project: " ++ g.projects.base.qualifiedName,
    if g.isSingleModule then "Layout: single module"
    else "Modules: " ++ ", ".intercalate g.moduleNames,
    ""]

/-- The section on capabilities. -/
def capabilityLines (g : Generation ε) : List String :=
  ["Capabilities:"]
    ++ (g.partition.activeTargets.map fun t =>
      moduleLine t.moduleName ((g.partition.subset? t).getD .empty).text)
    ++ [""]

/-- The section on dependencies. -/
def dependencyLines (g : Generation ε) : List String :=
  ["Dependencies:",
    "  " ++ Text.column 8 "Module" ++ " " ++ Text.column 60 "Coordinate" ++ " Scope",
    "  " ++ rule 76]
    ++ ((dependencyLists g).flatMap fun entry => entry.2.toList.map fun d =>
      moduleLine entry.1.moduleName (Text.column 60 (dependencyColumn d) ++ " " ++ d.scope.name))
    ++ [""]

/-- The section on plugins. -/
def pluginLines (g : Generation ε) (classpath : List String) : List String :=
  ["Build plugins:"]
    ++ (g.partition.activeTargets.flatMap fun t =>
      (g.buildPlugins t).toList.map fun p => moduleLine t.moduleName p.text)
    ++ (classpath.map fun coordinate => moduleLine "root" ("classpath " ++ coordinate))
    ++ [""]

/-- The content of a file, each line behind a bar. -/
def contentLines : Output → List String
  | .text s => (Text.lines s).map fun line => "    | " ++ line
  | .resource location => ["    < " ++ location]

/-- The lines of a file. -/
def fileLines (contents : Bool) (file : RenderedTemplate) : List String :=
  ("  " ++ file.module.name ++ "/" ++ file.path
    ++ (if file.executable then " (executable)" else ""))
    :: (if contents then contentLines file.output else [])

/-- **The plan as a table.** -/
def planTable (contents : Bool) (g : Generation ε) : Except Fault String := do
  let classpath ← classpath g
  let files ← g.render
  return printed (layoutLines g ++ capabilityLines g ++ dependencyLines g
    ++ pluginLines g classpath ++ "Files:" :: files.flatMap (fileLines contents))

/-! ## The plan as JSON -/

/-- A dependency. -/
def dependencyJson (d : Dependency) : Json :=
  .ofMembers [
    ("group_id", .stringOrNull d.group?),
    ("artifact_id", .string d.artifact),
    ("version", .stringOrNull d.version?),
    ("scope", .string d.scope.name)]

/-- A plugin.  What a Gradle plugin looks up shows only if there is something. -/
def pluginJson : Plugin → Json
  | .gradle id version? lookup? =>
    .ofMembers ([
      ("tool", .string "gradle"),
      ("id", .string id),
      ("version", .stringOrNull version?)]
      ++ (lookup?.toList.map fun artifact => ("lookup_artifact_id", .string artifact)))
  | .maven group? artifact version? _ =>
    .ofMembers [
      ("tool", .string "maven"),
      ("group_id", .stringOrNull group?),
      ("artifact_id", .string artifact),
      ("version", .stringOrNull version?)]

/-- The content of a file. -/
def contentJson : Output → Json
  | .text s => .ofMembers [("text", .string s)]
  | .resource location => .ofMembers [("resource", .string location)]

/-- A file. -/
def fileJson (contents : Bool) (file : RenderedTemplate) : Json :=
  .ofMembers ([
    ("key", .string file.key),
    ("module", .string file.module.name),
    ("path", .string file.path),
    ("executable", .bool file.executable)]
    ++ (if contents then [("content", contentJson file.output)] else []))

/-- A member for each active target, under the name of its module. -/
def byModule (g : Generation ε) (f : Target → Json) : Json :=
  .ofMembers (g.partition.activeTargets.map fun t => (t.moduleName, f t))

/-- **The plan as JSON.** -/
def planJson (contents : Bool) (g : Generation ε) : Except Fault String := do
  let classpath ← classpath g
  let files ← g.render
  let plan := Json.ofMembers [
    ("project", .string g.projects.base.qualifiedName),
    ("modules", .strings g.moduleNames),
    ("capabilities", byModule g fun t => .strings ((g.partition.subset? t).getD .empty).names),
    ("dependencies", .ofMembers ((dependencyLists g).map fun entry =>
      (entry.1.moduleName, .array (entry.2.toList.map dependencyJson)))),
    ("build_plugins", byModule g fun t => .array ((g.buildPlugins t).toList.map pluginJson)),
    ("plugin_coordinates", .strings classpath),
    ("files", .array (files.map (fileJson contents)))]
  return plan.text ++ "\n"

/-! ## Modules and summary -/

/-- The names of the modules. -/
def modulesText (g : Generation ε) : String :=
  printed (if g.moduleNames.isEmpty then ["(single module)"] else g.moduleNames)

/-- The summary of the generation. -/
def summaryText (g : Generation ε) : String := g.summary ++ "\n"

end Plan

/-! ## The catalog -/

/-- The line of an entry of the catalog. -/
def catalogLine (name target default description : String) : String :=
  Text.column 16 name ++ " " ++ Text.column 8 target ++ " " ++ Text.column 10 default ++ " "
    ++ description

/-- **The catalog as a table.** -/
def catalogTable (entries : List CatalogEntry) : String :=
  printed (catalogLine "Name" "Target" "Default" "Description" :: rule 70 ::
    entries.map fun e =>
      catalogLine e.capability.name ((e.capability.target?.map Target.identifier).getD "-")
        (if e.capability.roles.default then "yes" else "no") e.description)

/-- An entry of the catalog. -/
def catalogEntryJson (e : CatalogEntry) : Json :=
  .ofMembers [
    ("name", .string e.capability.name),
    ("description", .string e.description),
    ("target", .stringOrNull (e.capability.target?.map Target.identifier)),
    ("default", .bool e.capability.roles.default),
    ("gated_on", .stringOrNull (e.capability.gate?.map Target.identifier))]

/-- **The catalog as JSON.** -/
def catalogJson (entries : List CatalogEntry) : String :=
  (Json.array (entries.map catalogEntryJson)).text ++ "\n"

/-! ## Outcome of a command -/

/-- **Outcome of a command.** -/
inductive Outcome where
  /-- The command line is no proper one. -/
  | misused
  | failed (fault : Fault)
  | done (output : String)

/-- The outcome of a report. -/
def Outcome.ofReport : Except Fault String → Outcome
  | .ok output => done output
  | .error fault => failed fault

/-- Puts four spaces in front of a line. -/
def indented (line : String) : String := "    " ++ line

/-- **What is said about a fault**: its words, and those of the cause inside it
below. -/
def faultReport (fault : Fault) : String :=
  let causes := fault.chain.tail
  let below :=
    if causes.isEmpty then []
    else "" :: "Caused by:" ::
      causes.flatMap fun cause => (Text.split (· = '\n') cause).map indented
  "\n".intercalate (("Error: " ++ fault.heading) :: below)

variable {m : Type → Type} [Monad m]

/-- Reports on the generation that a command line asks for. -/
def reportOn (files : FileAccess m) (arguments : Arguments)
    (report : Generation CatalogEffect → Except Fault String) : m Outcome := do
  return .ofReport ((← generate files arguments).bind report)

/-- **Runs a command line.** -/
def run (files : FileAccess m) (words : List String) : m Outcome :=
  match Arguments.parse? words with
  | none => return .misused
  | some arguments =>
    match arguments.command with
    | .catalog .table => return .done (catalogTable Catalog.entries)
    | .catalog .json => return .done (catalogJson Catalog.entries)
    | .plan .table contents => reportOn files arguments (planTable contents)
    | .plan .json contents => reportOn files arguments (planJson contents)
    | .modules => reportOn files arguments fun g => .ok (modulesText g)
    | .describe => reportOn files arguments fun g => .ok (summaryText g)

end Fanout.CommandLine
