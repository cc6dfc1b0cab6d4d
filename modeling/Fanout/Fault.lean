/-!
# Faults

Everything that can stop a run, one constructor per cause.  The wording of all
of them is in `Fault.heading`; nothing else in the library composes a message.

A fault may be reported from inside another: "the configuration file could not
be read" with the system's reason below it.  `Fault.chain` lists the headings
from the outermost to the innermost, and `Fault.message` joins them.
-/

namespace Fanout

/-! ## Where an excerpt of a document comes from -/

/-- **Quoted line of a document**: its number counted from one, its text, and
whether it is the line at fault. -/
structure QuotedLine where
  number : Nat
  text : String
  atFault : Bool
deriving DecidableEq, Repr

/-- Files the planner reads. -/
inductive Document where
  /-- The generator's own configuration. -/
  | manifest
  /-- A table of published plugin coordinates. -/
  | registry
deriving DecidableEq, Repr

/-- Why a file has no text to offer. -/
inductive Unreadable where
  | missing
  | directory
  /-- A part of the path that should be a directory is a file. -/
  | notDirectory
  /-- The path, or a part of it, is longer than the system admits. -/
  | nameTooLong
  /-- The path has a null character, which no file name has. -/
  | nullInName
deriving DecidableEq, Repr

/-- Roles that one capability at most may fill. -/
inductive SingletonRole where
  | application
  | databaseDriver
deriving DecidableEq, Repr

/-- The name of the role. -/
def SingletonRole.name : SingletonRole → String
  | application => "application"
  | databaseDriver => "database-driver"

/-! ## Faults -/

/-- **Cause that stops a run.** -/
inductive Fault where
  /-- A versioned plugin has no published coordinate. -/
  | unknownPluginCoordinate (key : String)
  /-- No coordinate is known for an artifact. -/
  | coordinateNotFound (artifact : String)
  | unsupportedLanguage (name : String)
  /-- A second capability claims a role that the first one keeps. -/
  | conflictingRole (role : SingletonRole) (existing rejected : String)
  | unsupportedRegistryVersion (version : Nat)
  | unknownTarget (name : String)
  /-- The text is not three non-empty parts between colons. -/
  | invalidCoordinate (text : String)
  /-- A document breaks the rules of its format at a line. -/
  | malformed (line : Nat) (excerpt : List QuotedLine)
  | blankProjectName
  /-- A capability is propagated to an empty list of targets. -/
  | propagatedNowhere (capability : String)
  | unreadable (reason : Unreadable)
  /-- Reading a file failed for the reason given. -/
  | whileReading (document : Document) (path : String) (cause : Fault)
  /-- Making sense of a file failed for the reason given. -/
  | whileParsing (document : Document) (path : String) (cause : Fault)
  /-- A propagation on the command line has no equals sign. -/
  | invalidPropagation (pair : String)
  | unknownCapability (name : String)
  /-- A failure that a capability or a template model reports in its own
  words. -/
  | failure (message : String)
deriving DecidableEq, Repr

namespace Document

/-- What a message calls the file. -/
def name : Document → String
  | manifest => "config file"
  | registry => "plugin registry"

end Document

namespace Unreadable

/-- The operating system's words for the reason. -/
def message : Unreadable → String
  | missing => "No such file or directory (os error 2)"
  | directory => "Is a directory (os error 21)"
  | notDirectory => "Not a directory (os error 20)"
  | nameTooLong => "File name too long (os error 36)"
  | nullInName => "file name contained an unexpected NUL byte"

end Unreadable

namespace QuotedLine

/-- The line behind its marker and number. -/
def render (q : QuotedLine) : String :=
  let number := toString q.number
  let padded := String.ofList (List.replicate (4 - number.length) ' ') ++ number
  (if q.atFault then ">>>" else "   ") ++ " " ++ padded ++ " | " ++ q.text

end QuotedLine

namespace Fault

/-- The words for a cause, without those for the cause inside it. -/
def heading : Fault → String
  | unknownPluginCoordinate key =>
    "Unexpected build plugin or version mismatch for '" ++ key ++ "'"
  | coordinateNotFound artifact =>
    "Could not resolve coordinate for artifact '" ++ artifact ++ "'"
  | unsupportedLanguage name => "Unexpected language: " ++ name
  | conflictingRole role existing rejected =>
    "Capabilities '" ++ existing ++ "' and '" ++ rejected ++ "' both claim the " ++ role.name
      ++ " role"
  | unsupportedRegistryVersion version =>
    "Unsupported plugin registry version: " ++ toString version
  | unknownTarget name => "Unknown target: " ++ name ++ ". Use AWS, AZURE, GCP or OCI"
  | invalidCoordinate text =>
    "Invalid coordinate '" ++ text ++ "'. Expected group:artifact:version"
  | malformed line excerpt =>
    "TOML parsing error at line " ++ toString line ++ ":\n"
      ++ "\n".intercalate (excerpt.map QuotedLine.render)
  | blankProjectName => "project.name must not be empty"
  | propagatedNowhere capability =>
    "selection.propagate." ++ capability ++ " lists no targets"
  | unreadable reason => reason.message
  | whileReading document path _ => "Failed to read " ++ document.name ++ ": " ++ path
  | whileParsing document path _ => "Failed to parse " ++ document.name ++ ": " ++ path
  | invalidPropagation pair => "Invalid propagation '" ++ pair ++ "'. Use NAME=TARGET"
  | unknownCapability name =>
    "Unknown capability: " ++ name ++ ". Run 'cloudgen catalog' to list them"
  | failure message => message

/-- The headings of a fault and of the causes inside it, outermost first. -/
def chain : Fault → List String
  | whileReading document path cause => (whileReading document path cause).heading :: cause.chain
  | whileParsing document path cause => (whileParsing document path cause).heading :: cause.chain
  | fault => [fault.heading]

/-- The whole message on one line of thought. -/
def message (fault : Fault) : String := ": ".intercalate fault.chain

/-- The cause at the bottom of the chain. -/
def root : Fault → Fault
  | whileReading _ _ cause => cause.root
  | whileParsing _ _ cause => cause.root
  | fault => fault

end Fault

end Fanout
