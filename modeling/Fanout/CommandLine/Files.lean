import Fanout.Manifest
import Fanout.Plugin.Document

/-!
# Files of a run

A run reads a manifest and perhaps a registry.  Which files there are, and what
is in them, is asked of a `FileAccess`, which may have effects.

## Main definitions

* `FileAccess m` — looking at files in a monad `m`.
* `parentFolder`, `joinPath` — paths relative to the manifest.
* `loadManifest`, `loadRegistry` — reading the two files.
-/

namespace Fanout.CommandLine

/-! ## Paths -/

/-- Drops slashes, and dots behind slashes, from the end of a reversed path. -/
def dropTrailing : List Char → List Char
  | '.' :: '/' :: rest => dropTrailing ('/' :: rest)
  | ['/'] => ['/']
  | '/' :: rest => dropTrailing rest
  | cs => cs

/-- **Folder of a path**; empty for a name alone, and none for the topmost
folder. -/
def parentFolder (path : String) : Option String :=
  match dropTrailing path.toList.reverse with
  | [] => none
  | ['/'] => none
  | cs =>
    let folder := cs.dropWhile (· ≠ '/')
    some (String.ofList (dropTrailing folder).reverse)

/-- Whether a path begins at the topmost folder. -/
def isAbsolute (path : String) : Bool := path.toList.head? = some '/'

/-- **A path seen from a folder.** -/
def joinPath (folder path : String) : String :=
  if isAbsolute path || folder.isEmpty then path
  else if folder.toList.getLast? = some '/' then folder ++ path
  else folder ++ "/" ++ path

/-! ## Reading -/

/-- **Looking at files.** -/
structure FileAccess (m : Type → Type) where
  /-- The text of a file, or why there is none. -/
  read : String → m (Except Unreadable String)
  /-- Whether there is a file. -/
  isFile : String → m Bool
  /-- The folder of the user's configuration files. -/
  userFolder? : Option String

/-- Name of the manifest where none is given. -/
def manifestName : String := "cloudgen.toml"

variable {m : Type → Type} [Monad m]

/-- The file of the manifest: the one given, or the local one, or the user's. -/
def locateManifest (files : FileAccess m) (given? : Option String) : m (Option String) := do
  match given? with
  | some path => return some path
  | none =>
    if ← files.isFile manifestName then return some manifestName
    else
      match files.userFolder? with
      | none => return none
      | some folder =>
        let path := joinPath folder ("cloudgen/" ++ manifestName)
        if ← files.isFile path then return some path else return none

/-- Reads a document and makes sense of it. -/
def readDocument {α : Type} (files : FileAccess m) (document : Document) (path : String)
    (parse : String → Except Fault α) : m (Except Fault α) := do
  match ← files.read path with
  | .error reason => return .error (.whileReading document path (.unreadable reason))
  | .ok text =>
    match parse text with
    | .ok a => return .ok a
    | .error cause => return .error (.whileParsing document path cause)

/-- **Reads the manifest of a file.** -/
def readManifest (files : FileAccess m) (path : String) : m (Except Fault Manifest) :=
  readDocument files .manifest path Manifest.parse

/-- The manifest of a run, and the folder that its paths are relative to. -/
def loadManifest (files : FileAccess m) (given? : Option String) :
    m (Except Fault (Manifest × String)) := do
  match ← locateManifest files given? with
  | none => return .ok ({}, ".")
  | some path =>
    match ← readManifest files path with
    | .ok manifest => return .ok (manifest, (parentFolder path).getD ".")
    | .error fault => return .error fault

/-- **The registry of a manifest**, whose path is relative to a folder. -/
def loadRegistry (files : FileAccess m) (folder : String) (manifest : Manifest) :
    m (Except Fault Registry) :=
  match manifest.registryPath? with
  | none => return .ok .bundled
  | some path => readDocument files .registry (joinPath folder path) Registry.parse

end Fanout.CommandLine
