import Fanout.CommandLine.Files

/-!
# A folder held in memory

The files of a run as a value: a folder with the texts of the files below it.
Runs over a `Folder` have no effects, so they can be reasoned about.

## Main definitions

* `Folder` — files below a folder, by their paths.
* `Place` — where a path can lead.
* `Folder.walk` — following a path part by part.
* `Folder.access` — looking at the files of a folder.

## Design notes

There are exactly the folders that some file is below, the ones above the folder
itself, and the few that every system has.  A path is followed as written: a part
behind a file fails even if the part is `.` or empty, and what is too long fails
where it is looked up.
-/

namespace Fanout.CommandLine

/-- **Where a path can lead.** -/
inductive Place where
  /-- Into the folder, by the parts of the path from there. -/
  | inside (parts : List String)
  /-- To some folder above it. -/
  | above
  /-- Into the topmost folder, by the parts of the path from there. -/
  | top (parts : List String)
deriving DecidableEq, Repr

/-- The place one level up.  The topmost folder is its own. -/
def Place.up : Place → Place
  | inside [] | above => above
  | inside parts => inside parts.dropLast
  | top parts => top parts.dropLast

/-- **Folder held in memory.** -/
structure Folder where
  /-- The path of the folder from the topmost one on. -/
  location : String
  /-- The files, by the parts of their paths from the folder on. -/
  files : List (List String × String)

/-- The length that a part of a path may have, in bytes. -/
def partBound : Nat := 255

/-- The length that a path may have, in bytes. -/
def pathBound : Nat := 4095

/-- The folders in the topmost folder of any system. -/
def topFolders : List String := ["bin", "dev", "etc", "home", "proc", "root", "tmp", "usr", "var"]

namespace Folder

/-- The folder at a location that holds some files, by their relative paths. -/
def ofFiles (location : String) (files : List (String × String)) : Folder :=
  ⟨location, files.map fun file => ((Text.words (· = '/') file.1).filter (· ≠ "."), file.2)⟩

/-- The text of the file at a place.  The null device reads as an empty text. -/
def textAt? (folder : Folder) : Place → Option String
  | .inside parts => (folder.files.find? fun file => file.1 == parts).map Prod.snd
  | .above => none
  | .top parts => if parts = ["dev", "null"] then some "" else none

/-- Whether there is a folder at a place. -/
def isFolder (folder : Folder) : Place → Bool
  | .inside parts =>
    parts.isEmpty ||
      folder.files.any fun file => parts.isPrefixOf file.1 && parts.length < file.1.length
  | .above | .top [] => true
  | .top [part] => topFolders.contains part
  | .top _ => false

/-- Looks up a name in the folder at a place. -/
def lookUp (name : String) : Place → Except Unreadable Place
  | .inside parts => .ok (.inside (parts ++ [name]))
  | .above => .error .missing
  | .top parts => .ok (.top (parts ++ [name]))

/-- Follows one part of a path. -/
def step (folder : Folder) (place : Place) (part : String) : Except Unreadable Place :=
  if folder.isFolder place then
    if part = "" || part = "." then .ok place
    else if part = ".." then .ok place.up
    else if partBound < part.utf8ByteSize then .error .nameTooLong
    else lookUp part place
  else if (folder.textAt? place).isSome then .error .notDirectory
  else .error .missing

/-- **Follows the parts of a path** from a place on. -/
def walk (folder : Folder) (place : Place) (parts : List String) : Except Unreadable Place :=
  parts.foldlM folder.step place

/-- **Follows a path**, from the folder on unless it begins at the topmost one. -/
def find (folder : Folder) (path : String) : Except Unreadable Place :=
  if path.toList.contains '\x00' then .error .nullInName
  else if path.isEmpty then .error .missing
  else if pathBound < path.utf8ByteSize then .error .nameTooLong
  else
    let parts := Text.split (· = '/') path
    let home := Text.split (· = '/') folder.location
    if home.isPrefixOf parts then folder.walk (.inside []) (parts.drop home.length)
    else if isAbsolute path then folder.walk (.top []) (parts.drop 1)
    else folder.walk (.inside []) parts

/-- **The text of a file**, or why there is none. -/
def read (folder : Folder) (path : String) : Except Unreadable String := do
  let place ← folder.find path
  match folder.textAt? place with
  | some text => return text
  | none => if folder.isFolder place then throw .directory else throw .missing

/-- **Looking at the files of a folder.** -/
def access (folder : Folder) (userFolder? : Option String) : FileAccess Id where
  read path := folder.read path
  isFile path := (folder.read path).toBool
  userFolder? := userFolder?

end Folder

end Fanout.CommandLine
