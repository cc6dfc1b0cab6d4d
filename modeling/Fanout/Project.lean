import Fanout.Text

/-!
# Project identities

Every generated module has a name and a package, and the names derived from
them that source templates use.

## Main definitions

* `Project.parse` — the identity of a qualified name: its last segment is the
  name, the rest the package.
* `Project.forModule` — the identity of a module in the same package.
* `Project.className`, `Project.propertyName` — the name as an identifier.
-/

namespace Fanout

/-- **Identity of a module.** -/
structure Project where
  name : String
  packageName : String
deriving DecidableEq, Repr, Inhabited

namespace Project

/-- The package of a project whose name has none. -/
def fallbackPackage : String := "com.example"

/-- Reads a qualified name.  A name without a package, or with an empty name or
package around its last dot, is a plain name. -/
def parse (qualified : String) : Project :=
  let trimmed := Text.trimEnds Text.isBlank qualified.toList
  let plain : Project :=
    ⟨String.ofList (Text.trimEnds (· = '.') trimmed), fallbackPackage⟩
  match Text.cutLast '.' trimmed with
  | none => plain
  | some (package, name) =>
    if package.isEmpty || name.isEmpty then plain
    else ⟨String.ofList name, String.ofList package⟩

/-- The identity of a module of the same package. -/
def forModule (p : Project) (moduleName : String) : Project :=
  parse (p.packageName ++ "." ++ moduleName)

/-- Package and name. -/
def qualifiedName (p : Project) : String := p.packageName ++ "." ++ p.name

/-- The package as a folder. -/
def packagePath (p : Project) : String :=
  String.ofList (p.packageName.toList.map fun c => if c = '.' then '/' else c)

/-! ## Identifiers -/

/-- Whether a character separates the parts of a name. -/
def separatesParts (c : Char) : Bool := c = '-' || c = '_' || c = '.'

/-- The characters with the first one in upper case. -/
def capitalize : List Char → List Char
  | [] => []
  | c :: rest => c.toUpper :: rest

/-- The characters with the first one in lower case. -/
def uncapitalize : List Char → List Char
  | [] => []
  | c :: rest => c.toLower :: rest

/-- The name of a class: `demo-app` becomes `DemoApp`. -/
def className (p : Project) : String :=
  String.ofList ((Text.pieces separatesParts p.name.toList).flatMap capitalize)

/-- The name of a property: `demo-app` becomes `demoApp`. -/
def propertyName (p : Project) : String :=
  String.ofList (uncapitalize p.className.toList)

@[simp] theorem capitalize_nil : capitalize [] = [] := rfl

@[simp] theorem capitalize_cons (c : Char) (rest : List Char) :
    capitalize (c :: rest) = c.toUpper :: rest := rfl

@[simp] theorem uncapitalize_nil : uncapitalize [] = [] := rfl

@[simp] theorem uncapitalize_cons (c : Char) (rest : List Char) :
    uncapitalize (c :: rest) = c.toLower :: rest := rfl

end Project

end Fanout
