import Fanout.Text
import Fanout.Configuration.Setting
import Fanout.Configuration.Flat
import Fanout.Configuration.Properties

/-!
# Configurations

What a generated module is configured with: a tree of settings of one kind, for
every environment or for one that has a name.

## Main definitions

* `Configuration` — a kind, perhaps an environment, and settings in canonical
  order.
* `Configuration.add`, `Configuration.get?` — writing and reading at a dotted
  path, of which only the non-empty segments count.
* `Configuration.path` — the file the configuration is written to.
-/

namespace Fanout

/-- Family a configuration belongs to. -/
inductive ConfigurationKind where
  | application
  /-- Read before the application starts. -/
  | bootstrap
deriving DecidableEq, Repr, Inhabited

/-- The name of the kind, with which its file names begin. -/
def ConfigurationKind.name : ConfigurationKind → String
  | application => "application"
  | bootstrap => "bootstrap"

/-- **Configuration of a module.** -/
structure Configuration where
  kind : ConfigurationKind
  /-- The environment an overlay is for. -/
  environment? : Option String
  /-- The settings under their names. -/
  values : List (String × Tree)
  /-- The names ascend strictly at every depth. -/
  canonical : (Tree.map values).Canonical

namespace Configuration

/-- The configuration without settings, for one environment or for all. -/
def ofKind (kind : ConfigurationKind) (environment? : Option String := none) : Configuration :=
  ⟨kind, environment?, [], Setting.emptyMap.canonical⟩

def application : Configuration := ofKind .application

def bootstrap : Configuration := ofKind .bootstrap

instance : Inhabited Configuration := ⟨application⟩

/-! ## Overlays with a name of their own -/

/-- The environment of development runs. -/
def developmentName : String := "dev"

/-- The environment of tests. -/
def testName : String := "test"

/-- The environment of function tests. -/
def functionName : String := "function"

def development : Configuration := ofKind .application (some developmentName)

def test : Configuration := ofKind .application (some testName)

def functionTest : Configuration := ofKind .application (some functionName)

def bootstrapTest : Configuration := ofKind .bootstrap (some testName)

/-! ## Settings -/

/-- Whether nothing is set. -/
def isEmpty (c : Configuration) : Bool := c.values.isEmpty

/-- The segments of a dotted path that are not empty. -/
def segments (path : String) : List String := Text.words (· = '.') path

/-- **Sets a value at a dotted path.**  What stands in the way becomes a map. -/
def add (c : Configuration) (path : String) (value : Setting) : Configuration :=
  { c with
    values := Tree.setAt (segments path) value.tree c.values
    canonical := Tree.setAt_canonical value.canonical (segments path) c.values c.canonical }

/-- Sets several values, one after the other. -/
def addAll (c : Configuration) (entries : List (String × Setting)) : Configuration :=
  entries.foldl (fun c entry => c.add entry.1 entry.2) c

/-- The value at a dotted path. -/
def get? (c : Configuration) (path : String) : Option Tree := Tree.getAt? (segments path) c.values

/-- Whether a dotted path has a value. -/
def contains (c : Configuration) (path : String) : Bool := (c.get? path).isSome

/-! ## Output -/

/-- The file of the configuration inside its module.  Overlays for tests and
for function tests are test resources. -/
def path (c : Configuration) : String :=
  match c.environment? with
  | none => "src/main/resources/" ++ c.kind.name ++ ".properties"
  | some environment =>
    let folder := if environment = testName ∨ environment = functionName then "test" else "main"
    "src/" ++ folder ++ "/resources/" ++ c.kind.name ++ "-" ++ environment ++ ".properties"

/-- The settings in one line. -/
def text (c : Configuration) : String := (Tree.map c.values).text

/-- The settings as the text of a properties file. -/
def properties (c : Configuration) : String := Properties.render (Tree.flatten c.values)

/-! ## Equations -/

@[simp] theorem values_ofKind (kind : ConfigurationKind) (environment? : Option String) :
    (ofKind kind environment?).values = [] := rfl

@[simp] theorem kind_add (c : Configuration) (path : String) (value : Setting) :
    (c.add path value).kind = c.kind := rfl

@[simp] theorem environment?_add (c : Configuration) (path : String) (value : Setting) :
    (c.add path value).environment? = c.environment? := rfl

theorem values_add (c : Configuration) (path : String) (value : Setting) :
    (c.add path value).values = Tree.setAt (segments path) value.tree c.values := rfl

end Configuration

end Fanout
