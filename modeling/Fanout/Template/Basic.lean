import Fanout.BuildOptions
import Fanout.Configuration.Basic
import Fanout.Target

/-!
# Templates

A template is a file to be generated: where it goes, and where its content comes
from.  How a model produces its text is not looked at; a model is its result.

## Main definitions

* `Content` — a source of content, and `Content.output`, the content itself.
* `Template` — a content with its module and path.
* `LanguageTemplates`, `TestTemplates` — models to choose from.
* `Registration` — what became of a template.
-/

namespace Fanout

/-- Text that a model produces, or its failure. -/
abbrev Model := Except Fault String

/-- **Source of content.** -/
inductive Content where
  /-- The text of a model. -/
  | model (result : Model)
  /-- The text as given. -/
  | text (s : String)
  /-- A configuration, as the text of a properties file. -/
  | properties (c : Configuration)
  /-- The copy of a bundled file. -/
  | resource (location : String)

/-- What a template may be looked at for. -/
inductive ContentKind where
  /-- A text, given or produced by a model. -/
  | rendered
  | properties
  | resource
deriving DecidableEq, Repr

/-- Content as it is handed over. -/
inductive Output where
  | text (s : String)
  /-- The place of a file that is copied as it is. -/
  | resource (location : String)
deriving DecidableEq, Repr

namespace ContentKind

def name : ContentKind → String
  | rendered => "rendered"
  | properties => "properties"
  | resource => "resource"

end ContentKind

namespace Content

def kind : Content → ContentKind
  | model _ | text _ => .rendered
  | properties _ => .properties
  | resource _ => .resource

/-- The content, or the failure of its model. -/
def output : Content → Except Fault Output
  | model result => result.map .text
  | text s => .ok (.text s)
  | properties c => .ok (.text c.properties)
  | resource location => .ok (.resource location)

end Content

/-- **Template.** -/
structure Template where
  module : Module
  /-- The path inside the module. -/
  path : String
  content : Content
  executable : Bool := false
  /-- The module is in its only spelling. -/
  canonical : module.canonical = module

namespace Template

/-- A template in a module, in whatever spelling. -/
def new (module : Module) (path : String) (content : Content) (executable : Bool := false) :
    Template :=
  ⟨module.canonical, path, content, executable, Module.canonical_canonical module⟩

def kind (t : Template) : ContentKind := t.content.kind

/-- The path with the module's folder, which tells all files of a run apart. -/
def physicalPath (t : Template) : String := t.module.name ++ "/" ++ t.path

/-- The same template in another module. -/
def withModule (t : Template) (module : Module) : Template :=
  { t with module := module.canonical, canonical := Module.canonical_canonical module }

@[simp] theorem module_new (module : Module) (path : String) (content : Content)
    (executable : Bool) : (new module path content executable).module = module.canonical := rfl

@[simp] theorem module_withModule (t : Template) (module : Module) :
    (t.withModule module).module = module.canonical := rfl

@[simp] theorem path_withModule (t : Template) (module : Module) :
    (t.withModule module).path = t.path := rfl

@[simp] theorem content_withModule (t : Template) (module : Module) :
    (t.withModule module).content = t.content := rfl

end Template

/-! ## Models to choose from -/

/-- Models by source language. -/
structure LanguageTemplates where
  java? : Option Model := none
  kotlin? : Option Model := none
  groovy? : Option Model := none

/-- The model for a language. -/
def LanguageTemplates.pick? (t : LanguageTemplates) : Language → Option Model
  | .java => t.java?
  | .kotlin => t.kotlin?
  | .groovy => t.groovy?

/-- Test models by test framework, and by language where the framework leaves it
open. -/
structure TestTemplates where
  spock? : Option Model := none
  javaJunit? : Option Model := none
  groovyJunit? : Option Model := none
  kotlinJunit? : Option Model := none
  kotest? : Option Model := none

/-- The model for a language and a framework. -/
def TestTemplates.pick? (t : TestTemplates) (language : Language) : TestFramework → Option Model
  | .spock => t.spock?
  | .kotest => t.kotest?
  | .junit =>
    match language with
    | .java => t.javaJunit?
    | .kotlin => t.kotlinJunit?
    | .groovy => t.groovyJunit?

/-! ## Registration -/

/-- **What became of a template.** -/
inductive Registration where
  /-- It is stored under a key, in a module. -/
  | registered (key : String) (module : Module)
  /-- It makes sense in an application only, and was dropped. -/
  | suppressed
  /-- Its path in its module is taken, and it was dropped. -/
  | duplicate
  /-- There is no model for the build's language or test framework. -/
  | noModel
deriving DecidableEq, Repr

/-- Whether the template is stored. -/
def Registration.isRegistered : Registration → Bool
  | registered _ _ => true
  | _ => false

end Fanout
