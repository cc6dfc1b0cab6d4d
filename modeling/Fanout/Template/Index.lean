import Fanout.SortedMap
import Fanout.Template.Revisions
import Fanout.Template.Routing

/-!
# Index of templates

The templates of a run are unique by key and by physical path.  A template whose
path is taken is dropped; a key that is registered again at a free path moves
there.

## Main definitions

* `TemplateIndex` — the stored templates by key, and the paths they take.
* `TemplateIndex.register` — suppresses, routes, and stores a template.
* `TemplateIndex.insert` — stores a template where it is.
* `TemplateIndex.remove` — removes a template and frees its path.
-/

namespace Fanout

/-- **Templates of a run.** -/
structure TemplateIndex where
  rules : List RoutingRule
  suppressions : List Suppression
  templates : SortedMap String Template
  /-- The physical paths of the stored templates. -/
  paths : SortedSet String
  revisions : Revisions

namespace TemplateIndex

/-- No templates, with some rules behind the standard ones. -/
def empty (extraRules : List RoutingRule := []) : TemplateIndex where
  rules := RoutingRule.standard ++ extraRules
  suppressions := Suppression.standard
  templates := .empty
  paths := .empty
  revisions := .empty

instance : Inhabited TemplateIndex := ⟨empty⟩

/-- Where a template would go. -/
def route (x : TemplateIndex) (q : RoutingQuestion) : Route := .ofRules x.rules q

/-- Whether a template is dropped for making sense in an application only. -/
def isSuppressed (x : TemplateIndex) (key : String) (t : Template) (singleModule : Bool) : Bool :=
  !singleModule && x.suppressions.any fun s => s.covers key t

/-- Removes the template of a key and frees its path. -/
def remove (x : TemplateIndex) (key : String) : TemplateIndex :=
  match x.templates.find? key with
  | none => x
  | some t =>
    { x with templates := x.templates.erase key, paths := x.paths.erase t.physicalPath }

/-- **Stores a template where it is**, unless its path is taken. -/
def insert (x : TemplateIndex) (key : String) (t : Template) : TemplateIndex × Registration :=
  if x.paths.contains t.physicalPath then (x, .duplicate)
  else
    let freed := x.remove key
    ({ freed with
        templates := freed.templates.insert key t
        paths := freed.paths.insert t.physicalPath },
      .registered key t.module)

/-- **Suppresses, routes, or stores a template** registered on behalf of a
target. -/
def register (x : TemplateIndex) (key : String) (t : Template) (scope : Target)
    (singleModule : Bool) : TemplateIndex × Registration :=
  if x.isSuppressed key t singleModule then (x, .suppressed)
  else
    let route := x.route ⟨key, t, scope, singleModule⟩
    x.insert (route.keyFor key) (t.withModule route.module)

/-- The template of a key. -/
def find? (x : TemplateIndex) (key : String) : Option Template := x.templates.find? key

/-- Whether a physical path is taken. -/
def containsPath (x : TemplateIndex) (path : String) : Bool := x.paths.contains path

/-- The number of templates. -/
def size (x : TemplateIndex) : Nat := x.templates.size

/-- Whether there is no template. -/
def isEmpty (x : TemplateIndex) : Bool := x.templates.isEmpty

/-- Adds a revision for a key. -/
def reviseKey (x : TemplateIndex) (key : String) (f : Revision) : TemplateIndex :=
  { x with revisions := x.revisions.addForKey key f }

/-- Adds a revision for the paths that match a pattern. -/
def revisePattern (x : TemplateIndex) (p : Pattern) (f : Revision) : TemplateIndex :=
  { x with revisions := x.revisions.addForPattern p f }

end TemplateIndex

end Fanout
