import Fanout.Pattern.Basic
import Fanout.SortedMap
import Fanout.Text.Quoted

/-!
# Revisions

The text of a template may be revised before it is handed over, by revisions
that belong to its key and by revisions that belong to a pattern on its path.

## Main definitions

* `Revisions` — revisions by key and by pattern, each in the order in which they
  were added.
* `Revisions.apply` — those of the key, then those of the patterns that match.

## Design notes

Two patterns are the same if they are written alike.  A pattern keeps its place
from the time it first got a revision.
-/

namespace Fanout

/-- A change to a text. -/
abbrev Revision := String → String

/-- **Revisions of a run.** -/
structure Revisions where
  byKey : SortedMap String (List Revision)
  byPattern : List (Pattern × List Revision)

namespace Revisions

/-- No revisions. -/
def empty : Revisions := ⟨.empty, []⟩

instance : Inhabited Revisions := ⟨empty⟩

/-- Adds a revision for a key. -/
def addForKey (r : Revisions) (key : String) (f : Revision) : Revisions :=
  { r with byKey := r.byKey.insert key ((r.byKey.find? key).getD [] ++ [f]) }

/-- Adds a revision to the pattern's, or the pattern with it. -/
def addIn (p : Pattern) (f : Revision) :
    List (Pattern × List Revision) → List (Pattern × List Revision)
  | [] => [(p, [f])]
  | (q, fs) :: rest => if q.text = p.text then (q, fs ++ [f]) :: rest else (q, fs) :: addIn p f rest

/-- Adds a revision for the paths that match a pattern. -/
def addForPattern (r : Revisions) (p : Pattern) (f : Revision) : Revisions :=
  { r with byPattern := addIn p f r.byPattern }

/-- The revisions for a key and a path, in the order in which they run. -/
def selectFor (r : Revisions) (key path : String) : List Revision :=
  (r.byKey.find? key).getD []
    ++ (r.byPattern.filter fun e => e.1.isIn path).flatMap fun e => e.2

/-- **Runs the revisions for a key and a path.** -/
def apply (r : Revisions) (key path text : String) : String :=
  (r.selectFor key path).foldl (fun text f => f text) text

/-- The keys with revisions, ascending. -/
def keys (r : Revisions) : List String := r.byKey.keys

/-- The patterns with revisions, in order. -/
def patterns (r : Revisions) : List String := r.byPattern.map fun e => e.1.text

/-- Whether there is no revision. -/
def isEmpty (r : Revisions) : Bool := r.byKey.isEmpty && r.byPattern.isEmpty

/-- Keys and patterns in one line. -/
def summary (r : Revisions) : String :=
  "PostProcessors \x7b keys: " ++ Text.quotedList r.keys ++ ", patterns: "
    ++ Text.quotedList r.patterns ++ " \x7d"

@[simp] theorem addIn_nil (p : Pattern) (f : Revision) : addIn p f [] = [(p, [f])] := rfl

theorem addIn_cons (p q : Pattern) (f : Revision) (fs : List Revision)
    (rest : List (Pattern × List Revision)) :
    addIn p f ((q, fs) :: rest) =
      if q.text = p.text then (q, fs ++ [f]) :: rest else (q, fs) :: addIn p f rest := rfl

end Revisions

end Fanout
