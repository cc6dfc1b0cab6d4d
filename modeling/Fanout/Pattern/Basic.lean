import Fanout.Pattern.Brackets
import Fanout.Pattern.Expression

/-!
# Written patterns

The written form of a pattern: characters stand for themselves, `.` for any
character of a line, brackets for a set, parentheses and `|` for alternatives,
`*`, `+` and `?` for repetitions, `^` and `$` for the two ends, and a backslash
makes the next character, if it is no letter or digit, stand for itself.  A `?`
behind a repetition asks for a short match, which changes nothing here.

## Main definitions

* `Pattern` — an expression with its written form.
* `Pattern.parse?` — reads a written form.

## Design notes

The reader keeps the groups that are open, the innermost first, and for each the
alternatives read so far.  It recurses on the characters alone.
-/

namespace Fanout

/-- **Pattern.** -/
structure Pattern where
  /-- The written form. -/
  text : String
  expression : Pattern.Expression
deriving DecidableEq, Repr

namespace Pattern

/-- A group being read. -/
structure Group where
  /-- The alternatives before the one being read, the latest first. -/
  alternatives : List Expression := []
  /-- The items of the alternative being read, the latest first. -/
  items : List Expression := []

namespace Group

/-- The alternative being read as one expression. -/
def current (g : Group) : Expression := g.items.foldl (fun e item => item.andThen e) .empty

/-- Adds an item. -/
def push (g : Group) (e : Expression) : Group := { g with items := e :: g.items }

/-- Ends the alternative being read. -/
def split (g : Group) : Group := ⟨g.current :: g.alternatives, []⟩

/-- The group as one expression. -/
def close (g : Group) : Expression :=
  g.alternatives.foldl (fun e alternative => .either alternative e) g.current

/-- Puts a repetition around the latest item. -/
def repeated (g : Group) (f : Expression → Expression) : Option Group :=
  match g.items with
  | [] => none
  | e :: rest => some { g with items := f e :: rest }

end Group

/-- What is being read. -/
inductive Mode where
  | outside
  /-- Inside brackets, the innermost first, behind as many characters as have been
  read ahead. -/
  | inside (ahead : Nat) (innermost : Bracket) (outer : List Bracket)

/-- No or one repetition. -/
def optional (e : Expression) : Expression := .either .empty e

/-- Reads a written form inside the open groups. -/
def read : Mode → Group → List Group → List Char → Option Expression
  | .outside, g, [], [] => some g.close
  | .outside, _, _ :: _, [] => none
  | .inside _ _ _, _, _, [] => none
  | .inside (ahead + 1) b brackets, g, outer, _ :: rest =>
    read (.inside ahead b brackets) g outer rest
  | .inside 0 b brackets, g, outer, c :: rest => do
    match ← b.step? brackets c rest with
    | .more b brackets ahead => read (.inside ahead b brackets) g outer rest
    | .closed set => read .outside (g.push (.one set)) outer rest
  | .outside, g, outer, '(' :: rest => read .outside {} (g :: outer) rest
  | .outside, _, [], ')' :: _ => none
  | .outside, g, parent :: outer, ')' :: rest =>
    read .outside (parent.push g.close) outer rest
  | .outside, g, outer, '|' :: rest => read .outside g.split outer rest
  | .outside, g, outer, '[' :: rest =>
    let (b, ahead) := Bracket.opened rest
    read (.inside ahead b []) g outer rest
  | .outside, g, outer, '*' :: '?' :: rest => do read .outside (← g.repeated .many) outer rest
  | .outside, g, outer, '+' :: '?' :: rest => do read .outside (← g.repeated .oneOrMore) outer rest
  | .outside, g, outer, '?' :: '?' :: rest => do read .outside (← g.repeated optional) outer rest
  | .outside, g, outer, '*' :: rest => do read .outside (← g.repeated .many) outer rest
  | .outside, g, outer, '+' :: rest => do read .outside (← g.repeated .oneOrMore) outer rest
  | .outside, g, outer, '?' :: rest => do read .outside (← g.repeated optional) outer rest
  | .outside, g, outer, '^' :: rest => read .outside (g.push .atStart) outer rest
  | .outside, g, outer, '$' :: rest => read .outside (g.push .atEnd) outer rest
  | .outside, g, outer, '.' :: rest => read .outside (g.push (.one .dot)) outer rest
  | .outside, g, outer, '\\' :: c :: rest => do
    read .outside (g.push (.one (.single (← escaped? c)))) outer rest
  | .outside, _, _, ['\\'] => none
  | .outside, g, outer, c :: rest => read .outside (g.push (.one (.single c))) outer rest

/-- **Reads a written pattern.** -/
def parse? (text : String) : Option Pattern :=
  (read .outside {} [] text.toList).map fun e => ⟨text, e⟩

/-- Whether some part of a path matches. -/
def isIn (p : Pattern) (path : String) : Bool := p.expression.occursIn path.toList

end Pattern

end Fanout
