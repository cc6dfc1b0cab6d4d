import Fanout.Pattern.CharSet

/-!
# Patterns on paths

A pattern describes a set of texts by regular expressions with anchors.  A text
is searched in one pass: each set of an expression knows whether a match may have
consumed the last character by it, and `Expression.after` moves these marks on
over one more character.

## Main definitions

* `Expression` — a regular expression with the anchors of start and end.
* `Expression.occursIn` — whether some part of a text matches.

## Design notes

All matches that are under way share one expression, so a character costs no more
than a walk through it, however many ways there are to match.

An anchor matches nothing but a place, so whether an expression admits the empty
text depends on where in the searched text it stands.  `admitsEmpty` is told
both facts about the place, and `after`, which is about to read a character and
so is not at the end, the one about the start.
-/

namespace Fanout.Pattern

/-- **Regular expression with anchors.** -/
inductive Expression where
  /-- Nothing matches. -/
  | never
  /-- The empty text. -/
  | empty
  /-- The place before the whole text. -/
  | atStart
  /-- The place after the whole text. -/
  | atEnd
  /-- One character of a set.  It is `reached` if a match may have consumed the
  last character by it. -/
  | one (set : CharSet) (reached : Bool := false)
  | seq (first second : Expression)
  | either (left right : Expression)
  /-- Any number of repetitions. -/
  | many (body : Expression)
  /-- At least one repetition. -/
  | oneOrMore (body : Expression)
deriving DecidableEq, Repr

namespace Expression

/-- One expression after the other, in its simplest form. -/
def andThen : Expression → Expression → Expression
  | never, _ => never
  | _, never => never
  | empty, e => e
  | e, empty => e
  | e, f => seq e f

/-- Whether the empty text matches at a place that is, or is not, the start and
the end. -/
def admitsEmpty (start stop : Bool) : Expression → Bool
  | never => false
  | empty => true
  | atStart => start
  | atEnd => stop
  | one _ _ => false
  | seq e f => e.admitsEmpty start stop && f.admitsEmpty start stop
  | either e f => e.admitsEmpty start stop || f.admitsEmpty start stop
  | many _ => true
  | oneOrMore e => e.admitsEmpty start stop

/-- Whether a match that is under way is complete at a place: the last character
was consumed by a set behind which the rest admits the empty text. -/
def reached (start stop : Bool) : Expression → Bool
  | never => false
  | empty => false
  | atStart => false
  | atEnd => false
  | one _ marked => marked
  | seq e f => e.reached start stop && f.admitsEmpty start stop || f.reached start stop
  | either e f => e.reached start stop || f.reached start stop
  | many e => e.reached start stop
  | oneOrMore e => e.reached start stop

/-- **The marks after one more character**, where a match may begin in front of it
if `enter`.  The second of two expressions is entered when the first is complete,
and so is a repetition once more. -/
def after (start : Bool) (c : Char) : Bool → Expression → Expression
  | _, never => never
  | _, empty => empty
  | _, atStart => atStart
  | _, atEnd => atEnd
  | enter, one set _ => one set (enter && set.contains c)
  | enter, seq e f =>
    seq (e.after start c enter)
      (f.after start c (enter && e.admitsEmpty start false || e.reached start false))
  | enter, either e f => either (e.after start c enter) (f.after start c enter)
  | enter, many e => many (e.after start c (enter || e.reached start false))
  | enter, oneOrMore e => oneOrMore (e.after start c (enter || e.reached start false))

/-- Whether a match ends in front of a text, the rest of a longer one unless
`start`, or somewhere in it. -/
def endsIn (start : Bool) (e : Expression) : List Char → Bool
  | [] => e.admitsEmpty start true || e.reached start true
  | c :: rest =>
    e.admitsEmpty start false || e.reached start false || (e.after start c true).endsIn false rest

/-- **Whether some part of a text matches.** -/
def occursIn (e : Expression) (text : List Char) : Bool := e.endsIn true text

end Expression

end Fanout.Pattern
