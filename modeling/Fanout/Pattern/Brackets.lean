import Fanout.Pattern.CharSet

/-!
# Sets in brackets

The written form of a set of characters: characters and ranges stand side by side
between brackets, a `^` behind the opening bracket takes what is left out, `&&`,
`--` and `~~` combine what stands on their two sides, brackets may stand inside
brackets, and `[:name:]` is a set that has a name.

## Main definitions

* `Bracket` — what has been read of a set.
* `Bracket.opened` — how a set begins.
* `Bracket.step?` — reading on by one member, operator or bracket.

## Design notes

The three operators bind less tightly than standing side by side, and they are
applied from left to right.  Behind the opening bracket, dashes stand for
themselves, and so does a closing bracket that comes first; at any other place a
dash stands for itself in front of the closing bracket only.

A step looks ahead, and says how many of the characters ahead belong to it.
-/

namespace Fanout.Pattern

/-- Operator between sets. -/
inductive SetOperator where
  | both
  | without
  | apart
deriving DecidableEq, Repr

/-- The operator whose sign is a character written twice. -/
def SetOperator.ofChar? : Char → Option SetOperator
  | '&' => some both
  | '-' => some without
  | '~' => some apart
  | _ => none

/-- The set that an operator makes of two. -/
def SetOperator.apply : SetOperator → CharSet → CharSet → CharSet
  | both => .both
  | without => .without
  | apart => .apart

/-- What a character behind a backslash stands for: itself, if it is no letter or
digit. -/
def escaped? (c : Char) : Option Char := if c.isAlphanum then none else some c

/-- **What has been read of a set in brackets.** -/
structure Bracket where
  negated : Bool := false
  /-- What stands in front of the latest operator. -/
  left? : Option (SetOperator × CharSet) := none
  /-- What stands side by side behind it. -/
  members : CharSet := .none

namespace Bracket

/-- Adds a member. -/
def add (b : Bracket) (s : CharSet) : Bracket := { b with members := .either b.members s }

/-- All that has been read, by its operators. -/
def combined (b : Bracket) : CharSet :=
  match b.left? with
  | none => b.members
  | some (operator, left) => operator.apply left b.members

/-- Puts an operator behind all that has been read. -/
def combine (b : Bracket) (operator : SetOperator) : Bracket :=
  { b with left? := some (operator, b.combined), members := .none }

/-- The set, once its bracket closes. -/
def close (b : Bracket) : CharSet := if b.negated then .complement b.combined else b.combined

/-- **How a set begins** behind its opening bracket, and how many characters that
takes. -/
def opened (cs : List Char) : Bracket × Nat :=
  let negated := cs.head? = some '^'
  let inner := if negated then cs.tail else cs
  let size := cs.length - inner.length
  match inner with
  | '-' :: _ =>
    ({ negated, members := .single '-' }, size + (inner.takeWhile (· = '-')).length)
  | ']' :: _ => ({ negated, members := .single ']' }, size + 1)
  | _ => ({ negated }, size)

/-- The set with a name behind its opening bracket, and how many characters it
takes. -/
def named? (cs : List Char) : Option (CharSet × Nat) :=
  match cs with
  | ':' :: rest =>
    let negated := rest.head? = some '^'
    let inner := if negated then rest.tail else rest
    let name := inner.takeWhile (· ≠ ':')
    match CharSet.ascii? name, inner.drop name.length with
    | some set, ':' :: ']' :: behind =>
      some (if negated then .complement set else set, cs.length - behind.length)
    | _, _ => none
  | _ => none

/-- The end of a range whose start has been read, and how many characters it
takes, if there is one. -/
def rangeEnd? (cs : List Char) : Option (Option Char × Nat) :=
  match cs with
  | '-' :: ']' :: _ | '-' :: '-' :: _ => none
  | '-' :: '\\' :: c :: _ => some (escaped? c, 3)
  | '-' :: c :: _ => some (some c, 2)
  | _ => none

/-- Reads a member whose first character stands for `c`. -/
def member? (b : Bracket) (c : Char) (rest : List Char) : Option (Bracket × Nat) :=
  match rangeEnd? rest with
  | none => some (b.add (.single c), 0)
  | some (last?, size) => do
    let last ← last?
    if c ≤ last then return (b.add (.range c last), size) else none

/-- **Result of a step**: the sets whose brackets are open then, the innermost
first, and how many of the characters ahead belong to the step; or the whole set. -/
inductive Step where
  | more (innermost : Bracket) (outer : List Bracket) (ahead : Nat)
  | closed (set : CharSet)

/-- **Reads on** by a character and by what belongs to it of the characters
ahead. -/
def step? (b : Bracket) (outer : List Bracket) (c : Char) (rest : List Char) : Option Step :=
  if c = '[' then
    match named? rest with
    | some (set, ahead) => some (.more (b.add set) outer ahead)
    | none =>
      let (inner, ahead) := opened rest
      some (.more inner (b :: outer) ahead)
  else if c = ']' then
    match outer with
    | [] => some (.closed b.close)
    | parent :: outer => some (.more (parent.add b.close) outer 0)
  else
    match SetOperator.ofChar? c, rest.head? == some c with
    | some operator, true => some (.more (b.combine operator) outer 1)
    | _, _ =>
      match c, rest with
      | '\\', [] => none
      | '\\', e :: rest => do
        let (b, ahead) ← b.member? (← escaped? e) rest
        return .more b outer (ahead + 1)
      | c, rest => do
        let (b, ahead) ← b.member? c rest
        return .more b outer ahead

end Bracket

end Fanout.Pattern
