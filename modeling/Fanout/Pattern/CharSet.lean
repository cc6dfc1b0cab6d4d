/-!
# Sets of characters

A set of characters is built from ranges by the operations on sets.

## Main definitions

* `CharSet` — a set of characters as it is built.
* `CharSet.contains` — membership.
* `CharSet.ascii?` — the sets that have a name, all of them of ASCII characters.
-/

namespace Fanout.Pattern

/-- **Set of characters.** -/
inductive CharSet where
  | none
  /-- The characters from one to another, both included. -/
  | range (first last : Char)
  | complement (set : CharSet)
  /-- What is in one of two sets at least. -/
  | either (left right : CharSet)
  /-- What is in both of two sets. -/
  | both (left right : CharSet)
  /-- What is in the first of two sets and not in the second. -/
  | without (left right : CharSet)
  /-- What is in exactly one of two sets. -/
  | apart (left right : CharSet)
deriving DecidableEq, Repr

namespace CharSet

/-- The set of one character. -/
def single (c : Char) : CharSet := range c c

/-- Every character but the line feed. -/
def dot : CharSet := complement (single '\n')

/-- The union of some sets. -/
def anyOf (sets : List CharSet) : CharSet := sets.foldr either none

/-- **Membership.** -/
def contains (c : Char) : CharSet → Bool
  | none => false
  | range first last => first ≤ c && c ≤ last
  | complement s => !s.contains c
  | either s t => s.contains c || t.contains c
  | both s t => s.contains c && t.contains c
  | without s t => s.contains c && !t.contains c
  | apart s t => s.contains c != t.contains c

/-! ## Sets with a name -/

def digit : CharSet := range '0' '9'

def lower : CharSet := range 'a' 'z'

def upper : CharSet := range 'A' 'Z'

/-- Letters. -/
def alpha : CharSet := either upper lower

/-- Letters and digits. -/
def alnum : CharSet := either digit alpha

/-- What shows. -/
def graph : CharSet := range '!' '~'

/-- **The set of ASCII characters that has a name.** -/
def ascii? : List Char → Option CharSet
  | ['a', 'l', 'n', 'u', 'm'] => some alnum
  | ['a', 'l', 'p', 'h', 'a'] => some alpha
  | ['a', 's', 'c', 'i', 'i'] => some (range '\x00' '\x7f')
  | ['b', 'l', 'a', 'n', 'k'] => some (anyOf [single '\t', single ' '])
  | ['c', 'n', 't', 'r', 'l'] => some (either (range '\x00' '\x1f') (single '\x7f'))
  | ['d', 'i', 'g', 'i', 't'] => some digit
  | ['g', 'r', 'a', 'p', 'h'] => some graph
  | ['l', 'o', 'w', 'e', 'r'] => some lower
  | ['p', 'r', 'i', 'n', 't'] => some (either (single ' ') graph)
  | ['p', 'u', 'n', 'c', 't'] => some (without graph alnum)
  | ['s', 'p', 'a', 'c', 'e'] => some (either (range '\t' '\r') (single ' '))
  | ['u', 'p', 'p', 'e', 'r'] => some upper
  | ['w', 'o', 'r', 'd'] => some (either alnum (single '_'))
  | ['x', 'd', 'i', 'g', 'i', 't'] => some (anyOf [digit, range 'A' 'F', range 'a' 'f'])
  | _ => Option.none

end CharSet

end Fanout.Pattern
